import FlowScript.Programs.Format
import FlowScript.Programs.Shell.State

/-!
# Arithmetic in shell scripts

Expressions over integers of 64 bits, in which names are variables and assignments change them. What
the outcome does not depend on is read but not computed.
-/

namespace FlowScript.Programs.Shell.Arithmetic

/-- A token of an expression. -/
inductive Token where
  | number (n : Int)
  | name (s : String)
  | operator (s : String)
  /-- A character that means nothing. -/
  | strange
deriving DecidableEq

/-- The operators, longer ones before their beginnings. -/
def operators : List String :=
  ["<<=", ">>=", "<<", ">>", "<=", ">=", "==", "!=", "&&", "||", "+=", "-=", "*=", "/=", "%=", "&=",
    "|=", "^=", "=", "+", "-", "*", "/", "%", "<", ">", "!", "~", "&", "|", "^", "?", ":", "(", ")"]

/-- The operator at the front of a text. -/
def operator? (cs : List Char) : Option (String × List Char) :=
  operators.findSome? fun op =>
    if op.toList.isPrefixOf cs then some (op, cs.drop op.length) else none

/-- The integer of 64 bits that an integer stands for. -/
def wrap (n : Int) : Int :=
  let r := n % 18446744073709551616
  if r ≥ 9223372036854775808 then r - 18446744073709551616 else r

/-- The tokens of an expression. -/
def tokens : (fuel : Nat) → List Char → List Token
  | 0, _ => []
  | _, [] => []
  | fuel + 1, c :: rest =>
    if c = ' ' || c = '\t' || c = '\n' then tokens fuel rest
    else if isNameStart c then
      let word := (c :: rest).takeWhile isNamePart
      .name (String.ofList word) :: tokens fuel (rest.dropWhile isNamePart)
    else match sizeAt? (c :: rest) with
      | some (n, rest) =>
        .number (if n > 9223372036854775807 then 9223372036854775807 else n) :: tokens fuel rest
      | none =>
        match operator? (c :: rest) with
        | some (op, rest) => .operator op :: tokens fuel rest
        | none => [.strange]

/-- The operators that join two operands, by how tightly they do so. -/
def level : Nat → List String
  | 0 => ["|"]
  | 1 => ["^"]
  | 2 => ["&"]
  | 3 => ["==", "!="]
  | 4 => ["<", "<=", ">", ">="]
  | 5 => ["<<", ">>"]
  | 6 => ["+", "-"]
  | _ => ["*", "/", "%"]

/-- The number of a condition. -/
def truth (b : Bool) : Int := if b then 1 else 0

/-- An operation on the bits of two integers. -/
def bitwise (f : Nat → Nat → Nat) (a b : Int) : Int :=
  let bits (n : Int) : Nat := (n % 18446744073709551616).toNat
  wrap (f (bits a) (bits b) : Nat)

/-- Joins two operands; nothing is divided by zero. -/
def combine? (op : String) (a b : Int) : Option Int :=
  let count := (b % 64).toNat
  match op with
  | "|" => some (bitwise Nat.lor a b)
  | "^" => some (bitwise Nat.xor a b)
  | "&" => some (bitwise Nat.land a b)
  | "==" => some (truth (a = b))
  | "!=" => some (truth (a ≠ b))
  | "<" => some (truth (a < b))
  | "<=" => some (truth (a ≤ b))
  | ">" => some (truth (a > b))
  | ">=" => some (truth (a ≥ b))
  | "<<" => some (wrap (a * (Nat.pow 2 count : Nat)))
  | ">>" => some (a / (Nat.pow 2 count : Nat))
  | "+" => some (wrap (a + b))
  | "-" => some (wrap (a - b))
  | "*" => some (wrap (a * b))
  | "/" => if b = 0 then none else some (wrap (a.tdiv b))
  | "%" => if b = 0 then none else some (wrap (a.tmod b))
  | _ => none

/-- What is computed: the value and the tokens left, in a shell. -/
abbrev Calc := Act (Int × List Token)

/-- Gives up on an expression. -/
def refuse {β : Type} (source why : String) : Act β :=
  fail ("arithmetic expression: " ++ why ++ ": \"" ++ source ++ "\"")

/-- Joins two operands. A quotient that is too large ends the process. -/
def combine (source op : String) (a b : Int) : Act Int :=
  if (op = "/" || op = "%") && a = Text.Integer.least && b = -1 then throw (.killed 8)
  else match combine? op a b with
    | some n => return n
    | none => refuse source "division by zero"

/-- The integer that a text writes as a whole, blanks around it aside. -/
def wholeInteger? (s : String) : Option Int :=
  let trimmed := String.ofList (s.toList.reverse.dropWhile isBlank).reverse
  match integerOf false trimmed with
  | (n, .whole) => some n
  | _ => none

/-- The integer that a variable holds; one without a value is zero. -/
def held (name : String) : Act Int := do
  let value := ((← value? name).getD "")
  match wholeInteger? value with
  | some n => return n
  | none =>
    if value.toList.all isBlank then return 0 else fail ("Illegal number: " ++ value)

/-- The operator of an assignment: nothing for a plain one. -/
def assigning? (op : String) : Option (Option String) :=
  if op = "=" then some none
  else match op.toList.reverse with
    | '=' :: rest =>
      let op := String.ofList rest.reverse
      if ["|", "^", "&", "<<", ">>", "+", "-", "*", "/", "%"].contains op then some (some op)
      else none
    | _ => none

mutual

/-- The value of an expression that may be an assignment; `idle` says that nothing is computed. -/
def assignment (source : String) : (fuel : Nat) → (idle : Bool) → List Token → Calc
  | 0, _, _ => refuse source "expecting primary"
  | fuel + 1, idle, ts =>
    let plain := condition source fuel idle ts
    match ts with
    | .name name :: .operator op :: rest =>
      match assigning? op with
      | none => plain
      | some joint => do
        let (b, rest) ← assignment source fuel idle rest
        if idle then return (b, rest)
        else
          let n ← match joint with
            | none => pure b
            | some joint => combine source joint (← held name) b
          assign name (Text.Integer.write n)
          return (n, rest)
    | _ => plain

/-- The value of an expression that may be a choice. -/
def condition (source : String) : (fuel : Nat) → (idle : Bool) → List Token → Calc
  | 0, _, _ => refuse source "expecting primary"
  | fuel + 1, idle, ts => do
    let (a, rest) ← either source fuel idle ts
    match rest with
    | .operator "?" :: rest =>
      let (b, rest) ← assignment source fuel (idle || a = 0) rest
      match rest with
      | .operator ":" :: rest =>
        let (c, rest) ← condition source fuel (idle || a ≠ 0) rest
        return (if a = 0 then c else b, rest)
      | _ => refuse source "expecting ':'"
    | rest => return (a, rest)

/-- The value of conditions of which one has to hold. -/
def either (source : String) : (fuel : Nat) → (idle : Bool) → List Token → Calc
  | 0, _, _ => refuse source "expecting primary"
  | fuel + 1, idle, ts => do
    let (a, rest) ← both source fuel idle ts
    match rest with
    | .operator "||" :: rest =>
      let (b, rest) ← either source fuel (idle || a ≠ 0) rest
      return (truth (a ≠ 0 || b ≠ 0), rest)
    | rest => return (a, rest)

/-- The value of conditions that all have to hold. -/
def both (source : String) : (fuel : Nat) → (idle : Bool) → List Token → Calc
  | 0, _, _ => refuse source "expecting primary"
  | fuel + 1, idle, ts => do
    let (a, rest) ← joined source fuel idle 0 ts
    match rest with
    | .operator "&&" :: rest =>
      let (b, rest) ← both source fuel (idle || a = 0) rest
      return (truth (a ≠ 0 && b ≠ 0), rest)
    | rest => return (a, rest)

/-- The value of operands joined at a level or more tightly. -/
def joined (source : String) : (fuel : Nat) → (idle : Bool) → (depth : Nat) → List Token → Calc
  | 0, _, _, _ => refuse source "expecting primary"
  | fuel + 1, idle, depth, ts => do
    if depth > 7 then operand source fuel idle ts
    else
      let (a, rest) ← joined source fuel idle (depth + 1) ts
      continueJoined source fuel idle depth a rest

/-- Goes on with operands joined to one at a level. -/
def continueJoined (source : String) : (fuel : Nat) → (idle : Bool) → (depth : Nat) → Int →
    List Token → Calc
  | 0, _, _, _, _ => refuse source "expecting primary"
  | fuel + 1, idle, depth, a, ts => do
    match ts with
    | .operator op :: rest =>
      if (level depth).contains op then
        let (b, rest) ← joined source fuel idle (depth + 1) rest
        let n ← if idle then pure b else combine source op a b
        continueJoined source fuel idle depth n rest
      else return (a, ts)
    | _ => return (a, ts)

/-- The value of one operand. -/
def operand (source : String) : (fuel : Nat) → (idle : Bool) → List Token → Calc
  | 0, _, _ => refuse source "expecting primary"
  | fuel + 1, idle, ts => do
    match ts with
    | .number n :: rest => return (n, rest)
    | .name s :: rest => if idle then return (0, rest) else return (← held s, rest)
    | .operator "+" :: rest => operand source fuel idle rest
    | .operator "-" :: rest =>
      let (n, rest) ← operand source fuel idle rest
      return (wrap (-n), rest)
    | .operator "!" :: rest =>
      let (n, rest) ← operand source fuel idle rest
      return (truth (n = 0), rest)
    | .operator "~" :: rest =>
      let (n, rest) ← operand source fuel idle rest
      return (-n - 1, rest)
    | .operator "(" :: rest =>
      match ← assignment source fuel idle rest with
      | (n, .operator ")" :: rest) => return (n, rest)
      | _ => refuse source "expecting ')'"
    | _ => refuse source "expecting primary"

end

/-- The value of an expression. -/
def eval (source : String) : Act Int := do
  let ts := tokens (source.length + 1) source.toList
  match ← assignment source (16 * ts.length + 16) false ts with
  | (n, []) => return n
  | _ => refuse source "expecting EOF"

end FlowScript.Programs.Shell.Arithmetic
