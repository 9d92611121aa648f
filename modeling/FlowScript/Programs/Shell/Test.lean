import FlowScript.Programs.Shell.Arithmetic

/-!
# Tests

A test is an expression over texts, integers and files, one word for each operand and operator. How
a word is read depends on those around it: what looks like an operator may be an operand.
-/

namespace FlowScript.Programs.Shell.Test

/-- What a word of a test may be. -/
inductive Operator where
  | unary (s : String)
  | binary (s : String)
  | negation
  | both
  | either
  | opening
  | closing
deriving DecidableEq

/-- The operator that a word is. -/
def operator? (s : String) : Option Operator :=
  if ["-r", "-w", "-x", "-e", "-f", "-d", "-c", "-b", "-p", "-u", "-g", "-k", "-s", "-t", "-z",
      "-n", "-h", "-O", "-G", "-L", "-S"].contains s then some (.unary s)
  else if ["=", "!=", "<", ">", "-eq", "-ne", "-ge", "-gt", "-le", "-lt", "-nt", "-ot",
      "-ef"].contains s then some (.binary s)
  else match s with
    | "!" => some .negation
    | "-a" => some .both
    | "-o" => some .either
    | "(" => some .opening
    | ")" => some .closing
    | _ => none

/-- What a word is read as. -/
inductive Reading where
  | ending
  | operand
  | operator (op : Operator)
deriving DecidableEq

/-- Whether an operator is unary. -/
def isUnary : Option Operator → Bool
  | some (.unary _) => true
  | _ => false

/-- Whether an operator is binary. -/
def isBinary : Option Operator → Bool
  | some (.binary _) => true
  | _ => false

/-- How the first of some words is read. A unary operator with nothing after it, or in front of a
binary one, is an operand. -/
def readAt : List String → Reading
  | [] => .ending
  | s :: rest =>
    let op := operator? s
    let asOperand : Bool := match rest with
      | [] => isUnary op || op = some .opening
      | [_] => false
      | next :: _ => isUnary op && isBinary (operator? next)
    match op with
    | some op => if asOperand then .operand else .operator op
    | none => .operand

/-- A step of a test: the place in the words, which moves on. -/
abbrev Step := StateT (List String) (ExceptT Stop (StateM State))

/-- Complains about a word. -/
def refuse {β : Type} (word why : String) : Step β :=
  fail (if word.isEmpty then why else word ++ ": " ++ why)

/-- Moves on by some words. -/
def move (n : Nat) : Step Unit := modify (·.drop n)

/-- A test of a file. -/
def fileTest (s : Streams) (op path : String) : Bool :=
  let entry := match s.files.entry (Text.ofRaw path) with
    | .ok (.stream fd) => s.entry? fd
    | e => e.toOption
  match entry with
  | none => false
  | some entry =>
    match op, entry with
    | "-e", _ | "-r", _ | "-w", _ | "-O", _ | "-G", _ => true
    | "-x", .directory | "-x", .program _ => true
    | "-f", .file _ | "-f", .program _ => true
    | "-d", .directory => true
    | "-c", .void | "-c", .full | "-c", .absent | "-p", .stream _ => true
    | "-s", .file contents => !contents.isEmpty
    | "-s", .directory | "-s", .program _ => true
    | _, _ => false

/-- A test of one operand. -/
def unaryTest (op a : String) : Act Bool := do
  match op with
  | "-n" => return !a.isEmpty
  | "-z" => return a.isEmpty
  | "-t" =>
    let _ ← integer a
    return false
  | op => return fileTest (← get).streams op a

/-- A test of two operands. -/
def binaryTest (op a b : String) : Act Bool := do
  match op with
  | "=" => return a = b
  | "!=" => return a ≠ b
  | "<" => return a < b
  | ">" => return b < a
  | "-nt" | "-ot" => return false
  | "-ef" =>
    let s := (← get).streams
    let place (path : String) : Option (List String) := (s.files.place (Text.ofRaw path)).toOption
    return fileTest s "-e" a && fileTest s "-e" b && place a = place b
  | op =>
    let m ← integer a
    let n ← integer b
    match op with
    | "-eq" => return m = n
    | "-ne" => return m ≠ n
    | "-ge" => return m ≥ n
    | "-gt" => return m > n
    | "-le" => return m ≤ n
    | _ => return m < n

mutual

/-- Tests of which one has to hold, the first word read already. It stays at its last word. -/
def disjunction : (fuel : Nat) → Reading → Step Bool
  | 0, _ => return false
  | fuel + 1, r => do
    let a ← conjunction fuel r
    let next := readAt ((← get).drop 1)
    if next = .operator .either then
      move 2
      let b ← disjunction fuel (readAt (← get))
      return a || b
    else return a

/-- Tests that all have to hold. -/
def conjunction : (fuel : Nat) → Reading → Step Bool
  | 0, _ => return false
  | fuel + 1, r => do
    let a ← negated fuel r
    let next := readAt ((← get).drop 1)
    if next = .operator .both then
      move 2
      let b ← conjunction fuel (readAt (← get))
      return a && b
    else return a

/-- A test that may be negated. -/
def negated : (fuel : Nat) → Reading → Step Bool
  | 0, _ => return false
  | fuel + 1, r => do
    if r = .operator .negation then
      let next := readAt ((← get).drop 1)
      if next ≠ .ending then move 1
      return !(← negated fuel next)
    else single fuel r

/-- One test. -/
def single : (fuel : Nat) → Reading → Step Bool
  | 0, _ => return false
  | fuel + 1, r => do
    match r with
    | .ending => return false
    | .operator .opening =>
      move 1
      let next := readAt (← get)
      if next = .operator .closing then return false
      else
        let a ← disjunction fuel next
        move 1
        if readAt (← get) ≠ .operator .closing then refuse "" "closing paren expected"
        else return a
    | .operator (.unary op) =>
      move 1
      match (← get).head? with
      | none => refuse op "argument expected"
      | some a => unaryTest op a
    | _ =>
      match ← get with
      | [] => return false
      | a :: rest =>
        match readAt rest with
        | .operator (.binary op) =>
          move 2
          match (← get).head? with
          | none => refuse op "argument expected"
          | some b => binaryTest op a b
        | _ => return !a.isEmpty

end

/-- Whether the test that some words write holds. -/
def holds : (fuel : Nat) → List String → Act Bool
  | 0, _ => return false
  | _, [] => return false
  | fuel + 1, words => do
    let eval (r : Reading) (words : List String) : Act Bool := do
      let (b, rest) ← (disjunction (4 * words.length + 8) r).run words
      match rest with
      | word :: _ :: _ => fail (if word.isEmpty then "unexpected operator" else
          word ++ ": unexpected operator")
      | _ => return b
    let bare : Act Bool :=
      if words.length = 3 || words.length = 4 then
        if words.head? = some "(" && words.getLast? = some ")" then
          let inner := words.tail.dropLast
          eval (readAt inner) inner
        else if words.head? = some "!" then do return !(← holds fuel words.tail)
        else eval (readAt words) words
      else eval (readAt words) words
    match words with
    | [_, op, _] => if isBinary (operator? op) then eval .operand words else bare
    | _ => bare

/-- The command `test`, also by the name `[`: the status. -/
def command (name : String) (args : List String) : Act Nat := do
  let words ← if name = "[" then
      if args.getLast?.any (·.toList.head? = some ']') then pure args.dropLast else fail "missing ]"
    else pure args
  return if ← holds (words.length + 1) words then 0 else 1

end FlowScript.Programs.Shell.Test
