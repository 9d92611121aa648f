/-!
# Patterns

A pattern matches texts: `?` any character, `*` any run of them, and brackets any of a set. After a
backslash a character stands for itself. Brackets that are not closed are plain characters.
-/

namespace FlowScript.Programs.Shell

/-- A member of a set of characters. -/
inductive Member where
  | one (c : Char)
  | range (first last : Char)
  | kind (holds : Char → Bool)

/-- Whether a character is the member. -/
def Member.holds (m : Member) (c : Char) : Bool :=
  match m with
  | one d => c = d
  | range first last => first ≤ c && c ≤ last
  | kind p => p c

/-- A part of a pattern. -/
inductive Part where
  | exactly (c : Char)
  | any
  | many
  | set (negated : Bool) (members : List Member)

/-- Whether a part matches a character. A zero ends a text. -/
def Part.holds : Part → Char → Bool
  | exactly c, d => c = d
  | any, d => d ≠ '\x00'
  | many, _ => false
  | set negated ms, d => d ≠ '\x00' && (ms.any (·.holds d)) ≠ negated

namespace Pattern

/-- The kinds of characters that have names. -/
def kinds : List (String × (Char → Bool)) :=
  let shown (c : Char) : Bool := '!' ≤ c && c ≤ '~'
  let blank (c : Char) : Bool := c = ' ' || c = '\t'
  let control (c : Char) : Bool := c.toNat < 32 || c.toNat = 127
  let space (c : Char) : Bool := c = ' ' || (9 ≤ c.toNat && c.toNat ≤ 13)
  let hex (c : Char) : Bool := c.isDigit || ('a' ≤ c && c ≤ 'f') || ('A' ≤ c && c ≤ 'F')
  [("alnum", Char.isAlphanum), ("cntrl", control), ("lower", Char.isLower), ("space", space),
    ("alpha", Char.isAlpha), ("digit", Char.isDigit), ("print", fun c => shown c || c = ' '),
    ("upper", Char.isUpper), ("blank", blank), ("graph", shown),
    ("punct", fun c => shown c && !c.isAlphanum), ("xdigit", hex)]

/-- The named kind at the front of a text that follows an opening bracket. -/
def kind? (cs : List Char) : Option (Member × List Char) :=
  kinds.findSome? fun (name, p) =>
    let text := (":" ++ name ++ ":]").toList
    if text.isPrefixOf cs then some (.kind p, cs.drop text.length) else none

/-- Reads the members of a set up to the closing bracket; nothing if there is none. The first member
may be a closing bracket. -/
def members? : (fuel : Nat) → (first : Bool) → List Char → Option (List Member × List Char)
  | 0, _, _ => none
  | _, _, [] => none
  | fuel + 1, first, c :: rest =>
    if c = ']' && !first then some ([], rest)
    else
      let onward (m : Member) (rest : List Char) : Option (List Member × List Char) := do
        let (ms, rest) ← members? fuel false rest
        some (m :: ms, rest)
      match (if c = '[' then kind? rest else none) with
      | some (m, rest) => onward m rest
      | none => do
        let (c, rest) ← match c, rest with
          | '\\', d :: rest => some (d, rest)
          | '\\', [] => none
          | c, rest => some (c, rest)
        match rest with
        | '-' :: d :: after =>
          if d = ']' then onward (.one c) rest
          else match d, after with
            | '\\', e :: after => onward (.range c e) after
            | d, after => onward (.range c d) after
        | rest => onward (.one c) rest

/-- The parts of a pattern. -/
def parts : (fuel : Nat) → List Char → List Part
  | 0, _ => []
  | _, [] => []
  | fuel + 1, c :: rest =>
    match c with
    | '?' => .any :: parts fuel rest
    | '*' => .many :: parts fuel rest
    | '\\' =>
      match rest with
      | d :: rest => .exactly d :: parts fuel rest
      | [] => [.exactly '\\']
    | '[' =>
      let (negated, body) := match rest with
        | '!' :: body => (true, body)
        | body => (false, body)
      match members? body.length.succ true body with
      | some (ms, rest) => .set negated ms :: parts fuel rest
      | none => .exactly '[' :: parts fuel rest
    | c => .exactly c :: parts fuel rest

/-- What is left of a text when characters are taken from its front, up to its end. -/
def tails : List Char → List (List Char)
  | [] => [[]]
  | c :: cs => if c = '\x00' then [c :: cs] else (c :: cs) :: tails cs

/-- Whether parts match a text in full. -/
def fits : List Part → List Char → Bool
  | [], cs => cs.head?.all (· = '\x00')
  | [.many], _ => true
  | .many :: ps, cs => (tails cs).any fun rest => fits ps rest
  | _ :: _, [] => false
  | p :: ps, c :: cs => p.holds c && fits ps cs

/-- What is left of a text after the shortest part at its front that parts match, or the longest. -/
def rest? (longest : Bool) : List Part → List Char → Option (List Char)
  | [], cs => some cs
  | .many :: ps, cs =>
    (if longest then (tails cs).reverse else tails cs).findSome? fun rest => rest? longest ps rest
  | _ :: _, [] => none
  | p :: ps, c :: cs => if p.holds c then rest? longest ps cs else none

/-- A text and all that is left of it when characters are taken from its front. -/
def suffixes : List Char → List (List Char)
  | [] => [[]]
  | c :: cs => (c :: cs) :: suffixes cs

/-- The parts of a pattern that is written out. -/
def ofChars (cs : List Char) : List Part := parts cs.length.succ cs

/-- Whether a pattern matches a text in full. -/
def isMatch (pattern text : List Char) : Bool := fits (ofChars pattern) text

/-- Whether a text holds a character that can make it a pattern. -/
def isPattern (cs : List Char) : Bool :=
  cs.any fun c => c = '*' || c = '?' || c = '['

/-- A text without the part at one end that a pattern matches, which is as short as can be or as
long. If all is matched up to a zero, what follows it goes as well. -/
def trim (atEnd longest : Bool) (pattern : List Char) (text : List Char) : List Char :=
  let ps := ofChars pattern
  if atEnd then
    let ends := (suffixes text).zipIdx
    match (if longest then ends else ends.reverse).find? (fits ps ·.1) with
    | some (_, n) => text.take n
    | none => text
  else match rest? longest ps text with
    | some rest => if longest && rest.head? = some '\x00' then [] else rest
    | none => text

end Pattern

end FlowScript.Programs.Shell
