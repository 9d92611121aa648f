import FlowScript.Programs.Format
import FlowScript.Programs.Shell.Options

/-!
# Permissions

New files lack some permissions, which are written as digits, or as letters for whom and what.
-/

namespace FlowScript.Programs.Shell

/-- Three bits as letters. -/
def permissions (n : Nat) : String :=
  (if n / 4 % 2 = 1 then "r" else "") ++ (if n / 2 % 2 = 1 then "w" else "") ++
    (if n % 2 = 1 then "x" else "")

/-- The permissions that letters grant, and what follows them. Those of the user, the group and the
others are looked up in what is granted. -/
def permissionsAt (granted : Nat) : List Char → Nat × List Char
  | [] => (0, [])
  | c :: cs =>
    let bits : Option Nat := match c with
      | 'r' => some 4
      | 'w' => some 2
      | 'x' => some 1
      | 'u' => some (granted / 64)
      | 'g' => some (granted / 8)
      | 'o' => some granted
      | 'X' => some (if granted / 64 % 2 + granted / 8 % 2 + granted % 2 > 0 then 1 else 0)
      | 's' => some 0
      | _ => none
    match bits with
    | none => (0, c :: cs)
    | some b =>
      let (more, rest) := permissionsAt granted cs
      (Nat.lor (b % 8) more, rest)

/-- Whom letters stand for: everybody if there are none. -/
def everybody (whom : List Char) : Nat :=
  let all := whom.isEmpty || whom.contains 'a'
  (if all || whom.contains 'u' then 64 else 0) + (if all || whom.contains 'g' then 8 else 0) +
    (if all || whom.contains 'o' then 1 else 0)

/-- Permissions changed as letters say; `granted` are those at the beginning, and `whom` is who is
meant if nobody is named. Nothing if the letters mean nothing. -/
def changePermissions (granted : Nat) : (fuel : Nat) → (whom : List Char) → (now : Nat) →
    List Char → Option Nat
  | 0, _, _, _ => none
  | _, _, now, [] => some now
  | fuel + 1, whom, now, cs =>
    let isWhom (c : Char) : Bool := ['a', 'u', 'g', 'o'].contains c
    let whom := whom ++ cs.takeWhile isWhom
    match cs.dropWhile isWhom with
    -- those who are only named keep what they have
    | [] => some now
    | op :: rest =>
      let (bits, rest) := permissionsAt granted rest
      let value := bits * everybody whom
      let now? : Option Nat := match op with
        | '=' => some (Nat.lor value (Nat.land now (511 - 7 * everybody whom)))
        | '+' => some (Nat.lor now value)
        | '-' => some (Nat.land now (511 - value))
        | _ => none
      match now?, rest with
      | none, _ => none
      | some now, [] => some now
      | some now, ',' :: rest => changePermissions granted fuel [] now rest
      | some now, c :: rest =>
        if ['=', '+', '-'].contains c then
          changePermissions granted fuel (if whom.isEmpty then ['a'] else whom) now (c :: rest)
        else none

/-- Shows or sets the permissions that new files lack. -/
def umaskCommand (args : List String) : Act Nat := do
  let (options, operands) ← optionsOf ['S'] args
  let mask := (← get).mask
  let granted := 511 - mask
  match operands with
  | [] =>
    if !options.isEmpty then
      put ("u=" ++ permissions (granted / 64) ++ ",g=" ++ permissions (granted / 8 % 8) ++ ",o=" ++
        permissions (granted % 8) ++ "\n")
    else
      let digits := Nat.toDigits 8 mask
      put (String.ofList (List.replicate (4 - digits.length) '0' ++ digits) ++ "\n")
    return 0
  | arg :: _ =>
    let cs := arg.toList
    if cs.head?.any Char.isDigit then
      if cs.all isOctal then
        modify fun s => { s with mask := Real.natIn 8 cs % 512 }
        return 0
      else fail ("Illegal number: " ++ arg)
    else match changePermissions granted (cs.length + 1) [] granted cs with
      | some now =>
        modify fun s => { s with mask := 511 - now }
        return 0
      | none => fail ("Illegal mode: " ++ arg)

end FlowScript.Programs.Shell
