import FlowScript.Programs.Shell.Options

/-!
# Limits

What a process may use of something is limited. A limit may be lowered, and raised up to the highest
value that it may have.
-/

namespace FlowScript.Programs.Shell

/-- What is limited. -/
structure Resource where
  letter : Char
  name : String
  /-- How much one of the units is that it is counted in. -/
  unit : Nat := 1

/-- All that is limited. -/
def resources : List Resource :=
  [⟨'t', "time(seconds)", 1⟩, ⟨'f', "file(blocks)", 512⟩, ⟨'d', "data(kbytes)", 1024⟩,
    ⟨'s', "stack(kbytes)", 1024⟩, ⟨'c', "coredump(blocks)", 512⟩, ⟨'m', "memory(kbytes)", 1024⟩,
    ⟨'l', "locked memory(kbytes)", 1024⟩, ⟨'p', "process", 1⟩, ⟨'n', "nofiles", 1⟩,
    ⟨'v', "vmemory(kbytes)", 1024⟩, ⟨'w', "locks", 1⟩, ⟨'r', "rtprio", 1⟩]

/-- The limit of a resource that nobody has changed. -/
def Limit.usual : Char → Limit
  | 's' => ⟨some 8388608, none⟩
  | 'c' => ⟨some 0, none⟩
  | 'l' => ⟨some 8388608, some 8388608⟩
  | 'p' => ⟨some 128597, some 128597⟩
  | 'n' => ⟨some 20000, some 20000⟩
  | 'r' => ⟨some 0, some 0⟩
  | _ => ⟨none, none⟩

/-- The limit of a resource. -/
def State.limit (s : State) (r : Resource) : Limit :=
  ((s.limits.find? (·.1 = r.letter)).map (·.2)).getD (Limit.usual r.letter)

/-- Whether a value is above another one; none is the highest. -/
def exceeds : Option Nat → Option Nat → Bool
  | _, none => false
  | none, some _ => true
  | some a, some b => a > b

/-- The value that an argument writes. -/
def limitValue (r : Resource) (arg : String) : Act (Option Nat) := do
  if arg = "unlimited" then return none
  else if arg.toList.all Char.isDigit then
    return some (((Text.Integer.natOfDigits? arg.toList).getD 0) * r.unit)
  else fail "bad number"

/-- Shows or changes a limit. -/
def ulimitCommand (args : List String) : Act Nat := do
  let (options, operands) ← optionsOf ("HSatfdscmlpnvwr".toList) args
  let hard := options.filter fun c => c = 'H' || c = 'S'
  let changesHard := hard.getLast? ≠ some 'S'
  let changesSoft := hard.getLast? ≠ some 'H'
  let s ← get
  let shown (r : Resource) : String :=
    let limit := s.limit r
    match if changesSoft then limit.soft else limit.hard with
    | none => "unlimited\n"
    | some n => toString (n / r.unit) ++ "\n"
  let letter := (options.filter fun c => c ≠ 'H' && c ≠ 'S' && c ≠ 'a').getLast?.getD 'f'
  let all := options.contains 'a'
  match operands, resources.find? (·.letter = letter) with
  | _, none => return 0
  | [], some r =>
    if all then
      for r in resources do
        let fill := String.ofList (List.replicate (20 - r.name.length) ' ')
        put (r.name ++ fill ++ " " ++ shown r)
    else put (shown r)
    return 0
  | arg :: rest, some r =>
    if all || !rest.isEmpty then fail "too many arguments"
    let value ← limitValue r arg
    let old := s.limit r
    let new : Limit := ⟨if changesSoft then value else old.soft,
      if changesHard then value else old.hard⟩
    if exceeds new.soft new.hard then fail "error setting limit (Invalid argument)"
    else if exceeds new.hard old.hard then
      fail "error setting limit (Operation not permitted)"
    else
      set { s with limits := (letter, new) :: s.limits.filter (·.1 ≠ letter) }
      return 0

end FlowScript.Programs.Shell
