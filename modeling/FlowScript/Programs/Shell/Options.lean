import FlowScript.Programs.Shell.State

/-!
# Options of commands

The commands of a shell take options as letters in front of their operands. Those of the shell
itself are turned on and off.
-/

namespace FlowScript.Programs.Shell

/-! ## Options of commands -/

/-- The options in front of the operands. A letter that `valued` holds takes a value. -/
def takeOptions (letters valued : List Char) : (fuel : Nat) → List String →
    Act (List (Char × String) × List String)
  | 0, args => return ([], args)
  | _, [] => return ([], [])
  | fuel + 1, arg :: rest => do
    match arg.toList with
    | ['-', '-'] => return ([], rest)
    | '-' :: c :: cs =>
      if valued.contains c then
        match cs, rest with
        | [], [] => fail ("No arg for -" ++ String.singleton c ++ " option")
        | [], value :: rest =>
          let (options, operands) ← takeOptions letters valued fuel rest
          return ((c, value) :: options, operands)
        | cs, rest =>
          let (options, operands) ← takeOptions letters valued fuel rest
          return ((c, String.ofList cs) :: options, operands)
      else if letters.contains c then
        let rest := if cs.isEmpty then rest else String.ofList ('-' :: cs) :: rest
        let (options, operands) ← takeOptions letters valued fuel rest
        return ((c, "") :: options, operands)
      else fail ("Illegal option -" ++ String.singleton c)
    | _ => return ([], arg :: rest)

/-- The options and operands of a command. -/
def optionsOf (letters : List Char) (args : List String) :
    Act (List Char × List String) := do
  let (options, operands) ← takeOptions letters [] (args.length + (String.join args).length) args
  return (options.map (·.1), operands)

/-! ## Options of the shell -/

/-- Turns the option with a name on or off. -/
def turnNamed (name : String) (on : Bool) : Act Unit :=
  match (optionNames ++ letterless).find? (·.1 = name) with
  | some (_, letter) => modify (·.turn letter on)
  | none => fail ("Illegal option -o " ++ name)

/-- Turns the options with some letters on or off; the letter `o` takes a name from the arguments,
which are given back. -/
def turnLetters (on : Bool) : List Char → List String → Act (List String)
  | [], args => return args
  | 'o' :: cs, args => do
    match args with
    | [] =>
      put (optionList (!on) (← get).has)
      turnLetters on cs []
    | name :: args =>
      turnNamed name on
      turnLetters on cs args
  | c :: cs, args => do
    if optionNames.any (·.2 = c) then
      modify (·.turn c on)
      turnLetters on cs args
    else fail ("Illegal option -" ++ String.singleton c)

/-- Has a shell control its jobs if that was asked for, which takes a terminal that is not there. A
shell inside another one does not try. -/
def controlJobs : Act Unit := do
  let s ← get
  if s.has 'm' && s.self = s.shell then
    set (s.turn 'm' false)
    warn "can't access tty; job control turned off"

/-- Sets options: the arguments left, and whether parameters are set even if there are none. -/
def setOptions : (fuel : Nat) → List String → Act (List String × Bool)
  | 0, args => return (args, false)
  | _, [] => return ([], false)
  | fuel + 1, arg :: rest => do
    match arg.toList with
    | ['-'] =>
      modify fun s => (s.turn 'x' false).turn 'v' false
      return (rest, false)
    | ['-', '-'] => return (rest, true)
    | '-' :: cs => setOptions fuel (← turnLetters true cs rest)
    | '+' :: cs => setOptions fuel (← turnLetters false cs rest)
    | _ => return (arg :: rest, true)

end FlowScript.Programs.Shell
