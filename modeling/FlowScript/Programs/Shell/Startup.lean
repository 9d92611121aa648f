import FlowScript.Programs.Shell.State

/-!
# Starting a shell

A shell takes its variables from whoever starts it. Its arguments say which options are on and where
its script is: in an argument, in a file or on its input.
-/

namespace FlowScript.Programs.Shell

/-- The state that a shell starts with. The nearest of the processes that wait for it is known. -/
def State.start (name : String) (vars : Dict String) (parents : List Nat) (streams : Streams) :
    State :=
  let here := Text.toRaw (Files.key streams.files.here)
  let inherited := (vars.get? "PWD").filter fun dir =>
    Path.isAbsolute dir && (match streams.files.place (Text.ofRaw dir) with
      | .ok place => decide (place = streams.files.here)
      | .error _ => false)
  let directory := inherited.getD here
  let plain (value : String) : Variable := ⟨some value, false, false⟩
  let own := [("PS1", plain "# "), ("PS2", plain "> "), ("PS4", plain "+ "),
    ("PATH", plain fallbackPath)]
  let outer := vars.entries.filterMap fun (key, value) =>
    if isVariableName key.toList then some (key, Variable.mk (some value) true false) else none
  -- the values of some variables are not inherited
  let parent := toString (parents.head?.getD 4241)
  let reset := [("IFS", " \t\n"), ("OPTIND", "1"), ("PPID", parent)].map fun (key, value) =>
    (key, Variable.mk (some value) (vars.contains key) false)
  let all := own ++ outer ++ reset ++ [("PWD", ⟨some directory, true, false⟩)]
  { streams := streams, name := name, vars := Dict.ofList all, directory := directory
    parents := parents }

/-- How a shell is to be started. -/
structure Startup where
  /-- Whether the script is the first argument. -/
  isCommand : Bool := false
  /-- Whether the script is the input. -/
  isInput : Bool := false
  options : List Char := []
  /-- The options that were turned off. One that nobody speaks of counts as on in a list. -/
  off : List Char := []
  /-- The lists of options that were asked for. -/
  lists : String := ""
  /-- What is wrong with the arguments. -/
  fault : Option String := none
  args : List String

/-- Reads the arguments of a shell. -/
def Startup.read (start : Startup) : (fuel : Nat) → Startup
  | 0 => start
  | fuel + 1 =>
    match start.args with
    | [] => start
    | arg :: rest =>
      match arg.toList with
      | ['-'] | ['-', '-'] => { start with args := rest }
      | sign :: c :: cs =>
        if sign = '-' || sign = '+' then
          let start := letters (sign = '-') (c :: cs) { start with args := rest }
          if start.fault.isNone then Startup.read start fuel else start
        else start
      | _ => start
where
  /-- Takes letters of options. -/
  letters (on : Bool) : List Char → Startup → Startup
    | [], start => start
    | c :: cs, start =>
      let turned (letter : Char) : Startup :=
        { start with
          options := (if on then [letter] else []) ++ start.options.filter (· ≠ letter)
          off := (if on then [] else [letter]) ++ start.off.filter (· ≠ letter) }
      if c = 'c' then letters on cs { start with isCommand := true }
      else if c = 's' then letters on cs { turned 's' with isInput := on }
      else if c = 'l' then letters on cs start
      else if c = 'o' then
        match start.args with
        | [] =>
          let list := optionList (!on) (!start.off.contains ·)
          letters on cs { start with lists := start.lists ++ list }
        | name :: args =>
          match (optionNames ++ letterless).find? (·.1 = name) with
          | some (_, letter) => letters on cs { turned letter with args := args }
          | none => { start with fault := some ("Illegal option -o " ++ name) }
      else if optionNames.any (·.2 = c) then letters on cs (turned c)
      else { start with fault := some ("Illegal option -" ++ String.singleton c) }

/-- How a shell with these arguments is to be started. -/
def Startup.ofArgs (args : List String) : Startup :=
  let start := Startup.read { args := args } (args.length + 1)
  if start.fault.isNone && start.isCommand && start.args.isEmpty then
    { start with fault := some "-c requires an argument" }
  else start

end FlowScript.Programs.Shell
