import FlowScript.Programs.Shell.Expand

/-!
# What commands call

The first field of a simple command says what it calls, unless it only says how to look for it. As
many words are expanded as are needed to know, since that decides how the others are expanded.
-/

namespace FlowScript.Programs.Shell

/-- What a simple command calls. -/
structure Target where
  /-- Which field is its name. -/
  position : Nat := 0
  /-- Whether functions are left aside. -/
  noFunctions : Bool := false
  /-- Whether the usual directories are searched. -/
  usual : Bool := false

/-- Expands words until there are some number of fields. -/
def fill (output : Option Command → Act String) (n : Nat) : List String → List Word →
    Act (List String × List Word)
  | fields, [] => return (fields, [])
  | fields, w :: rest => do
    if fields.length ≥ n then return (fields, w :: rest)
    else fill output n (fields ++ (← expandFields output w)) rest

/-- The command that the command `command` calls, if it only calls one. -/
def throughCommand (output : Option Command → Act String) : (fuel : Nat) → Target → List String →
    List Word → Act (Option Target × List String × List Word)
  | 0, _, fields, words => return (none, fields, words)
  | fuel + 1, t, fields, words => do
    let (fields, words) ← fill output (t.position + 1) fields words
    match fields[t.position]? with
    | none => return (none, fields, words)
    | some arg =>
      match arg.toList with
      | ['-', '-'] =>
        let (fields, words) ← fill output (t.position + 2) fields words
        let found := fields.length > t.position + 1
        return (if found then some { t with position := t.position + 1 } else none, fields, words)
      | '-' :: c :: cs =>
        if (c :: cs).all (· == 'p') then
          throughCommand output fuel { t with position := t.position + 1, usual := true } fields
            words
        else return (none, fields, words)
      | _ => return (some t, fields, words)

/-- What a simple command calls, with as many words expanded as are needed to know. -/
def seek (output : Option Command → Act String) : (fuel : Nat) → Target → List String →
    List Word → Act (Target × List String × List Word)
  | 0, t, fields, words => return (t, fields, words)
  | fuel + 1, t, fields, words => do
    let (fields, words) ← fill output (t.position + 1) fields words
    let isFunction := !t.noFunctions &&
      (← get).functions.contains (fields[t.position]?.getD "")
    if fields[t.position]? = some "command" && !isFunction then
      let next := { t with position := t.position + 1, noFunctions := true }
      match ← throughCommand output (fields.length + words.length + 8) next fields words with
      | (some t, fields, words) => seek output fuel t fields words
      | (none, fields, words) => return (t, fields, words)
    else return (t, fields, words)

/-- Expands the rest of the words. After a command that assigns, an assignment is not cut. -/
def expandRest (output : Option Command → Act String) (assigns : Bool) : List Word →
    Act (List String)
  | [] => return []
  | w :: rest => do
    let first ← match (if assigns then assignment? w else none) with
      | some (name, value) => do pure [name ++ "=" ++ (← expandAssigned output value)]
      | none => expandFields output w
    return first ++ (← expandRest output assigns rest)

end FlowScript.Programs.Shell
