import FlowScript.Programs.Shell.Expand

/-!
# Redirections

A redirection has a descriptor lead to a file, to where another one leads, or to a document that
stands in the script. Its target is expanded before anything is opened.
-/

namespace FlowScript.Programs.Shell

/-- A redirection with its target expanded. -/
inductive Opening where
  | file (fd : Nat) (mode : Mode) (path : String)
  | duplicate (fd : Nat) (source : Option Nat)
  | document (fd : Nat) (body : Word)

/-- Expands the target of a redirection. -/
def expandRedirect (output : Option Command → Act String) : Redirect → Act Opening
  | .file fd mode w => return .file fd mode (← expandText output w)
  | .duplicate fd w => do
    let text ← expandText output w
    match text.toList with
    | ['-'] => return .duplicate fd none
    | [c] => if c.isDigit then return .duplicate fd (some (c.toNat - 48)) else refuse
    | _ => refuse
  | .document fd number => do
    return .document fd ((((← get).documents.find? (·.1 = number)).map (·.2)).getD [])
where
  /-- Complains about a target that is no descriptor. -/
  refuse : Act Opening := do
    modify fun s => { s with line := s.linesRead }
    fail "Syntax error: Bad fd number"

/-- Why a file cannot be opened. -/
def openReason (creates : Bool) : IoError → String
  | .notFound | .notADirectory => if creates then "Directory nonexistent" else "No such file"
  | e => reason e

/-- Opens a file for a descriptor. -/
def openFile (fd : Nat) (mode : Mode) (path : String) : Act Unit := do
  let s ← get
  let files := s.streams.files
  let p := Text.ofRaw path
  let creates := mode ≠ .read
  let refuse (e : IoError) : Act Unit :=
    fail ("cannot " ++ (if creates then "create " else "open ") ++ path ++ ": " ++
      openReason creates e)
  -- opens the file at a place, which may be there
  let openAt (place : List String) (isThere : Bool) : Act Unit := do
    if mode = .write && s.has 'C' && isThere then refuse .fileExists
    else
      let keeps := isThere && mode ≠ .write && mode ≠ .overwrite
      if !keeps then changeStreams fun st => { st with files := st.files.fill place [] }
      let access : Access := ⟨mode = .read || mode = .both, creates, mode = .append⟩
      changeStreams (·.connect fd (.file place 0 access))
  match files.entry p with
  | .ok .void => changeStreams (·.connect fd .void)
  | .ok .full => changeStreams (·.connect fd .full)
  | .ok .absent => refuse .noDevice
  | .ok (.stream n) =>
    match s.streams.stream? n with
    | some stream =>
      match s.streams.opened[stream]? with
      | some (.file place _ _) => openAt place true
      | _ => changeStreams (·.bind fd (some stream))
    | none => refuse .notFound
  | .ok .directory =>
    if mode = .read then changeStreams (·.connect fd .directory) else refuse .isADirectory
  | .ok _ =>
    match files.place p with
    | .ok place => openAt place true
    | .error e => refuse e
  | .error e =>
    if mode = .read then refuse e
    else match files.filePlace p with
      | .ok place => openAt place false
      | .error e => refuse e

/-- Carries out a redirection. `keeps` says that the descriptor will lead where it did before. -/
def openStream (output : Option Command → Act String) (keeps : Bool) : Opening → Act Unit
  | .file fd mode path => openFile fd mode path
  | .document fd body => do
    let text ← expandDocument output body
    changeStreams (·.connect fd (.source (Text.gather text) none))
  | .duplicate fd none => changeStreams (·.bind fd none)
  | .duplicate fd (some n) => do
    match (← get).streams.stream? n with
    | some stream => changeStreams (·.bind fd (some stream))
    | none =>
      -- one that is kept is put aside by now, and nothing can be written to it
      if keeps then changeStreams (·.bind fd none)
      fail (toString n ++ ": Bad file descriptor")

/-- Carries out redirections. Whether all went well. -/
def openStreams (output : Option Command → Act String) (keeps : Bool) (openings : List Opening) :
    Act Bool :=
  tryCatch (do
    for o in openings do openStream output keeps o
    return true) (fun
      | .error _ => return false
      | e => throw e)

/-- Has the descriptors lead where they did before. -/
def restoreDescriptors (descriptors : List (Nat × Nat)) : Act Unit :=
  changeStreams fun s => { s with descriptors := descriptors }

end FlowScript.Programs.Shell
