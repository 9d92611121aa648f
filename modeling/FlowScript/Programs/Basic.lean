import FlowScript.Host.Files
import FlowScript.Programs.Locale
import FlowScript.Programs.Options
import FlowScript.Programs.Quoting

/-!
# Programs

A program is a function: it is started with arguments, variables, files and input, and finishes with
a status and what it has shown on its two channels. All its text is raw. The small programs stand
here.
-/

namespace FlowScript.Programs

/-- Where a program shows something: its output, or its complaints. -/
inductive Channel where
  | out
  | err
deriving DecidableEq

/-- What is shown, in order. -/
abbrev Shown := List (Channel × String)

/-- A place in a file. -/
structure Position where
  place : List String
  offset : Nat

/-- What a program finds as its input. -/
inductive Input where
  /-- There is none. -/
  | closed
  /-- It cannot be read. -/
  | refused (reason : IoError)
  /-- A text, and where it stands if it is that of a file. -/
  | text (left : String) (position : Option Position)

/-- What a program is started with. -/
structure Start where
  /-- The name that the program was called by. -/
  name : String
  args : List String
  vars : Dict String
  files : Files
  input : Input := .text "" none
  /-- The file that output goes to, if it goes to one. -/
  output : Option Position := none

/-- What a program leaves behind. The status zero means success. -/
structure Finish where
  status : Nat
  shown : Shown
  /-- Whether all of the input has been read. -/
  reads : Bool := false

/-- A program. -/
abbrev Program := Start → Finish

namespace Start

/-- Finishes well with some output. -/
def print (out : String) : Finish := ⟨0, [(.out, out)], false⟩

/-- Whether text is taken as UTF-8. -/
def utf8 (s : Start) : Bool := Locale.usesUtf8 s.vars

/-- Whether the rules of the standard come before those of the program. -/
def isStrict (s : Start) : Bool := s.vars.contains "POSIXLY_CORRECT"

/-- A complaint of a program. -/
def complaint (s : Start) (text : String) : Channel × String :=
  (.err, s.name ++ ": " ++ text ++ "\n")

/-- Finishes with a complaint and a hint at how the program is used. -/
def misuse (s : Start) (text : String) : Finish :=
  ⟨1, [s.complaint text, (.err, "Try '" ++ s.name ++ " --help' for more information.\n")], false⟩

end Start

/-- A reason without its number. -/
def reason (e : IoError) : String :=
  match Text.cut '(' e.message with
  | some (text, _) => String.ofList text.toList.dropLast
  | none => e.message

/-! ## Showing files -/

/-- What is done to the lines of files that are shown. -/
structure CatOptions where
  number : Bool := false
  numberFilled : Bool := false
  squeeze : Bool := false
  ends : Bool := false
  tabs : Bool := false
  controls : Bool := false

/-- The options with that of a letter turned on. -/
def CatOptions.turn (o : CatOptions) : Char → CatOptions
  | 'n' => { o with number := true }
  | 'b' => { o with number := true, numberFilled := true }
  | 's' => { o with squeeze := true }
  | 'E' => { o with ends := true }
  | 'T' => { o with tabs := true }
  | 'v' => { o with controls := true }
  | 'e' => { o with ends := true, controls := true }
  | 't' => { o with tabs := true, controls := true }
  | 'A' => { o with ends := true, tabs := true, controls := true }
  | _ => o

/-- The options of the program that shows files. -/
def CatOptions.table : OptionTable where
  letters := ['b', 'e', 'n', 's', 't', 'u', 'v', 'A', 'E', 'T']
  names := [("number-nonblank", some 'b'), ("number", some 'n'), ("squeeze-blank", some 's'),
    ("show-nonprinting", some 'v'), ("show-ends", some 'E'), ("show-tabs", some 'T'),
    ("show-all", some 'A'), ("help", none), ("version", none)]

/-- A character of a line as it is shown. -/
def CatOptions.character (o : CatOptions) (c : Char) : List Char :=
  let n := c.toNat
  if c = '\t' then if o.tabs then ['^', 'I'] else [c]
  else if !o.controls || c = '\n' then [c]
  else if n < 128 then low n
  else ['M', '-'] ++ low (n - 128)
where
  /-- A byte below 128. -/
  low (n : Nat) : List Char :=
    if n < 32 then ['^', Char.ofNat (n + 64)] else if n = 127 then ['^', '?'] else [Char.ofNat n]

/-- How far the showing of lines has come. -/
structure CatState where
  /-- The number of the next line. -/
  next : Nat := 1
  /-- Whether the next character begins a line. -/
  fresh : Bool := true
  /-- How many empty lines came last. -/
  empty : Nat := 0
  /-- Whether a carriage return waits for what follows it. -/
  held : Bool := false

/-- Shows characters with options. Where the ends of lines are marked, a carriage return right
before one is shown as a control character. -/
def CatOptions.show (o : CatOptions) : CatState → List Char → List Char × CatState
  | st, [] => ([], st)
  | st, c :: cs =>
    let isEmpty := st.fresh && c = '\n'
    if isEmpty && o.squeeze && st.empty > 0 then o.show { st with empty := st.empty + 1 } cs
    else
      let numbered := st.fresh && o.number && !(o.numberFilled && isEmpty)
      let digits := (toString st.next).toList
      let mark :=
        if numbered then List.replicate (6 - digits.length) ' ' ++ digits ++ ['\t'] else []
      let holds := c = '\r' && o.ends && !o.controls
      let before := if !st.held then [] else if c = '\n' then ['^', 'M'] else ['\r']
      let ending := if c = '\n' && o.ends then ['$'] else []
      let (rest, st) := o.show
        { next := if numbered then st.next + 1 else st.next
          fresh := c = '\n'
          empty := if isEmpty then st.empty + 1 else if c = '\n' then 0 else st.empty
          held := holds } cs
      (mark ++ before ++ ending ++ (if holds then [] else o.character c) ++ rest, st)

/-- The input of a program as a file with a name is read: what can be read, where it stands, and
whether it is the input itself. -/
def Start.source (s : Start) (input : Input) (name : String) :
    Except IoError (String × Option Position × Bool) :=
  let own : Except IoError (String × Option Position × Bool) :=
    match input with
    | .closed => .error .badDescriptor
    | .refused e => .error e
    | .text left position => .ok (left, position, true)
  if name = "-" then own
  else do
    let path := Text.ofRaw name
    let named : Except IoError (String × Option Position × Bool) := do
      let bytes ← s.files.readBytes path
      .ok (Text.spread bytes, some ⟨← s.files.place path, 0⟩, false)
    match ← s.files.entry path with
    | .stream 0 =>
      match input with
      | .closed => .error .notFound
      | .text _ (some position) =>
        -- a file is opened anew
        match s.files.entryAt? position.place with
        | some (.file bytes) => .ok (Text.spread bytes, some ⟨position.place, 0⟩, false)
        | _ => own
      | _ => own
    | _ => named

/-- Shows named files in order and complains about those that cannot be read. The name `-` stands
for the input, which is gone once it has been read. A file that output goes to is not shown beyond
what has been written to it: `output` is where the next byte goes. Also says whether the input has
been read. -/
def catFiles (s : Start) (o : Option CatOptions) : CatState → (input : Input) →
    (output : Option Position) → List String → Shown × Bool
  | st, _, _, [] => (if st.held then [(.out, "\r")] else [], false)
  | st, input, output, name :: rest =>
    let complain (text : String) : Shown × Bool :=
      let (shown, reads) := catFiles s o st input output rest
      (s.complaint (Quoting.file s.utf8 name ++ ": " ++ text) :: shown, reads)
    match s.source input name with
    | .error e => complain (reason e)
    | .ok (text, position, isInput) =>
      let isOutput := match position, output with
        | some p, some q => p.place = q.place && p.offset < q.offset
        | _, _ => false
      if isOutput then complain "input file is output file"
      else
        let (text, st) := match o with
          | none => (text, st)
          | some o =>
            let (cs, st) := o.show st text.toList
            (String.ofList cs, st)
        let input := if isInput then .text "" none else input
        let output := output.map fun q => { q with offset := q.offset + text.length }
        let (shown, reads) := catFiles s o st input output rest
        ((.out, text) :: shown, isInput || reads)

/-- Shows files one after the other, or the input if none is named. -/
def cat : Program := fun s =>
  match CatOptions.table.read (!s.isStrict) s.args with
  | .refused complaint => s.misuse complaint
  | .help => ⟨0, [], false⟩
  | .taken letters operands =>
    let o := letters.foldl CatOptions.turn {}
    let changes := letters.any (· ≠ 'u')
    let names := if operands.isEmpty then ["-"] else operands
    let (shown, reads) := catFiles s (if changes then some o else none) {} s.input s.output names
    -- an input that is not there cannot be closed in the end
    let ending := match names.contains "-", s.input with
      | true, .closed => [s.complaint ("closing standard input: " ++ reason .badDescriptor)]
      | _, _ => []
    let shown := shown ++ ending
    ⟨if shown.any (·.1 = .err) then 1 else 0, shown, reads⟩

/-! ## Other programs -/

/-- Whether a path names the directory that relative paths start from, without dots as parts. -/
def namesHere (files : Files) (path : String) : Bool :=
  Path.isAbsolute path && (Text.splitAt '/' path).all (fun p => p ≠ "." && p ≠ "..") &&
    (match files.place path with
      | .ok place => decide (place = files.here)
      | .error _ => false)

/-- The options of the program that shows the directory. -/
def pwdTable : OptionTable where
  letters := ['L', 'P']
  names := [("logical", some 'L'), ("physical", some 'P'), ("help", none), ("version", none)]

/-- Shows the directory that relative paths start from: its place, or its path as a variable has
it. -/
def pwd : Program := fun s =>
  match pwdTable.read (!s.isStrict) s.args with
  | .refused complaint => s.misuse complaint
  | .help => ⟨0, [], false⟩
  | .taken letters operands =>
    let logical := (letters.getLast?.map (· == 'L')).getD s.isStrict
    let warning := if operands.isEmpty then [] else [s.complaint "ignoring non-option arguments"]
    let kept := (s.vars.get? "PWD").filter fun path =>
      logical && namesHere s.files (Text.ofRaw path)
    ⟨0, warning ++ [(.out, kept.getD (Text.toRaw (Files.key s.files.here)) ++ "\n")], false⟩

end FlowScript.Programs
