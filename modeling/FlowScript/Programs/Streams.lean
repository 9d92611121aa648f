import FlowScript.Programs.Basic

/-!
# Streams

A running script reads and writes through numbered descriptors. Several descriptors may lead to the
same open stream and then share how far it has been read or written. Streams are never removed, so a
stream keeps its number.
-/

namespace FlowScript.Programs

/-- What may be done with an open file. -/
structure Access where
  reads : Bool := false
  writes : Bool := false
  /-- Whether everything is written at the end. -/
  appends : Bool := false

/-- How much a buffer takes. -/
inductive Room where
  | endless
  /-- Up to a size; then whoever writes has to wait for a reader. -/
  | limited (size : Nat)
  /-- Up to a size; then there is no reader any more. -/
  | abandoned (size : Nat)

/-- An open stream. -/
inductive Stream where
  /-- A channel of the whole run. -/
  | channel (c : Channel)
  /-- A text that is being read. If it comes from a buffer that is being written, nobody knows yet
  what follows it. -/
  | source (left : Text.Bytes) (writer : Option Nat)
  /-- Texts that have been written, the latest first, and how much they are. -/
  | buffer (texts : List String) (size : Nat) (room : Room)
  /-- A file that is being read or written from an offset on. -/
  | file (place : List String) (offset : Nat) (access : Access)
  /-- A directory, which cannot be read. -/
  | directory
  /-- Nothing can be read, and what is written is gone. -/
  | void
  /-- Nothing can be written. -/
  | full

/-- The streams of a running script, and the files they lead to. -/
structure Streams where
  files : Files
  opened : Array Stream
  /-- The stream of each descriptor. -/
  descriptors : List (Nat × Nat)
  /-- What has been shown, the latest first. -/
  shown : Shown

namespace Streams

/-- The streams that a program is started with: its input, its output and its complaints. -/
def start (files : Files) (input : String) : Streams :=
  let opened := #[.source (Text.gather input) none, .channel .out, .channel .err]
  ⟨files, opened, [(0, 0), (1, 1), (2, 2)], []⟩

/-- The number of the stream of a descriptor. -/
def stream? (s : Streams) (fd : Nat) : Option Nat :=
  (s.descriptors.find? (·.1 = fd)).map (·.2)

/-- Has a descriptor lead to a stream, or nowhere. -/
def bind (s : Streams) (fd : Nat) (stream : Option Nat) : Streams :=
  let others := s.descriptors.filter (·.1 ≠ fd)
  { s with descriptors := stream.toList.map (fd, ·) ++ others }

/-- Opens a stream, and gives its number. -/
def add (s : Streams) (stream : Stream) : Nat × Streams :=
  (s.opened.size, { s with opened := s.opened.push stream })

/-- Opens a stream for a descriptor. -/
def connect (s : Streams) (fd : Nat) (stream : Stream) : Streams :=
  let (n, s) := s.add stream
  s.bind fd (some n)

/-- The bytes of the file at a place. -/
def contents (s : Streams) (place : List String) : Text.Bytes :=
  match s.files.entryAt? place with
  | some (.file bs) => bs
  | _ => []

/-- What a descriptor leads to, seen as a file that can be opened. -/
def entry? (s : Streams) (fd : Nat) : Option Entry :=
  match (s.stream? fd).bind (s.opened[·]?) with
  | none => none
  | some (.file place _ _) => s.files.entryAt? place
  | some .directory => some .directory
  | some .void => some .void
  | some .full => some .full
  | some _ => some (.stream fd)

/-! ## Writing -/

/-- Bytes with others put over them from an offset on. -/
def overlay (old : Text.Bytes) (offset : Nat) (new : Text.Bytes) : Text.Bytes :=
  if old.length ≤ offset then old ++ (List.replicate (offset - old.length) 0 ++ new)
  else old.take offset ++ (new ++ old.drop (offset + new.length))

/-- Why something cannot be written. -/
inductive Refusal where
  | fault (reason : IoError)
  /-- The buffer with a number is full. -/
  | waiting (stream : Nat)
  /-- Nobody reads it. -/
  | unread

/-- Writes to the stream with a number. -/
def writeTo (s : Streams) (n : Nat) (text : String) : Except Refusal Streams :=
  match s.opened[n]? with
  | none | some (.source _ _) | some .directory => .error (.fault .badDescriptor)
  | some (.channel c) => .ok { s with shown := (c, text) :: s.shown }
  | some (.buffer texts size room) =>
    let more := size + text.length
    let grown : Streams :=
      { s with opened := s.opened.set! n (.buffer (text :: texts) more room) }
    match room with
    | .endless => .ok grown
    | .limited limit => if more > limit then .error (.waiting n) else .ok grown
    | .abandoned limit => if more > limit then .error .unread else .ok grown
  | some .void => .ok s
  | some .full => if text.isEmpty then .ok s else .error (.fault .noSpace)
  | some (.file place offset access) =>
    if !access.writes then .error (.fault .badDescriptor)
    else
      let old := s.contents place
      let new := Text.gather text
      let offset := if access.appends then old.length else offset
      let bs := if access.appends then old ++ new else overlay old offset new
      .ok { s with
        files := s.files.fill place bs
        opened := s.opened.set! n (.file place (offset + new.length) access) }

/-- Writes to a descriptor. -/
def write (s : Streams) (fd : Nat) (text : String) : Except Refusal Streams :=
  match s.stream? fd with
  | some n => s.writeTo n text
  | none => .error (.fault .badDescriptor)

/-- Writes to a descriptor if that can be done. -/
def tryWrite (s : Streams) (fd : Nat) (text : String) : Streams :=
  match s.write fd text with
  | .ok s => s
  | .error _ => s

/-- The file that a descriptor writes to, and where the next byte goes. -/
def target? (s : Streams) (fd : Nat) : Option Position := do
  match ← s.opened[← s.stream? fd]? with
  | .file place offset access =>
    some ⟨place, if access.appends then (s.contents place).length else offset⟩
  | _ => none

/-- The text that has been written to a buffer. -/
def buffered (s : Streams) (n : Nat) : String :=
  match s.opened[n]? with
  | some (.buffer texts _ _) => String.join texts.reverse
  | _ => ""

/-- A stream that reads what has been written to a buffer, which may still be being written. -/
def reader (s : Streams) (n : Nat) (waits : Bool) : Stream :=
  .source (Text.gather (s.buffered n)) (if waits then some n else none)

/-! ## Reading -/

/-- What a program finds when it reads from a descriptor. -/
def input (s : Streams) (fd : Nat) : Input :=
  match (s.stream? fd).bind (s.opened[·]?) with
  | none => .closed
  | some (.source left _) => .text (Text.spread left) none
  | some .void => .text "" none
  | some .directory => .refused .isADirectory
  | some (.file place offset access) =>
    if access.reads then
      .text (Text.spread ((s.contents place).drop offset)) (some ⟨place, offset⟩)
    else .refused .badDescriptor
  | some _ => .refused .badDescriptor

/-- What can be read from a descriptor. -/
def left (s : Streams) (fd : Nat) : Option Text.Bytes :=
  match (s.stream? fd).bind (s.opened[·]?) with
  | some (.source left _) => some left
  | some (.file place offset access) =>
    if access.reads then some ((s.contents place).drop offset) else none
  | some .void => some []
  | _ => none

/-- The buffer that what can be read from a descriptor comes from, if it is being written. -/
def writer? (s : Streams) (fd : Nat) : Option Nat := do
  match ← s.opened[← s.stream? fd]? with
  | .source _ writer => writer
  | _ => none

/-- The files as a program finds them that does not have these streams: what they lead to stands in
their place, except for its input. -/
def view (s : Streams) : Files :=
  let seen : Entry → Option Entry
    | .stream fd =>
      match s.entry? fd with
      | some (.stream _) => if fd = 0 then some (.stream 0) else some (.file ((s.left fd).getD []))
      | some e => if fd = 0 then some (.stream 0) else some e
      | none => none
    | e => some e
  { s.files with
    entries := Dict.ofList (s.files.entries.entries.filterMap fun (path, e) =>
      (seen e).map (path, ·)) }

/-- Passes over some of what can be read from a descriptor. -/
def advance (s : Streams) (fd count : Nat) : Streams :=
  match s.stream? fd with
  | none => s
  | some n =>
    match s.opened[n]? with
    | some (.source left writer) =>
      { s with opened := s.opened.set! n (.source (left.drop count) writer) }
    | some (.file place offset access) =>
      { s with opened := s.opened.set! n (.file place (offset + count) access) }
    | _ => s

/-- Passes over all that can be read from a descriptor. -/
def drain (s : Streams) (fd : Nat) : Streams :=
  s.advance fd ((s.left fd).getD []).length

/-- Reads all of the file with a path. -/
def readAll (s : Streams) (path : String) : Except IoError (Text.Bytes × Streams) := do
  match ← s.files.entry path with
  | .stream fd =>
    match s.entry? fd with
    | none => .error .notFound
    | some .directory => .error .isADirectory
    | some (.file bytes) => .ok (bytes, s)
    | some (.stream _) => .ok ((s.left fd).getD [], s.drain fd)
    | some _ => .ok ([], s)
  | _ => .ok (← s.files.readBytes path, s)

end Streams

end FlowScript.Programs
