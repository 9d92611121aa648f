import FlowScript.Toml.Moment

/-!
# TOML documents

A document is a table: values under keys, in the order they were written. Tables may be written in
pieces, so a table remembers how it came about; that decides whether a later line may add to it.
-/

namespace FlowScript.Toml

/-- How a table came about. -/
inductive Origin where
  /-- As a part of the path of a header. -/
  | implied
  /-- As a part of a dotted key. -/
  | dotted
  /-- By a header of its own. -/
  | header
  /-- Between braces. -/
  | inline
deriving DecidableEq, Repr

/-- A value. Numbers are kept as they were written. -/
inductive Node where
  | string (s : String)
  | boolean (b : Bool)
  | number (text : String)
  | moment (m : Moment)
  | list (items : List Node)
  /-- Tables that were written one after the other under one header. -/
  | tables (items : List Node)
  | table (origin : Origin) (entries : List (String × Node))

/-- The contents of a table. -/
abbrev Table := List (String × Node)

namespace Table

/-- The value under a key. -/
def get? (t : Table) (key : String) : Option Node :=
  match t with
  | [] => none
  | (k, v) :: rest => if k = key then some v else get? rest key

/-- Puts a value in place of the one under a key. -/
def replace (t : Table) (key : String) (v : Node) : Table :=
  t.map fun (k, old) => if k = key then (k, v) else (k, old)

/-- Adds a value under a key that has none. -/
def add (t : Table) (key : String) (v : Node) : Option Table :=
  match t.get? key with
  | some _ => none
  | none => some (t ++ [(key, v)])

/-- Whether a line that goes through a table may add to it: nothing adds to a table in braces, and a
dotted key only adds to tables that no header has opened. -/
def mayEnter (via origin : Origin) : Bool :=
  match origin with
  | .inline => false
  | .header => via ≠ .dotted
  | .implied | .dotted => true

/-- Changes the last table of a list of tables. -/
def changeLast (f : Table → Option Table) : List Node → Option (List Node)
  | [] => none
  | [.table origin entries] => (f entries).map fun entries => [.table origin entries]
  | [_] => none
  | n :: rest => (changeLast f rest).map (n :: ·)

/-- Changes the table at the end of a path, and makes those that are missing. The change is told how
that table came about; `origin` is how the table before the path did. -/
def change (via : Origin) (f : Origin → Table → Option Table) :
    (origin : Origin) → List String → Table → Option Table
  | origin, [], t => f origin t
  | _, key :: path, t =>
    match t.get? key with
    | none => do
      let sub ← change via f via path []
      some (t ++ [(key, .table via sub)])
    | some (.table origin sub) =>
      if mayEnter via origin then do
        let sub ← change via f origin path sub
        some (t.replace key (.table origin sub))
      else none
    | some (.tables items) => do
      let items ← changeLast (change via f .header path) items
      some (t.replace key (.tables items))
    | some _ => none

/-- Adds a value under a dotted key. The table that it goes to is made for dotted keys, unless the
key has one part. -/
def addDotted (t : Table) (path : List String) (key : String) (v : Node) : Option Table :=
  change .dotted (fun origin t => if origin = .dotted then t.add key v else none) .dotted path t

/-- Opens a table under a header. A table that headers only went through may still be opened. -/
def openTable (key : String) (t : Table) : Option Table :=
  match t.get? key with
  | none => some (t ++ [(key, .table .header [])])
  | some (.table .implied entries) => some (t.replace key (.table .header entries))
  | some _ => none

/-- Opens one more table of a list of tables. -/
def openElement (key : String) (t : Table) : Option Table :=
  match t.get? key with
  | none => some (t ++ [(key, .tables [.table .header []])])
  | some (.tables items) => some (t.replace key (.tables (items ++ [.table .header []])))
  | some _ => none

end Table

end FlowScript.Toml
