/-!
# Fields

An expanded word is a sequence of runs. Text that came out of an unquoted parameter is cut into
fields at the separators that the variable `IFS` lists; blanks among them also merge and vanish at
the ends. Quotes keep text together and keep a field that is empty.
-/

namespace FlowScript.Programs.Shell

/-- A unit of an expanded word. -/
inductive Glyph where
  | char (c : Char) (quoted : Bool)
  /-- Quotes stood here. -/
  | quote
  /-- One parameter ends here and the next begins. -/
  | edge
deriving DecidableEq

/-- How a run is cut. -/
inductive RunKind where
  /-- Not at all. -/
  | fixed
  /-- At the separators. -/
  | separated
  /-- Between parameters only. -/
  | edged
deriving DecidableEq

/-- A part of an expanded word that is cut in one way. -/
structure Run where
  kind : RunKind
  glyphs : List Glyph

/-- The glyphs of a text. -/
def glyphs (quoted : Bool) (s : String) : List Glyph :=
  s.toList.map fun c => .char c quoted

/-- The characters of glyphs, with a zero for every edge. -/
def edgedChars (gs : List Glyph) : List Char :=
  gs.filterMap fun
    | .char c _ => some c
    | .edge => some '\x00'
    | .quote => none

/-- The glyphs of characters among which a zero is an edge. -/
def ofEdgedChars (quoted : Bool) (cs : List Char) : List Glyph :=
  cs.map fun c => if c = '\x00' then .edge else .char c quoted

/-- The text of glyphs without their quotes. -/
def plainText (gs : List Glyph) : String :=
  String.ofList (gs.filterMap fun
    | .char c _ => some c
    | _ => none)

/-- The pattern that glyphs write: a quoted character stands for itself. -/
def patternText (gs : List Glyph) : List Char :=
  gs.flatMap fun
    | .char c quoted => if quoted && !c.isAlphanum then ['\\', c] else [c]
    | _ => []

/-- How far a word has been cut. -/
structure Cutting where
  /-- The finished fields, the latest first. -/
  fields : List (List Glyph) := []
  /-- The field being read, backwards. -/
  field : List Glyph := []
  /-- Whether the last field ended at a blank that others may follow. -/
  blank : Bool := false
  /-- Whether the last run that can be cut was one of parameters. -/
  edged : Bool := false
  /-- How many more fields there may be, if that is limited. -/
  room : Option Nat := none
  /-- The length of the last field without the separators at its end. -/
  kept : Option Nat := none

namespace Cutting

/-- Takes a glyph of a run that is cut. `separates` says whether it is a separator, `soft` whether
it is a blank one, and `strict` that blanks do not merge. -/
def step (strict separates soft : Bool) (g : Glyph) (c : Cutting) : Cutting :=
  if c.room = some 0 then
    let longer := { c with field := g :: c.field }
    if soft then { longer with kept := some (c.kept.getD c.field.length) }
    else { longer with kept := if separates && c.blank then c.kept else none, blank := false }
  else
    -- separators after a blank one belong to it, up to one that is no blank
    if c.blank && separates then { c with field := [], blank := soft }
    else
      let c := if c.blank then { c with field := [] } else c
      if separates then
        let blank := soft && !strict
        if c.field.isEmpty && blank then { c with blank := false }
        else
          match c.room with
          | some 1 =>
            { c with room := some 0, blank := blank, kept := some c.field.length
                     field := g :: c.field }
          | room => { c with
              fields := c.field.reverse :: c.fields, field := [], blank := blank
              room := room.map (· - 1) }
      else { c with field := g :: c.field, blank := false }

/-- Takes a run. Blanks in a run right after one of parameters do not merge. -/
def run (separators : List Char) (c : Cutting) (r : Run) : Cutting :=
  match r.kind with
  | .fixed => { c with field := r.glyphs.reverse ++ c.field }
  | .separated =>
    let strict := c.edged
    r.glyphs.foldl (fun c g => match g with
      | .char x _ => c.step strict (separators.contains x)
          (separators.contains x && (x = ' ' || x = '\t' || x = '\n')) g
      | .edge => c.step strict true true g
      | .quote => c.step strict false false g) { c with blank := false, edged := false }
  | .edged =>
    r.glyphs.foldl (fun c g => c.step true (g = .edge) (g = .edge) g)
      { c with blank := false, edged := true }

/-- The fields in the end. -/
def finish (c : Cutting) : List (List Glyph) :=
  let last := c.field.reverse
  let last := match c.kept with
    | some n => last.take n
    | none => last
  (if last.isEmpty && !c.edged then c.fields else last :: c.fields).reverse

end Cutting

/-- The fields of a word. -/
def fieldsOf (separators : List Char) (runs : List Run) : List (List Glyph) :=
  (runs.foldl (Cutting.run separators) {}).finish

/-- The fields of a line, of which there are at most `room`; the last one holds what is left. -/
def lineFields (separators : List Char) (room : Nat) (runs : List Run) : List String :=
  ((runs.foldl (Cutting.run separators) { room := some room }).finish).map plainText

end FlowScript.Programs.Shell
