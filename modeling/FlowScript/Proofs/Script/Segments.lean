import FlowScript.Proofs.Script.Folding
import FlowScript.Proofs.Text.ByteOrder
import Mathlib.Data.List.Forall2
import Mathlib.Data.List.Induction

/-!
# The segment of each command

Folding keeps a segment open until the next command comes. What it gathers can be said without that
state: the assignments before the first command have a segment of their own, if there are any, and
every command has one with the assignments up to the next command (`segments_ofItems`). Keys of
arguments are written out with the path of the commands named so far (`qualifies_qualify`), and the
assignments of a segment are merged in order (`carries_gather`).
-/

namespace FlowScript

namespace PathItem

/-- The assignments that an item holds. -/
def assignments? : PathItem → Option Assignments
  | env a => some a
  | _ => none

/-- The assignments before the first command; all of them if no command is named. -/
def leading (items : List PathItem) : List Assignments :=
  (items.takeWhile (·.command?.isNone)).filterMap assignments?

@[simp] theorem leading_nil : leading [] = [] := rfl

@[simp] theorem leading_env (a : Assignments) (rest : List PathItem) :
    leading (env a :: rest) = a :: leading rest := rfl

@[simp] theorem leading_separator (rest : List PathItem) :
    leading (separator :: rest) = leading rest := rfl

@[simp] theorem leading_command (m : Match) (rest : List PathItem) :
    leading (command m :: rest) = [] := rfl

/-- What comes from the first command on does not lead. -/
@[simp] theorem leading_append_command (front : List PathItem) (m : Match)
    (rest : List PathItem) : leading (front ++ command m :: rest) = leading front := by
  induction front with
  | nil => rfl
  | cons item front ih => cases item <;> simp [ih]

end PathItem

namespace Invocation

open PathItem (leading)

/-! ## Keys -/

/-- The key of an entry, with a path in front of it if it is that of an argument. -/
def writtenKey (path key : String) (v : Value) : String :=
  if v.isArg then path ++ key else key

/-- The entries of `a` stand in `b` under their written keys. Where several come to the same key,
the one whose own key is the greatest by its bytes counts. -/
def Qualifies (path : String) (a b : Assignments) : Prop :=
  ∀ key v, b.get? key = some v ↔ ∃ own, a.get? own = some v ∧ writtenKey path own v = key ∧
    ∀ own' v', a.get? own' = some v' → writtenKey path own' v' = key → own' ≠ own →
      Text.bytes own' < Text.bytes own

/-- In a list by ascending key, the last entry that comes to a key is the one with the greatest. -/
theorem get?_ofList_writtenKey {l : List (String × Value)} (hl : l.Pairwise fun a b => a.1 < b.1)
    (path key : String) (v : Value) :
    (Dict.ofList (l.map fun e => (writtenKey path e.1 e.2, e.2))).get? key = some v ↔
      ∃ own, (own, v) ∈ l ∧ writtenKey path own v = key ∧
        ∀ own' v', (own', v') ∈ l → writtenKey path own' v' = key → own' ≠ own → own' < own := by
  induction l using List.reverseRecOn with
  | nil => simp [Dict.ofList, Dict.insertAll]
  | append_singleton l last ih =>
    obtain ⟨hsorted, -, hlast⟩ := List.pairwise_append.1 hl
    have hbefore : ∀ e ∈ l, e.1 < last.1 := fun e he => hlast e he last (by simp)
    have hne : ∀ own v', (own, v') ∈ l → own ≠ last.1 := by
      rintro own v' hmem rfl
      exact String.lt_irrefl _ (hbefore (last.1, v') hmem)
    rw [List.map_append, List.map_singleton, Dict.ofList_concat, Dict.get?_insert]
    split
    · rename_i hkey
      constructor
      · intro hv
        obtain rfl : last.2 = v := Option.some.inj hv
        refine ⟨last.1, by simp, hkey.symm, ?_⟩
        intro own' v' hmem hkey' hother
        rcases List.mem_append.1 hmem with hmem | hmem
        · exact hbefore _ hmem
        · exact absurd (congrArg Prod.fst (List.mem_singleton.1 hmem)) hother
      · rintro ⟨own, hmem, hown, hgreatest⟩
        rcases List.mem_append.1 hmem with hmem | hmem
        · -- the last entry comes to the same key, so it would have to be smaller
          have hlt := hgreatest last.1 last.2 (by simp) hkey.symm (hne own v hmem).symm
          exact absurd (hbefore _ hmem) (String.lt_asymm hlt)
        · rw [← List.mem_singleton.1 hmem]
    · rename_i hkey
      rw [ih hsorted]
      constructor
      · rintro ⟨own, hmem, hown, hgreatest⟩
        refine ⟨own, List.mem_append_left _ hmem, hown, ?_⟩
        intro own' v' hmem' hkey' hother
        rcases List.mem_append.1 hmem' with hmem' | hmem'
        · exact hgreatest own' v' hmem' hkey' hother
        · obtain rfl := List.mem_singleton.1 hmem'
          exact absurd hkey'.symm hkey
      · rintro ⟨own, hmem, hown, hgreatest⟩
        rcases List.mem_append.1 hmem with hmem | hmem
        · exact ⟨own, hmem, hown, fun own' v' hmem' =>
            hgreatest own' v' (List.mem_append_left _ hmem')⟩
        · obtain rfl := List.mem_singleton.1 hmem
          exact absurd hown.symm hkey

theorem qualifies_qualify (path : String) (a : Assignments) :
    Qualifies path a (qualify path a) := by
  intro key v
  have hqualify : qualify path a =
      Dict.ofList (a.entries.map fun e => (writtenKey path e.1 e.2, e.2)) := rfl
  rw [hqualify, get?_ofList_writtenKey a.sorted]
  simp only [Dict.mem_entries_iff, Text.bytes_lt_iff]

-- an argument and another key come to one key, and `a` is greater than `X.a`
example : qualify "X." (.ofList [("X.a", ⟨"1", false⟩), ("a", ⟨"2", true⟩)]) =
    .ofList [("X.a", ⟨"2", true⟩)] := by
  decide

/-! ## Merging in order -/

/-- The assignments of a segment are those of its parts, with their keys written out: of the parts
with a key, the last one counts. There are none only if there is no part. -/
structure Carries (path : String) (parts : List Assignments) (env : Option Assignments) : Prop where
  none_iff : env = none ↔ parts = []
  merged : ∀ b, env = some b → ∃ written, List.Forall₂ (Qualifies path) parts written ∧
    ∀ key, b.get? key = written.reverse.findSome? (·.get? key)

/-- A segment with more assignments, their keys being written out with a path. -/
def gather (path : String) (s : Segment) (parts : List Assignments) : Segment :=
  parts.foldl (fun s a => s.assign (qualify path a)) s

@[simp] theorem gather_nil (path : String) (s : Segment) : gather path s [] = s := rfl

@[simp] theorem gather_cons (path : String) (s : Segment) (a : Assignments)
    (parts : List Assignments) :
    gather path s (a :: parts) = gather path (s.assign (qualify path a)) parts := rfl

@[simp] theorem command_gather (path : String) (s : Segment) (parts : List Assignments) :
    (gather path s parts).command = s.command := by
  induction parts generalizing s with
  | nil => rfl
  | cons a parts ih => rw [gather_cons, ih, Segment.assign]

theorem env_gather_some (path : String) {s : Segment} {b : Assignments} (hs : s.env = some b)
    (parts : List Assignments) :
    (gather path s parts).env = some ((parts.map (qualify path)).foldl Dict.merge b) := by
  induction parts generalizing s b with
  | nil => exact hs
  | cons a parts ih =>
    rw [gather_cons, List.map_cons, List.foldl_cons]
    apply ih
    rw [Segment.assign, hs]

theorem carries_gather (path : String) {s : Segment} (hs : s.env = none)
    (parts : List Assignments) : Carries path parts (gather path s parts).env := by
  cases parts with
  | nil => exact ⟨by simp [hs], fun b hb => by simp [hs] at hb⟩
  | cons a parts =>
    have hfirst : (s.assign (qualify path a)).env = some (qualify path a) := by
      rw [Segment.assign, hs]
    rw [gather_cons, env_gather_some path hfirst]
    refine ⟨by simp, ?_⟩
    intro b hb
    obtain rfl := Option.some.inj hb
    refine ⟨(a :: parts).map (qualify path), ?_, ?_⟩
    · rw [List.forall₂_map_right_iff, List.forall₂_same]
      exact fun part _ => qualifies_qualify path part
    · intro key
      rw [Dict.get?_foldl_merge, List.map_cons, List.reverse_cons, List.findSome?_append]
      cases hkey : (qualify path a).get? key <;> simp [hkey]

/-! ## One segment for each command -/

/-- The names of commands, each followed by a dot. -/
def dotted (ms : List Match) : String :=
  String.join (ms.map (·.name ++ "."))

/-- The segments of the commands in a list of items, after a path. -/
def segmentsFrom (path : String) : List PathItem → List Segment
  | [] => []
  | .separator :: rest => segmentsFrom path rest
  | .env _ :: rest => segmentsFrom path rest
  | .command m :: rest =>
    gather (path ++ m.name ++ ".") ⟨none, some m⟩ (leading rest) ::
      segmentsFrom (path ++ m.name ++ ".") rest

/-- The segment of what comes before the first command, if there is anything. -/
def leadingSegment (items : List PathItem) : List Segment :=
  if leading items = [] then [] else [gather "" .empty (leading items)]

theorem length_leadingSegment (items : List PathItem) :
    (leadingSegment items).length = if leading items = [] then 0 else 1 := by
  rw [leadingSegment]
  split <;> rfl

theorem commands_segmentsFrom (path : String) (items : List PathItem) :
    (segmentsFrom path items).map (·.command) =
      (items.filterMap PathItem.command?).map some := by
  induction items generalizing path with
  | nil => rfl
  | cons item rest ih => cases item <;> simp [segmentsFrom, List.filterMap_cons, ih]

theorem length_segmentsFrom (path : String) (items : List PathItem) :
    (segmentsFrom path items).length = (items.filterMap PathItem.command?).length := by
  simpa using congrArg List.length (commands_segmentsFrom path items)

/-- Up to a command, the segments are those of the items before it. -/
theorem segmentsFrom_append_command (path : String) (front : List PathItem) (m : Match)
    (rest : List PathItem) :
    segmentsFrom path (front ++ .command m :: rest) = segmentsFrom path front ++
      segmentsFrom (path ++ dotted (front.filterMap PathItem.command?)) (.command m :: rest) := by
  induction front generalizing path with
  | nil => simp [dotted, segmentsFrom]
  | cons item front ih =>
    cases item with
    | separator => simpa [segmentsFrom, List.filterMap_cons] using ih path
    | env a => simpa [segmentsFrom, List.filterMap_cons] using ih path
    | command c =>
      have hpath : path ++ dotted (c :: front.filterMap PathItem.command?) =
          path ++ c.name ++ "." ++ dotted (front.filterMap PathItem.command?) := by
        simp only [dotted, List.map_cons, String.join_cons, String.append_assoc]
      simp only [List.cons_append, segmentsFrom, PathItem.leading_append_command, ih,
        List.filterMap_cons, PathItem.command?_command, hpath]

/-- Folding finishes the open segment with what leads, and then goes from command to command. -/
theorem segments_foldl (items : List PathItem) (f : Folding) :
    (items.foldl Folding.step f).segments =
      Folding.segments { f with current := gather f.path f.current (leading items) } ++
        segmentsFrom f.path items := by
  induction items generalizing f with
  | nil => simp [segmentsFrom]
  | cons item rest ih =>
    rw [List.foldl_cons, ih]
    cases item with
    | separator => rfl
    | env a => rfl
    | command m =>
      -- a segment that names a command is not empty, so it is not dropped
      have hopen : (gather (f.path ++ m.name ++ ".") ⟨none, some m⟩ (leading rest)).isEmpty =
          false := by
        simp [Segment.isEmpty]
      simp [Folding.step, Folding.segments, segmentsFrom, hopen]

theorem segments_ofItems (items : List PathItem) :
    (ofItems items).segments = leadingSegment items ++ segmentsFrom "" items := by
  have hfirst : Folding.segments ⟨[], gather "" .empty (leading items), ""⟩ =
      leadingSegment items := by
    rw [Folding.segments, leadingSegment]
    cases hleading : leading items with
    | nil => rfl
    | cons a parts =>
      have henv : (Segment.empty.assign (qualify "" a)).env = some (qualify "" a) := rfl
      have hopen : (gather "" .empty (a :: parts)).isEmpty = false := by
        rw [gather_cons, Segment.isEmpty, env_gather_some "" henv]
        rfl
      rw [hopen, if_neg (List.cons_ne_nil _ _)]
      rfl
  rw [ofItems, segments_foldl, ← hfirst]
  rfl

/-- The segment of a command comes after the leading one and those of the commands before it. -/
theorem getElem?_segments_ofItems (front : List PathItem) (m : Match) (rest : List PathItem) :
    (ofItems (front ++ .command m :: rest)).segments[
        (leadingSegment (front ++ .command m :: rest)).length +
          (front.filterMap PathItem.command?).length]? =
      some (gather (dotted (front.filterMap PathItem.command? ++ [m])) ⟨none, some m⟩
        (leading rest)) := by
  have hpath : dotted (front.filterMap PathItem.command? ++ [m]) =
      "" ++ dotted (front.filterMap PathItem.command?) ++ m.name ++ "." := by
    simp [dotted, String.append_assoc]
  rw [segments_ofItems, List.getElem?_append_right (Nat.le_add_right _ _), Nat.add_sub_cancel_left,
    segmentsFrom_append_command, ← length_segmentsFrom "" front,
    List.getElem?_append_right (Nat.le_refl _), Nat.sub_self, segmentsFrom, hpath]
  rfl

/-! ## Folding as a whole -/

/-- What folding makes of a list of items. -/
structure Folds (items : List PathItem) (i : Invocation) : Prop where
  path : i.path = (items.filterMap PathItem.command?).map (·.name)
  /-- One segment for each command, and before them one without a command if and only if some
  assignments come before the first command. -/
  commands : i.segments.map (·.command) =
    (if leading items = [] then [] else [none]) ++ (items.filterMap PathItem.command?).map some
  /-- Before the first command there is no path to write out. -/
  before : leading items ≠ [] → ∃ s, i.segments.head? = some s ∧ s.command = none ∧
    Carries "" (leading items) s.env
  /-- The assignments up to the next command are those of the segment. -/
  after : ∀ front m rest, items = front ++ .command m :: rest →
    ∃ s, i.segments[(if leading items = [] then 0 else 1) +
        (front.filterMap PathItem.command?).length]? = some s ∧ s.command = some m ∧
      Carries (dotted (front.filterMap PathItem.command? ++ [m])) (leading rest) s.env
  separators : ∀ items', PathItem.bare items' = PathItem.bare items → ofItems items' = i

theorem ofItems_folds (items : List PathItem) : Folds items (ofItems items) where
  path := by rw [Invocation.path, commands_ofItems]
  commands := by
    rw [segments_ofItems, List.map_append, commands_segmentsFrom, leadingSegment]
    split <;> simp [Segment.empty]
  before := by
    intro hleading
    refine ⟨gather "" .empty (leading items), ?_, by simp [Segment.empty], carries_gather "" rfl _⟩
    simp [segments_ofItems, leadingSegment, hleading]
  after := by
    rintro front m rest rfl
    have hsegment := getElem?_segments_ofItems front m rest
    rw [length_leadingSegment] at hsegment
    exact ⟨_, hsegment, command_gather _ _ _, carries_gather _ rfl _⟩
  separators := by
    intro items' hbare
    rw [← ofItems_bare, hbare, ofItems_bare]

end Invocation

end FlowScript
