import FlowScript.Proofs.Dict
import FlowScript.Script.Invocation

/-!
# Folding items into segments

What the segments of a list of items are like, whatever the items: they name the commands of the
items in order (`commands_ofItems`), none of them is empty, and all but the first name a command
(`ofItems_ordered`). Separators leave no trace (`ofItems_bare`).
-/

namespace FlowScript

namespace PathItem

/-- The command that an item names. -/
def command? : PathItem → Option Match
  | command m => some m
  | _ => none

@[simp] theorem command?_command (m : Match) : (command m).command? = some m := rfl

@[simp] theorem command?_env (a : Assignments) : (env a).command? = none := rfl

@[simp] theorem command?_separator : separator.command? = none := rfl

/-- The items without separators. -/
def bare (items : List PathItem) : List PathItem :=
  items.filter (· ≠ separator)

@[simp] theorem bare_append (items more : List PathItem) :
    bare (items ++ more) = bare items ++ bare more :=
  List.filter_append ..

/-- A list of items is bare if it holds no separator. -/
theorem bare_eq_self {items : List PathItem} (h : separator ∉ items) : bare items = items := by
  apply List.filter_eq_self.2
  intro item hitem
  simp only [decide_eq_true_eq]
  rintro rfl
  exact h hitem

end PathItem

@[simp] theorem Segment.isEmpty_iff {s : Segment} : s.isEmpty = true ↔ s = .empty := by
  obtain ⟨env, command⟩ := s
  simp [isEmpty, empty]

/-- What is assigned after an assignment was assigned before it or in it. -/
theorem Segment.mem_assign {s : Segment} {a b : Assignments} {e : String × Value}
    (hb : (s.assign a).env = some b) (he : e ∈ b.entries) :
    e ∈ a.entries ∨ ∃ before, s.env = some before ∧ e ∈ before.entries := by
  simp only [assign, Option.some.injEq] at hb
  subst hb
  split at he
  · rename_i before hbefore
    rcases Dict.mem_entries_merge he with he | he
    · exact .inl he
    · exact .inr ⟨before, hbefore, he⟩
  · exact .inl he

namespace Invocation

theorem mem_qualify {path : String} {a : Assignments} {e : String × Value}
    (he : e ∈ (qualify path a).entries) :
    ∃ key, (key, e.2) ∈ a.entries ∧ e.1 = if e.2.isArg then path ++ key else key := by
  obtain ⟨⟨key, v⟩, hmem, rfl⟩ := List.mem_map.1 (Dict.mem_entries_ofList he)
  exact ⟨key, hmem, rfl⟩

namespace Folding

/-- A part of the segments that an empty segment lacks is that of the finished ones and then that of
the current one. -/
theorem filterMap_segments {β : Type} (f : Folding) (part : Segment → Option β)
    (hempty : part .empty = none) :
    f.segments.filterMap part = f.finished.filterMap part ++ (part f.current).toList := by
  rw [segments]
  split
  · rename_i h
    rw [Segment.isEmpty_iff.1 h, hempty]
    simp
  · rw [List.filterMap_append]
    cases hpart : part f.current <;> simp [hpart]

/-! ## Commands -/

theorem commands_step (f : Folding) (item : PathItem) :
    (f.step item).segments.filterMap (·.command) =
      f.segments.filterMap (·.command) ++ item.command?.toList := by
  have hparts (g : Folding) := g.filterMap_segments (·.command) rfl
  cases item with
  | separator => simp [step]
  | command m =>
    rw [hparts]
    rfl
  | env a =>
    rw [hparts, hparts]
    simp [step, Segment.assign]

theorem commands_foldl (items : List PathItem) (f : Folding) :
    (items.foldl step f).segments.filterMap (·.command) =
      f.segments.filterMap (·.command) ++ items.filterMap PathItem.command? := by
  induction items generalizing f with
  | nil => simp
  | cons item rest ih =>
    rw [List.foldl_cons, ih, commands_step, List.append_assoc]
    congr 1
    cases hitem : item.command? <;> simp [hitem]

/-! ## The order of segments -/

/-- No finished segment is empty, and every segment after the first names a command. -/
structure Ordered (f : Folding) : Prop where
  nonempty : ∀ s ∈ f.finished, s ≠ .empty
  later : ∀ s ∈ f.finished.tail, s.command.isSome = true
  current : f.finished ≠ [] → f.current.command.isSome = true

theorem Ordered.start : Ordered .start where
  nonempty := by simp [Folding.start]
  later := by simp [Folding.start]
  current := by simp [Folding.start]

theorem Ordered.segments {f : Folding} (h : f.Ordered) :
    (∀ s ∈ f.segments, s ≠ .empty) ∧ ∀ s ∈ f.segments.tail, s.command.isSome = true := by
  rw [Folding.segments]
  split
  · exact ⟨h.nonempty, h.later⟩
  · rename_i hne
    constructor
    · intro s hs
      rcases List.mem_append.1 hs with hs | hs
      · exact h.nonempty s hs
      · rw [List.mem_singleton.1 hs]
        exact fun he => hne (Segment.isEmpty_iff.2 he)
    · intro s hs
      by_cases hnil : f.finished = []
      · simp [hnil] at hs
      · rw [List.tail_append_of_ne_nil hnil] at hs
        rcases List.mem_append.1 hs with hs | hs
        · exact h.later s hs
        · rw [List.mem_singleton.1 hs]
          exact h.current hnil

theorem Ordered.step {f : Folding} (h : f.Ordered) (item : PathItem) : (f.step item).Ordered := by
  cases item with
  | separator => exact h
  | command m => exact ⟨h.segments.1, h.segments.2, fun _ => rfl⟩
  | env a => exact ⟨h.nonempty, h.later, h.current⟩

theorem Ordered.foldl {f : Folding} (h : f.Ordered) (items : List PathItem) :
    (items.foldl Folding.step f).Ordered := by
  induction items generalizing f with
  | nil => exact h
  | cons item rest ih => exact ih (h.step item)

/-! ## Commands alone -/

/-- Commands on their own carry no assignments. -/
theorem foldl_commands (ms : List Match) {f : Folding} (hcurrent : f.current.env = none)
    (hfinished : f.finished.filterMap (·.env) = []) :
    ((ms.map .command).foldl step f).current.env = none ∧
      ((ms.map .command).foldl step f).finished.filterMap (·.env) = [] := by
  induction ms generalizing f with
  | nil => exact ⟨hcurrent, hfinished⟩
  | cons m rest ih =>
    apply ih (f := f.step (.command m)) rfl
    show f.segments.filterMap (·.env) = []
    rw [f.filterMap_segments (·.env) rfl, hcurrent, hfinished]
    rfl

end Folding

/-! ## Whole lists -/

theorem commands_ofItems (items : List PathItem) :
    (ofItems items).commands = items.filterMap PathItem.command? := by
  rw [commands, ofItems, Folding.commands_foldl]
  rfl

theorem ofItems_ordered (items : List PathItem) :
    (∀ s ∈ (ofItems items).segments, s ≠ .empty) ∧
      ∀ s ∈ (ofItems items).segments.tail, s.command.isSome = true :=
  (Folding.Ordered.start.foldl items).segments

theorem ofItems_bare (items : List PathItem) : ofItems (PathItem.bare items) = ofItems items := by
  rw [ofItems, PathItem.bare, List.foldl_filter, ofItems]
  congr 3
  funext f item
  cases item <;> simp [Folding.step]

/-- Commands with assignments at most at their end have at most these assignments. -/
theorem fragments_ofItems (ms : List Match) (a : Option Assignments) :
    (ofItems (ms.map .command ++ a.toList.map .env)).fragments =
      (a.map (qualify ((ms.map .command).foldl Folding.step .start).path)).toList := by
  obtain ⟨hcurrent, hfinished⟩ := Folding.foldl_commands ms (f := .start) rfl rfl
  rw [fragments, ofItems, List.foldl_append, Folding.filterMap_segments _ (·.env) rfl]
  cases a with
  | none =>
    simp only [Option.toList_none, List.map_nil, List.foldl_nil, hcurrent, hfinished]
    rfl
  | some a =>
    simp only [Option.toList_some, List.map_cons, List.map_nil, List.foldl_cons, List.foldl_nil,
      Folding.step, Segment.assign, hcurrent, hfinished]
    rfl

end Invocation

end FlowScript
