import FlowScript.Command.Label

/-!
# Labels that stand side by side

The labels of the sub-commands of one command, or of the parameters of one executable, are sound:
every spelling is a name, and no spelling occurs twice among all of them. `accept_eq_ok_iff` says
exactly when a new label may stand beside sound ones, and `Sound.append` that they stay sound. In
sound labels a search by spelling finds precisely what goes by the spelling.
-/

namespace FlowScript.Label

/-- The spellings of all labels, one label after the other. -/
def allSpellings (labels : List Label) : List String :=
  labels.flatMap spellings

/-- Every spelling is a name and stands for one label only. -/
structure Sound (labels : List Label) : Prop where
  names : ∀ s ∈ allSpellings labels, isName s = true
  distinct : (allSpellings labels).Nodup

theorem Sound.nil : Sound [] where
  names := by simp [allSpellings]
  distinct := by simp [allSpellings]

@[simp] theorem isSpelled_iff {l : Label} {token : String} :
    l.isSpelled token = true ↔ token ∈ l.spellings := by
  simp [isSpelled]

theorem mem_allSpellings {labels : List Label} {s : String} :
    s ∈ allSpellings labels ↔ ∃ l ∈ labels, s ∈ l.spellings := by
  simp [allSpellings]

theorem names_sublist (labels : List Label) :
    (labels.map (·.name)).Sublist (allSpellings labels) := by
  induction labels with
  | nil => exact .slnil
  | cons l rest ih =>
    rw [List.map_cons, allSpellings, List.flatMap_cons, spellings, List.cons_append]
    exact (ih.trans (List.sublist_append_right _ _)).cons_cons _

theorem Sound.nodup_names {labels : List Label} (h : Sound labels) :
    (labels.map (·.name)).Nodup :=
  h.distinct.sublist (names_sublist labels)

/-! ## Searching -/

/-- A search by spelling finds what goes by the spelling, if no two things share one. -/
theorem find?_isSpelled {β : Type} (f : β → Label) {things : List β} {token : String} {b : β}
    (h : (things.flatMap fun b => (f b).spellings).Nodup) :
    things.find? (fun b => (f b).isSpelled token) = some b ↔
      b ∈ things ∧ token ∈ (f b).spellings := by
  constructor
  · intro hfind
    have hspelled := List.find?_some (p := fun b => (f b).isSpelled token) hfind
    exact ⟨List.mem_of_find?_eq_some hfind, isSpelled_iff.1 hspelled⟩
  · rintro ⟨hmem, hspelled⟩
    induction things with
    | nil => simp at hmem
    | cons a rest ih =>
      rw [List.flatMap_cons, List.nodup_append] at h
      obtain ⟨-, hrest, hapart⟩ := h
      rw [List.find?_cons]
      rcases List.mem_cons.1 hmem with rfl | hmem
      · rw [isSpelled_iff.2 hspelled]
      · -- `a` comes first, so it must not go by the spelling of `b`
        have ha : token ∉ (f a).spellings := fun ha =>
          hapart token ha token (List.mem_flatMap.2 ⟨b, hmem, hspelled⟩) rfl
        rw [Bool.eq_false_iff.2 fun hs => ha (isSpelled_iff.1 hs)]
        exact ih hrest hmem

theorem resolve_eq_none_iff {labels : List Label} {token : String} :
    resolve labels token = none ↔ token ∉ allSpellings labels := by
  simp [resolve, isSpelled, allSpellings]

theorem mem_of_resolve {labels : List Label} {token name : String}
    (h : resolve labels token = some name) : token ∈ allSpellings labels := by
  apply Classical.byContradiction
  intro hfree
  rw [resolve_eq_none_iff.2 hfree] at h
  simp at h

theorem mem_names_of_resolve {labels : List Label} {token name : String}
    (h : resolve labels token = some name) : name ∈ labels.map (·.name) := by
  obtain ⟨l, hl, rfl⟩ := Option.map_eq_some_iff.1 h
  exact List.mem_map.2 ⟨l, List.mem_of_find?_eq_some hl, rfl⟩

theorem Sound.resolve_eq_some_iff {labels : List Label} (h : Sound labels) {token name : String} :
    resolve labels token = some name ↔ ∃ l ∈ labels, l.name = name ∧ token ∈ l.spellings := by
  have hfind (l : Label) : labels.find? (fun l => l.isSpelled token) = some l ↔
      l ∈ labels ∧ token ∈ l.spellings :=
    find?_isSpelled (fun l => l) h.distinct
  simp only [resolve, Option.map_eq_some_iff, hfind]
  constructor
  · rintro ⟨l, ⟨hl, hs⟩, rfl⟩
    exact ⟨l, hl, rfl, hs⟩
  · rintro ⟨l, hl, rfl, hs⟩
    exact ⟨l, ⟨hl, hs⟩, rfl⟩

/-! ## Accepting a label -/

theorem checkAbbrs_cons {use : LabelUse} {owner name abbr : String} {siblings : List Label}
    {seen rest : List String} :
    checkAbbrs use owner siblings name seen (abbr :: rest) = .ok () ↔
      (isName abbr = true ∧ abbr ∉ allSpellings siblings ∧ abbr ∉ seen) ∧
        checkAbbrs use owner siblings name (abbr :: seen) rest = .ok () := by
  by_cases hname : isName abbr = true
  · simp only [checkAbbrs, checkName, if_pos hname, bind, Except.bind]
    cases hres : resolve siblings abbr with
    | some existing =>
      have htaken := mem_of_resolve hres
      simp [htaken]
    | none =>
      have hfree := resolve_eq_none_iff.1 hres
      by_cases hseen : abbr ∈ seen <;> simp [hname, hfree, hseen]
  · simp [checkAbbrs, checkName, hname, bind, Except.bind]

theorem checkAbbrs_eq_ok_iff {use : LabelUse} {owner name : String} {siblings : List Label}
    {seen abbrs : List String} :
    checkAbbrs use owner siblings name seen abbrs = .ok () ↔
      (∀ a ∈ abbrs, isName a = true ∧ a ∉ allSpellings siblings ∧ a ∉ seen) ∧ abbrs.Nodup := by
  induction abbrs generalizing seen with
  | nil => simp [checkAbbrs]
  | cons abbr rest ih =>
    rw [checkAbbrs_cons, ih]
    simp only [List.mem_cons, List.nodup_cons, forall_eq_or_imp, not_or]
    constructor
    · rintro ⟨hhead, htail, hnd⟩
      exact ⟨⟨hhead, fun a ha => ⟨(htail a ha).1, (htail a ha).2.1, (htail a ha).2.2.2⟩⟩,
        fun hmem => (htail abbr hmem).2.2.1 rfl, hnd⟩
    · rintro ⟨⟨hhead, htail⟩, hnot, hnd⟩
      refine ⟨hhead, fun a ha => ⟨(htail a ha).1, (htail a ha).2.1, ?_, (htail a ha).2.2⟩, hnd⟩
      rintro rfl
      exact hnot ha

/-- A label may stand beside its siblings exactly if its spellings are names, differ from each
other and are free. -/
theorem accept_eq_ok_iff {use : LabelUse} {owner name : String} {siblings : List Label}
    {abbrs : List String} {l : Label} :
    accept use owner siblings name abbrs = .ok l ↔
      l = ⟨name, abbrs.filter (· ≠ name)⟩ ∧ l.spellings.Nodup ∧
        ∀ s ∈ l.spellings, isName s = true ∧ s ∉ allSpellings siblings := by
  have hcheck : accept use owner siblings name abbrs = .ok l ↔
      (isName name = true ∧ name ∉ allSpellings siblings) ∧
        checkAbbrs use owner siblings name [] (abbrs.filter (· ≠ name)) = .ok () ∧
        l = ⟨name, abbrs.filter (· ≠ name)⟩ := by
    by_cases hname : isName name = true
    · simp only [accept, checkName, if_pos hname, bind, Except.bind]
      cases hres : resolve siblings name with
      | some existing =>
        have htaken := mem_of_resolve hres
        by_cases hsame : existing = name <;> simp [htaken, hsame]
      | none =>
        have hfree := resolve_eq_none_iff.1 hres
        cases hc : checkAbbrs use owner siblings name [] (abbrs.filter (· ≠ name)) with
        | error e => simp
        | ok u => simp [hname, hfree, eq_comm]
    · simp [accept, checkName, hname, bind, Except.bind]
  rw [hcheck, checkAbbrs_eq_ok_iff]
  constructor
  · rintro ⟨⟨hname, hfree⟩, ⟨habbrs, hnd⟩, rfl⟩
    refine ⟨rfl, List.nodup_cons.2 ⟨by simp, hnd⟩, ?_⟩
    intro s hs
    rcases List.mem_cons.1 hs with rfl | hs
    · exact ⟨hname, hfree⟩
    · exact ⟨(habbrs s hs).1, (habbrs s hs).2.1⟩
  · rintro ⟨rfl, hnd, hall⟩
    refine ⟨hall name (by simp [spellings]), ⟨fun a ha => ?_, (List.nodup_cons.1 hnd).2⟩, rfl⟩
    have hmem := hall a (List.mem_cons_of_mem _ ha)
    exact ⟨hmem.1, hmem.2, by simp⟩

/-- The name of a label that may stand beside its siblings is none of their names. -/
theorem name_ne_of_accept {use : LabelUse} {owner name : String} {siblings : List Label}
    {abbrs : List String} {l m : Label} (hl : accept use owner siblings name abbrs = .ok l)
    (hm : m ∈ siblings) : m.name ≠ name := by
  obtain ⟨rfl, -, hfree⟩ := accept_eq_ok_iff.1 hl
  rintro rfl
  exact (hfree m.name (by simp [spellings])).2
    (mem_allSpellings.2 ⟨m, hm, by simp [spellings]⟩)

theorem Sound.append {labels : List Label} (h : Sound labels) {use : LabelUse}
    {owner name : String} {abbrs : List String} {l : Label}
    (hl : accept use owner labels name abbrs = .ok l) : Sound (labels ++ [l]) := by
  obtain ⟨-, hnd, hall⟩ := accept_eq_ok_iff.1 hl
  have happ : allSpellings (labels ++ [l]) = allSpellings labels ++ l.spellings := by
    simp [allSpellings]
  constructor
  · intro s hs
    rw [happ] at hs
    rcases List.mem_append.1 hs with hs | hs
    · exact h.names s hs
    · exact (hall s hs).1
  · rw [happ, List.nodup_append]
    refine ⟨h.distinct, hnd, ?_⟩
    rintro s hs s' hs' rfl
    exact (hall s hs').2 hs

end FlowScript.Label
