import FlowScript.Proofs.Command.Expansion

/-!
# An index of spellings

Instead of asking the tree at every segment, a path can be expanded with an index that is built from
the tree once: a table of spellings for each level, with an index below each name. The spellings of
sub-commands come first. Those of parameters are then added one after the other, in whatever order,
unless a sub-command of another name has the spelling. Such an index expands every path as the tree
does (`expand_spellingIndex`).
-/

namespace FlowScript

/-- What texts stand for at one level, and an index below each name. -/
structure SpellingIndex where
  names : List (String × String)
  subs : List (String × SpellingIndex)

namespace SpellingIndex

/-- The index in which nothing stands for anything. -/
def empty : SpellingIndex := ⟨[], []⟩

/-- Adds a spelling of a parameter, unless something of another name has it. Below the parameter
there is nothing, but what is there already stays. -/
def addParam (ix : SpellingIndex) (pair : String × String) : SpellingIndex :=
  if (ix.names.lookup pair.1).all (· = pair.2) then
    { names := pair :: ix.names
      subs := if (ix.subs.lookup pair.2).isSome then ix.subs else (pair.2, empty) :: ix.subs }
  else ix

/-- The names that a list of segments stands for, the first one being looked up in an index. -/
def expandFrom (ix : Option SpellingIndex) : List String → Option (List String)
  | [] => some []
  | token :: rest => do
    let ix ← ix
    let name ← ix.names.lookup token
    let names ← expandFrom (ix.subs.lookup name) rest
    some (name :: names)

/-- The path of names that an abbreviated path stands for, and whether every segment resolved. -/
def expand (ix : SpellingIndex) (path sep : String) : String × Bool :=
  match expandFrom (some ix) (Text.splitOn sep path) with
  | some names => (Text.join sep names, true)
  | none => (path, false)

/-! ## Adding parameters -/

section AddParam

variable (ix : SpellingIndex) (s name : String)

theorem lookup_names_addParam (token : String) :
    (ix.addParam (s, name)).names.lookup token =
      (ix.names.lookup token).or (if token = s then some name else none) := by
  rw [addParam]
  by_cases htoken : token = s
  · subst htoken
    cases hbefore : ix.names.lookup token with
    | none => simp
    | some existing => by_cases hsame : existing = name <;> simp [hsame, hbefore]
  · have hne : (token == s) = false := by simpa using htoken
    split <;> simp [List.lookup_cons, hne]

theorem lookup_subs_addParam (q : String) :
    (ix.addParam (s, name)).subs.lookup q =
      (ix.subs.lookup q).or
        (if name = q ∧ (ix.names.lookup s).all (· = q) then some empty else none) := by
  rw [addParam]
  by_cases hfree : (ix.names.lookup s).all (· = name) = true
  · simp only [hfree, if_true]
    by_cases hq : name = q
    · subst hq
      cases hbefore : ix.subs.lookup name <;> simp [hfree, hbefore]
    · have hne : (q == name) = false := by simpa using Ne.symm hq
      split <;> simp [hq, List.lookup_cons, hne]
  · by_cases hq : name = q
    · subst hq
      simp [hfree]
    · simp [hfree, hq]

end AddParam

/-- Spellings of parameters are found where nothing was before. -/
theorem lookup_names_addParams {pairs : List (String × String)} (hnd : (pairs.map (·.1)).Nodup)
    (ix : SpellingIndex) (token : String) :
    (pairs.foldl addParam ix).names.lookup token =
      (ix.names.lookup token).or (pairs.lookup token) := by
  induction pairs generalizing ix with
  | nil => simp
  | cons pair rest ih =>
    obtain ⟨s, name⟩ := pair
    obtain ⟨-, hrest⟩ := List.nodup_cons.1 hnd
    rw [List.foldl_cons, ih hrest, lookup_names_addParam, Option.or_assoc, List.lookup_cons]
    by_cases htoken : token = s
    · simp [htoken]
    · have hne : (token == s) = false := by simpa using htoken
      simp [htoken, hne]

/-- An index is put below the name of a parameter if one of its spellings is left to it, and below
no other name. -/
theorem lookup_subs_addParams {pairs : List (String × String)} (hnd : (pairs.map (·.1)).Nodup)
    (ix : SpellingIndex) (q : String) :
    (pairs.foldl addParam ix).subs.lookup q =
      (ix.subs.lookup q).or
        (if ∃ pair ∈ pairs, pair.2 = q ∧ (ix.names.lookup pair.1).all (· = q) then some empty
          else none) := by
  induction pairs generalizing ix with
  | nil => simp
  | cons pair rest ih =>
    obtain ⟨s, name⟩ := pair
    obtain ⟨hs, hrest⟩ := List.nodup_cons.1 hnd
    -- the spellings still to come are others, so adding this one is not seen there
    have hlater : (∃ pair ∈ rest, pair.2 = q ∧
        ((ix.addParam (s, name)).names.lookup pair.1).all (· = q)) ↔
        ∃ pair ∈ rest, pair.2 = q ∧ (ix.names.lookup pair.1).all (· = q) := by
      refine exists_congr fun pair => and_congr_right fun hpair => ?_
      have hne : pair.1 ≠ s := fun heq => hs (List.mem_map.2 ⟨pair, hpair, heq⟩)
      rw [lookup_names_addParam, if_neg hne, Option.or_none]
    rw [List.foldl_cons, ih hrest, lookup_subs_addParam, Option.or_assoc]
    simp only [hlater, List.mem_cons, exists_eq_or_imp]
    by_cases hhere : name = q ∧ (ix.names.lookup s).all (· = q) = true
    · simp [hhere]
    · simp only [hhere, false_or, if_false, Option.none_or]

end SpellingIndex

namespace CommandTree

variable {α : Type} {t : CommandTree α}

/-! ## The index of a tree -/

/-- The spellings of a list of labels, each with the name that it stands for. -/
def spelled (labels : List Label) : List (String × String) :=
  labels.flatMap fun l => l.spellings.map fun s => (s, l.name)

/-- The spellings of the parameters at a node, each with the name that it stands for. -/
def paramSpellings (t : CommandTree α) (id : NodeId) : List (String × String) :=
  spelled ((t.paramsAt id).map (·.label))

/-- The index of what a node offers. `order` gives the order in which spellings of parameters are
added. -/
def spellingIndex (t : CommandTree α) (order : NodeId → List (String × String)) (id : NodeId) :
    SpellingIndex :=
  (order id).foldl SpellingIndex.addParam
    { names := spelled (t.labelsBelow id)
      subs := (t.children id).attach.map fun ⟨c, _⟩ =>
        (t.name c, if id.index < c.index then t.spellingIndex order c else .empty) }
termination_by t.size - id.index
decreasing_by
  have hlt := (mem_children.1 ‹_›).1
  omega

section Spelled

variable (labels : List Label)

/-- A look-up by spelling finds the name of the label that goes by it. -/
theorem lookup_spelled (token : String) :
    (spelled labels).lookup token = Label.resolve labels token := by
  induction labels with
  | nil => rfl
  | cons l rest ih =>
    have hown (spellings : List String) : (spellings.map fun s => (s, l.name)).lookup token =
        if spellings.contains token then some l.name else none := by
      induction spellings with
      | nil => rfl
      | cons s spellings ih =>
        rw [List.map_cons, List.lookup_cons, ih, List.contains_cons]
        cases token == s <;> simp
    have hcons : spelled (l :: rest) =
        (l.spellings.map fun s => (s, l.name)) ++ spelled rest := rfl
    rw [hcons, List.lookup_append, hown, ih]
    simp only [Label.resolve, List.find?_cons, Label.isSpelled]
    cases l.spellings.contains token <;> simp

theorem keys_spelled : (spelled labels).map (·.1) = Label.allSpellings labels := by
  simp [spelled, Label.allSpellings, List.map_flatMap, Function.comp_def]

theorem mem_spelled {s name : String} :
    (s, name) ∈ spelled labels ↔ ∃ l ∈ labels, l.name = name ∧ s ∈ l.spellings := by
  simp only [spelled, List.mem_flatMap, List.mem_map, Prod.mk.injEq]
  constructor
  · rintro ⟨l, hl, _, hs, rfl, rfl⟩
    exact ⟨l, hl, rfl, hs⟩
  · rintro ⟨l, hl, rfl, hs⟩
    exact ⟨l, hl, s, hs, rfl, rfl⟩

end Spelled

/-- The order of a table does not matter if no key comes twice. -/
theorem lookup_perm {pairs pairs' : List (String × String)} (h : pairs.Perm pairs')
    (hnd : (pairs.map (·.1)).Nodup) (token : String) :
    pairs.lookup token = pairs'.lookup token := by
  induction h with
  | nil => rfl
  | cons pair _ ih =>
    obtain ⟨s, name⟩ := pair
    rw [List.lookup_cons, List.lookup_cons, ih (List.nodup_cons.1 hnd).2]
  | swap pair pair' rest =>
    obtain ⟨s, name⟩ := pair
    obtain ⟨s', name'⟩ := pair'
    have hne : s' ≠ s := by
      rintro rfl
      simp at hnd
    by_cases htoken : token = s
    · subst htoken
      have hother : (token == s') = false := by simpa using hne.symm
      simp [List.lookup_cons, hother]
    · have hother : (token == s) = false := by simpa using htoken
      simp [List.lookup_cons, hother]
  | trans h _ ih ih' => rw [ih hnd, ih' ((h.map _).nodup_iff.1 hnd)]

/-! ## The index and the tree -/

/-- The index of a level of the tree. -/
def levelIndex (t : CommandTree α) (order : NodeId → List (String × String)) :
    Level → SpellingIndex
  | .command id => t.spellingIndex order id
  | .argument => .empty

theorem resolve_labelsBelow (id : NodeId) (token : String) :
    Label.resolve (t.labelsBelow id) token = (t.findChild id token).map t.name := by
  rw [Label.resolve, labelsBelow, List.find?_map, Option.map_map, findChild]
  rfl

theorem resolve_paramsAt (id : NodeId) (token : String) :
    Label.resolve ((t.paramsAt id).map (·.label)) token =
      (t.executable? id).bind (·.resolve token) := by
  rw [paramsAt]
  cases t.executable? id <;> rfl

namespace WellFormed

variable {order : NodeId → List (String × String)}

theorem sound_paramsAt (h : t.WellFormed) (id : NodeId) :
    Label.Sound ((t.paramsAt id).map (·.label)) := by
  rw [paramsAt]
  cases hx : t.executable? id with
  | none => exact .nil
  | some x => exact h.params id x hx

theorem nodup_order (h : t.WellFormed) (horder : ∀ id, (order id).Perm (t.paramSpellings id))
    (id : NodeId) : ((order id).map (·.1)).Nodup := by
  rw [((horder id).map _).nodup_iff, paramSpellings, keys_spelled]
  exact (h.sound_paramsAt id).distinct

/-- The index of a command is made of the spellings and the indexes of its sub-commands, with the
spellings of its parameters added. -/
theorem spellingIndex_eq (h : t.WellFormed) (id : NodeId) :
    t.spellingIndex order id = (order id).foldl SpellingIndex.addParam
      { names := spelled (t.labelsBelow id)
        subs := (t.children id).map fun c => (t.name c, t.spellingIndex order c) } := by
  have hsubs : (t.children id).attach.map (fun c => (t.name c.1,
      if id.index < c.1.index then t.spellingIndex order c.1 else .empty)) =
      (t.children id).map fun c => (t.name c, t.spellingIndex order c) := by
    rw [← List.attach_map_val (f := fun c => (t.name c, t.spellingIndex order c))]
    refine List.map_congr_left fun c _ => ?_
    rw [if_pos (h.parent_lt c.2)]
  rw [spellingIndex, hsubs]

/-- A text stands for the same in the index and in the tree. -/
theorem lookup_names_spellingIndex (h : t.WellFormed)
    (horder : ∀ id, (order id).Perm (t.paramSpellings id)) (id : NodeId) (token : String) :
    (t.spellingIndex order id).names.lookup token = t.resolveAt (.command id) token := by
  have hnd := h.nodup_order horder id
  rw [h.spellingIndex_eq, SpellingIndex.lookup_names_addParams hnd, lookup_perm (horder id) hnd,
    paramSpellings, lookup_spelled, lookup_spelled, resolve_labelsBelow, resolve_paramsAt, resolveAt]
  cases t.findChild id token <;> rfl

/-- A spelling of a parameter is left to it exactly if the parameter can be reached, where no
sub-command has its name. -/
theorem exists_free_spelling_iff (h : t.WellFormed)
    (horder : ∀ id, (order id).Perm (t.paramSpellings id)) {id : NodeId} {q : String}
    (hchild : ∀ c ∈ t.children id, t.name c ≠ q) :
    (∃ pair ∈ order id, pair.2 = q ∧
      ((spelled (t.labelsBelow id)).lookup pair.1).all (· = q)) ↔
    ((t.executable? id).bind fun x => x.params.find? fun p =>
      p.label.name = q && t.isReachable id p).isSome := by
  have hmem (pair : String × String) : pair ∈ order id ↔
      ∃ p ∈ t.paramsAt id, p.label.name = pair.2 ∧ pair.1 ∈ p.label.spellings := by
    rw [(horder id).mem_iff, paramSpellings, mem_spelled]
    constructor
    · rintro ⟨_, hl, hname, hs⟩
      obtain ⟨p, hp, rfl⟩ := List.mem_map.1 hl
      exact ⟨p, hp, hname, hs⟩
    · rintro ⟨p, hp, hname, hs⟩
      exact ⟨p.label, List.mem_map.2 ⟨p, hp, rfl⟩, hname, hs⟩
  simp only [hmem, lookup_spelled, resolve_labelsBelow, paramsAt]
  cases hx : t.executable? id with
  | none => simp
  | some x =>
    simp only [Option.map_some, Option.getD_some, Option.bind_some, List.find?_isSome,
      Bool.and_eq_true, decide_eq_true_eq, isReachable, List.any_eq_true]
    constructor
    · rintro ⟨⟨s, _⟩, ⟨p, hp, rfl, hs⟩, rfl, hfree⟩
      refine ⟨p, hp, rfl, s, hs, ?_⟩
      cases hfind : t.findChild id s with
      | some c => exact absurd (by simpa [hfind] using hfree) (hchild c (mem_of_findChild hfind))
      | none =>
        rw [resolveAt, hfind, hx]
        exact (h.params id x hx).resolve_eq_some_iff.2
          ⟨p.label, List.mem_map.2 ⟨p, hp, rfl⟩, rfl, hs⟩
    · rintro ⟨p, hp, rfl, s, hs, hres⟩
      refine ⟨(s, p.label.name), ⟨p, hp, rfl, hs⟩, rfl, ?_⟩
      rw [resolveAt] at hres
      cases hfind : t.findChild id s <;> simp_all

/-- Below a name the index and the tree go on alike. -/
theorem lookup_subs_spellingIndex (h : t.WellFormed)
    (horder : ∀ id, (order id).Perm (t.paramSpellings id)) (id : NodeId) (q : String) :
    (t.spellingIndex order id).subs.lookup q =
      (t.below? (.command id) q).map (t.levelIndex order) := by
  have hlookup (cs : List NodeId) :
      (cs.map fun c => (t.name c, t.spellingIndex order c)).lookup q =
        (cs.find? fun c => t.name c = q).map (t.spellingIndex order) := by
    induction cs with
    | nil => rfl
    | cons c rest ih =>
      rw [List.map_cons, List.lookup_cons, List.find?_cons, ih]
      by_cases hname : t.name c = q
      · simp [hname]
      · have hne : (q == t.name c) = false := by simpa using Ne.symm hname
        simp [hname, hne]
  rw [h.spellingIndex_eq, SpellingIndex.lookup_subs_addParams (h.nodup_order horder id), hlookup,
    below?]
  cases hfind : (t.children id).find? fun c => t.name c = q with
  | some c => rfl
  | none =>
    have hchild : ∀ c ∈ t.children id, t.name c ≠ q := by
      simpa using List.find?_eq_none.1 hfind
    have hiff := h.exists_free_spelling_iff horder hchild
    simp only [hiff]
    cases (t.executable? id).bind fun x => x.params.find? fun p =>
      p.label.name = q && t.isReachable id p <;> rfl

theorem expandFrom_levelIndex (h : t.WellFormed)
    (horder : ∀ id, (order id).Perm (t.paramSpellings id)) (level : Option Level)
    (segments : List String) :
    SpellingIndex.expandFrom (level.map (t.levelIndex order)) segments =
      t.expandFrom level segments := by
  induction segments generalizing level with
  | nil => rfl
  | cons token rest ih =>
    cases level with
    | none => rfl
    | some l =>
      cases l with
      | argument => rfl
      | command id =>
        simp only [SpellingIndex.expandFrom, expandFrom, Option.map_some, levelIndex, bind,
          Option.bind_some, h.lookup_names_spellingIndex horder,
          h.lookup_subs_spellingIndex horder, ih]

/-- The index expands every path as the tree does, whatever the order of its tables. -/
theorem expand_spellingIndex (h : t.WellFormed)
    (horder : ∀ id, (order id).Perm (t.paramSpellings id)) (path sep : String) :
    (t.spellingIndex order root).expand path sep = t.expand path sep := by
  have hfrom := h.expandFrom_levelIndex horder (some (.command root)) (Text.splitOn sep path)
  simp only [Option.map_some, levelIndex] at hfrom
  rewrite [SpellingIndex.expand, hfrom, expand]
  cases t.expandFrom (some (.command root)) (Text.splitOn sep path) <;> rfl

end WellFormed

end CommandTree

end FlowScript
