import FlowScript.Command.Spelling
import FlowScript.Proofs.Command.Registration

/-!
# Expanding a path twice

An expanded path should expand to itself. Names of commands do, but a parameter may have the name
that is an abbreviation of a sub-command beside it. Such a parameter is hidden: one of its other
spellings still expands to its name, and its name then expands to the sub-command. A path that ends
in a hidden parameter is the only kind of expanded path that does not expand to itself
(`expand_expand_iff`).
-/

namespace FlowScript.CommandTree

variable {α : Type} {t : CommandTree α}

/-! ## One segment -/

theorem expandFrom_cons_eq_some_iff {level : Option Level} {token : String}
    {rest names : List String} :
    t.expandFrom level (token :: rest) = some names ↔
      ∃ l name names', level = some l ∧ t.resolveAt l token = some name ∧
        t.expandFrom (t.below? l name) rest = some names' ∧ names = name :: names' := by
  cases level with
  | none => simp [expandFrom]
  | some l =>
    simp only [expandFrom, bind, Option.bind_some, Option.bind_eq_some_iff, Option.some.injEq]
    constructor
    · rintro ⟨name, hres, names', hrest, rfl⟩
      exact ⟨l, name, names', rfl, hres, hrest, rfl⟩
    · rintro ⟨_, name, names', rfl, hres, hrest, rfl⟩
      exact ⟨name, hres, names', hrest, rfl⟩

theorem resolveAt_eq_some_cases {id : NodeId} {token name : String}
    (h : t.resolveAt (.command id) token = some name) :
    (∃ c, t.findChild id token = some c ∧ t.name c = name) ∨
      ∃ x, t.executable? id = some x ∧ x.resolve token = some name := by
  rw [resolveAt] at h
  split at h
  · rename_i c hc
    exact .inl ⟨c, hc, Option.some.inj h⟩
  · obtain ⟨x, hx, hres⟩ := Option.bind_eq_some_iff.1 h
    exact .inr ⟨x, hx, hres⟩

/-- Nothing stands below a name that no sub-command has. -/
theorem below?_eq_of_no_child {id : NodeId} {name : String}
    (h : ∀ c ∈ t.children id, t.name c ≠ name) :
    t.below? (.command id) name = none ∨ t.below? (.command id) name = some .argument := by
  have hfind : (t.children id).find? (fun c => t.name c = name) = none :=
    List.find?_eq_none.2 (by simpa using h)
  simp only [below?, hfind]
  split
  · exact .inr rfl
  · exact .inl rfl

theorem eq_nil_of_expandFrom_argument {level : Option Level} {segments names : List String}
    (hlevel : level = none ∨ level = some .argument)
    (h : t.expandFrom level segments = some names) : segments = [] ∧ names = [] := by
  cases segments with
  | nil => exact ⟨rfl, (Option.some.inj h).symm⟩
  | cons token rest =>
    obtain ⟨l, name, names', rfl, hres, -⟩ := expandFrom_cons_eq_some_iff.1 h
    rcases hlevel with hlevel | hlevel
    · simp at hlevel
    · obtain rfl := Option.some.inj hlevel
      simp [resolveAt] at hres

namespace WellFormed

theorem resolveAt_name (h : t.WellFormed) {p c : NodeId} (hc : c ∈ t.children p) :
    t.resolveAt (.command p) (t.name c) = some (t.name c) := by
  rw [resolveAt, h.findChild_name hc]

theorem below?_name (h : t.WellFormed) {p c : NodeId} (hc : c ∈ t.children p) :
    t.below? (.command p) (t.name c) = some (.command c) := by
  cases hfind : (t.children p).find? (fun d => t.name d = t.name c) with
  | none =>
    have hnone := List.find?_eq_none.1 hfind c hc
    simp at hnone
  | some d =>
    have hd : d ∈ t.children p := List.mem_of_find?_eq_some hfind
    have hname : t.name d = t.name c := by simpa using List.find?_some hfind
    have hsame := h.findChild_name hd
    rw [hname, h.findChild_name hc] at hsame
    rw [below?, hfind, Option.some.inj hsame]

theorem isName_resolveAt (h : t.WellFormed) {level : Level} {token name : String}
    (hres : t.resolveAt level token = some name) : isName name = true := by
  cases level with
  | argument => simp [resolveAt] at hres
  | command id =>
    rcases resolveAt_eq_some_cases hres with ⟨c, hc, rfl⟩ | ⟨x, hx, hres⟩
    · exact h.isName_name (mem_of_findChild hc)
    · have hsound := h.params id x hx
      obtain ⟨l, hl, rfl, -⟩ := hsound.resolve_eq_some_iff.1 hres
      exact hsound.names _ (Label.mem_allSpellings.2 ⟨l, hl, by simp [Label.spellings]⟩)

theorem isName_expandFrom (h : t.WellFormed) {level : Option Level}
    {segments names : List String} (hexp : t.expandFrom level segments = some names) :
    ∀ s ∈ names, isName s = true := by
  induction segments generalizing level names with
  | nil => simp [expandFrom] at hexp; simp [hexp]
  | cons token rest ih =>
    obtain ⟨l, name, names', rfl, hres, hrest, rfl⟩ := expandFrom_cons_eq_some_iff.1 hexp
    intro s hs
    rcases List.mem_cons.1 hs with rfl | hs
    · exact h.isName_resolveAt hres
    · exact ih hrest s hs

/-- Expansion follows the names of commands. -/
theorem expandFrom_pathNames (h : t.WellFormed) {id : NodeId} (hid : id.index < t.size)
    (segments : List String) :
    t.expandFrom (some (.command root)) (t.pathNames id ++ segments) =
      (t.expandFrom (some (.command id)) segments).map (t.pathNames id ++ ·) := by
  refine h.induction (motive := fun id => ∀ segments,
    t.expandFrom (some (.command root)) (t.pathNames id ++ segments) =
      (t.expandFrom (some (.command id)) segments).map (t.pathNames id ++ ·)) ?_ ?_ hid segments
  · intro segments
    simp [h.pathNames_root]
  · intro p c _ ih hc segments
    rw [h.pathNames_child hc, List.append_assoc, ih]
    simp only [List.singleton_append, expandFrom, bind, Option.bind_some, h.resolveAt_name hc,
      h.below?_name hc]
    cases t.expandFrom (some (.command c)) segments <;> simp

end WellFormed

/-! ## Hidden parameters -/

/-- The name of a parameter is an abbreviation of a sub-command of the same command. -/
def IsHidden (t : CommandTree α) (id : NodeId) (a : String) : Prop :=
  t.Declares id a ∧ ∃ c, t.findChild id a = some c ∧ t.name c ≠ a

/-- The path leads to a hidden parameter. -/
def EndsHidden (t : CommandTree α) (path : String) : Prop :=
  ∃ id a, id.index < t.size ∧ t.IsHidden id a ∧ path = Text.join "." (t.pathNames id ++ [a])

theorem WellFormed.expandFrom_expandFrom (h : t.WellFormed) {id : NodeId}
    (hid : id.index < t.size) {segments names : List String}
    (hexp : t.expandFrom (some (.command id)) segments = some names) :
    t.expandFrom (some (.command id)) names = some names ∨
      ∃ n front a, n.index < t.size ∧ t.IsHidden n a ∧ t.pathNames n = t.pathNames id ++ front ∧
        names = front ++ [a] := by
  induction segments generalizing id names with
  | nil =>
    obtain rfl := Option.some.inj hexp
    exact .inl rfl
  | cons token rest ih =>
    obtain ⟨l, name, names, hl, hres, hrest, rfl⟩ := expandFrom_cons_eq_some_iff.1 hexp
    obtain rfl := Option.some.inj hl
    by_cases hchild : ∃ c ∈ t.children id, t.name c = name
    · -- the segment goes on to a sub-command, whatever spelling it came from
      obtain ⟨c, hc, rfl⟩ := hchild
      rw [h.below?_name hc] at hrest
      rcases ih (mem_children.1 hc).1 hrest with hfix | ⟨n, front, a, hn, hhidden, hpath, rfl⟩
      · refine .inl (expandFrom_cons_eq_some_iff.2 ⟨_, _, names, rfl, h.resolveAt_name hc, ?_, rfl⟩)
        rw [h.below?_name hc, hfix]
      · refine .inr ⟨n, t.name c :: front, a, hn, hhidden, ?_, rfl⟩
        rw [hpath, h.pathNames_child hc]
        simp
    · -- the segment is a parameter, so it is the last one
      have hnone : ∀ c ∈ t.children id, t.name c ≠ name := fun c hc he => hchild ⟨c, hc, he⟩
      obtain ⟨rfl, rfl⟩ := eq_nil_of_expandFrom_argument (below?_eq_of_no_child hnone) hrest
      rcases resolveAt_eq_some_cases hres with ⟨c, hc, hname⟩ | ⟨x, hx, hres'⟩
      · exact absurd hname (hnone c (mem_of_findChild hc))
      · have hsound := h.params id x hx
        obtain ⟨l, hl, rfl, -⟩ := hsound.resolve_eq_some_iff.1 hres'
        cases hfind : t.findChild id l.name with
        | none =>
          left
          have hself : x.resolve l.name = some l.name :=
            hsound.resolve_eq_some_iff.2 ⟨l, hl, rfl, by simp [Label.spellings]⟩
          have hat : t.resolveAt (.command id) l.name = some l.name := by
            rw [resolveAt, hfind, hx]
            exact hself
          exact expandFrom_cons_eq_some_iff.2 ⟨_, _, [], rfl, hat, rfl, rfl⟩
        | some c =>
          right
          refine ⟨id, [], l.name, hid, ⟨⟨x, hx, List.mem_map.2 ⟨l, hl, rfl⟩⟩, c, hfind, ?_⟩,
            by simp, rfl⟩
          exact hnone c (mem_of_findChild hfind)

/-! ## Whole paths -/

theorem expand_dot (t : CommandTree α) (path : String) :
    t.expand path "." =
      match t.expandFrom (some (.command root)) (Text.splitAt '.' path) with
      | some names => (Text.join "." names, true)
      | none => (path, false) := by
  have hsplit : Text.splitOn "." path = Text.splitAt '.' path := Text.splitOn_singleton '.' path
  rewrite [expand, hsplit]
  rfl

theorem expand_eq_true_iff {p q : String} :
    t.expand p "." = (q, true) ↔
      ∃ names, t.expandFrom (some (.command root)) (Text.splitAt '.' p) = some names ∧
        q = Text.join "." names := by
  rw [expand_dot]
  cases t.expandFrom (some (.command root)) (Text.splitAt '.' p) with
  | none => simp
  | some names => simp [eq_comm]

theorem eq_of_expand_false {p q : String} (h : t.expand p "." = (q, false)) : q = p := by
  rw [expand_dot] at h
  split at h
  · simp at h
  · exact (Prod.mk.inj h).1.symm

theorem expandFrom_length {level : Option Level} {segments names : List String}
    (h : t.expandFrom level segments = some names) : names.length = segments.length := by
  induction segments generalizing level names with
  | nil =>
    obtain rfl := Option.some.inj h
    rfl
  | cons token rest ih =>
    obtain ⟨l, name, names', -, -, hrest, rfl⟩ := expandFrom_cons_eq_some_iff.1 h
    simp [ih hrest]

/-- A spelling of a sub-command at the end of a path expands to its name. -/
theorem WellFormed.expand_append (h : t.WellFormed) {id c : NodeId} {a : String}
    (hid : id.index < t.size) (hc : t.findChild id a = some c) :
    t.expand (Text.join "." (t.pathNames id ++ [a])) "." =
      (Text.join "." (t.pathNames id ++ [t.name c]), true) := by
  obtain ⟨hmem, hspelled⟩ := h.findChild_eq_some_iff.1 hc
  have hnames := h.isName_pathNames_append hid (h.isName_of_mem hmem hspelled)
  have hat : t.expandFrom (some (.command id)) [a] = some [t.name c] :=
    expandFrom_cons_eq_some_iff.2 ⟨_, t.name c, [], rfl, by rw [resolveAt, hc], rfl, rfl⟩
  rw [expand_dot, splitAt_join_names (by simp) hnames, h.expandFrom_pathNames hid, hat]
  rfl

theorem WellFormed.expand_ne_of_endsHidden (h : t.WellFormed) {path : String}
    (hpath : t.EndsHidden path) : t.expand path "." ≠ (path, true) := by
  obtain ⟨id, a, hid, ⟨-, c, hc, hne⟩, rfl⟩ := hpath
  obtain ⟨hmem, hspelled⟩ := h.findChild_eq_some_iff.1 hc
  rw [h.expand_append hid hc]
  intro heq
  have hjoin := join_names_injective (by simp) (by simp)
    (h.isName_pathNames_append hid (h.isName_name hmem))
    (h.isName_pathNames_append hid (h.isName_of_mem hmem hspelled)) (Prod.mk.inj heq).1
  exact hne (List.singleton_inj.1 (List.append_cancel_left hjoin))

/-- An expanded path expands to itself unless it ends in a hidden parameter, and a path that cannot
be expanded comes back as it was. -/
theorem expand_expand_iff (h : t.Reachable) (p q : String) :
    (t.expand p "." = (q, true) → (t.expand q "." = (q, true) ↔ ¬ t.EndsHidden q)) ∧
      (t.expand p "." = (q, false) → q = p) := by
  have hwf := h.wellFormed
  refine ⟨fun hp => ⟨fun hq hhidden => hwf.expand_ne_of_endsHidden hhidden hq, fun hshown => ?_⟩,
    eq_of_expand_false⟩
  obtain ⟨names, hnames, rfl⟩ := expand_eq_true_iff.1 hp
  have hne : names ≠ [] := by
    intro hnil
    have hlen := expandFrom_length hnames
    rw [hnil] at hlen
    exact Text.splitAt_ne_nil '.' p (List.length_eq_zero_iff.1 hlen.symm)
  have hsegments := splitAt_join_names hne (hwf.isName_expandFrom hnames)
  rcases hwf.expandFrom_expandFrom hwf.root_lt hnames with hfix | hhidden
  · exact expand_eq_true_iff.2 ⟨names, by rw [hsegments, hfix], rfl⟩
  · obtain ⟨n, front, a, hn, hhidden, hpath, rfl⟩ := hhidden
    rw [hwf.pathNames_root, List.nil_append] at hpath
    exact absurd ⟨n, a, hn, hhidden, by rw [hpath]⟩ hshown

/-! ## A hidden parameter -/

/-- A command with the parameters `to` and `subject` and a sub-command that `to` abbreviates. -/
def mailTree : CommandTree Unit :=
  (Registration.performAll
    [.addSub root "mail" ["m"], .attach ⟨1⟩ "" (.normal ()), .declare ⟨1⟩ "to" "" ["t"],
     .declare ⟨1⟩ "subject" "" ["s"], .addSub ⟨1⟩ "forward" ["to"]] .empty).2

theorem mailTree_reachable : mailTree.Reachable :=
  ⟨_, BuiltBy.start.performAll _⟩

theorem expand_subject :
    mailTree.expand "m.s" "." = ("mail.subject", true) ∧
      (mailTree.expand "mail.subject" "." = ("mail.subject", true) ↔
        ¬ mailTree.EndsHidden "mail.subject") ∧
      mailTree.expand "m.x" "." = ("m.x", false) := by
  have hs : mailTree.expand "m.s" "." = ("mail.subject", true) := by
    rw [expand_dot]
    rfl
  have hx : mailTree.expand "m.x" "." = ("m.x", false) := by
    rw [expand_dot]
    rfl
  exact ⟨hs, (expand_expand_iff mailTree_reachable _ _).1 hs, hx⟩

/-- The parameter is reached by its abbreviation, and its name then goes to the sub-command. -/
theorem expand_to_twice :
    mailTree.Reachable ∧ mailTree.expand "m.t" "." = ("mail.to", true) ∧
      mailTree.expand "mail.to" "." = ("mail.forward", true) := by
  refine ⟨mailTree_reachable, ?_, ?_⟩
  · rw [expand_dot]
    rfl
  · rw [expand_dot]
    rfl

end FlowScript.CommandTree
