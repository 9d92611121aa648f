import FlowScript.Command.Tree
import FlowScript.Proofs.Command.Spellings
import FlowScript.Proofs.Text.Cutting

/-!
# The shape of a command tree

In a well-formed tree every command below the root hangs on one that was there before it, and labels
side by side are sound. Then a look-up by spelling is exact (`findChild_eq_some_iff`), the names
on the way to a command lead to it and to no other (`findFrom_pathNames`), and so does its dotted
path (`findPath_displayPath`).
-/

namespace FlowScript

/-! ## Names -/

theorem dot_not_mem_of_isName {s : String} (h : isName s = true) : '.' ∉ s.toList := by
  intro hdot
  simp only [isName, Bool.and_eq_true, List.all_eq_true] at h
  have := h.2 '.' hdot
  simp [isNameChar] at this

theorem isBlank_of_isNameChar {c : Char} (h : isNameChar c = true) : Text.isBlank c = false := by
  simp only [isNameChar, Bool.and_eq_true, Bool.not_eq_true'] at h
  exact h.1

theorem ne_empty_of_isName {s : String} (h : isName s = true) : s ≠ "" := by
  rintro rfl
  simp [isName] at h

/-- The segments of names that were joined are these names. -/
theorem splitAt_join_names {names : List String} (hne : names ≠ [])
    (hnames : ∀ s ∈ names, isName s = true) :
    Text.splitAt '.' (Text.join "." names) = names := by
  rw [show "." = String.singleton '.' from rfl]
  exact Text.splitAt_join hne fun s hs => dot_not_mem_of_isName (hnames s hs)

theorem join_names_injective {xs ys : List String} (hxs : xs ≠ []) (hys : ys ≠ [])
    (hx : ∀ s ∈ xs, isName s = true) (hy : ∀ s ∈ ys, isName s = true)
    (h : Text.join "." xs = Text.join "." ys) : xs = ys := by
  rw [← splitAt_join_names hxs hx, h, splitAt_join_names hys hy]

namespace CommandTree

variable {α : Type} {t : CommandTree α}

/-! ## Children -/

theorem mem_ids {c : NodeId} : c ∈ t.ids ↔ c.index < t.size := by
  simp only [ids, List.mem_map, List.mem_range]
  constructor
  · rintro ⟨i, hi, rfl⟩
    exact hi
  · intro h
    exact ⟨c.index, h, rfl⟩

theorem nodup_ids : t.ids.Nodup := by
  refine List.Pairwise.map NodeId.mk ?_ List.nodup_range
  intro i j hij h
  exact hij (NodeId.mk.inj h)

theorem mem_children {p c : NodeId} :
    c ∈ t.children p ↔ c.index < t.size ∧ (t.node c).parent = some p := by
  simp [children, mem_ids]

theorem nodup_children (p : NodeId) : (t.children p).Nodup :=
  nodup_ids.sublist List.filter_sublist

theorem mem_of_findChild {p c : NodeId} {token : String} (h : t.findChild p token = some c) :
    c ∈ t.children p :=
  List.mem_of_find?_eq_some h

/-- The labels of the children of a node. -/
def labelsBelow (t : CommandTree α) (id : NodeId) : List Label :=
  (t.children id).map fun c => (t.node c).label

/-- A command has an executable with a parameter of a name. -/
def Declares (t : CommandTree α) (id : NodeId) (a : String) : Prop :=
  ∃ x, t.executable? id = some x ∧ a ∈ x.labels.map (·.name)

/-! ## Well-formed trees -/

/-- The root comes first and hangs on nothing, every other node hangs on an earlier one, and the
labels of siblings and of the parameters of one executable are sound. -/
structure WellFormed (t : CommandTree α) : Prop where
  root_first : 0 < t.size ∧ (t.node root).parent = none
  parent_before : ∀ id, id ≠ root → id.index < t.size →
    ∃ p, (t.node id).parent = some p ∧ p.index < id.index
  siblings : ∀ id, Label.Sound (t.labelsBelow id)
  params : ∀ id x, t.executable? id = some x → Label.Sound x.labels

namespace WellFormed

theorem root_lt (h : t.WellFormed) : root.index < t.size :=
  h.root_first.1

theorem root_not_child (h : t.WellFormed) (p : NodeId) : root ∉ t.children p := by
  intro hmem
  have := (mem_children.1 hmem).2
  rw [h.root_first.2] at this
  simp at this

theorem parent_lt (h : t.WellFormed) {p c : NodeId} (hc : c ∈ t.children p) :
    p.index < c.index := by
  have hne : c ≠ root := fun he => h.root_not_child p (he ▸ hc)
  obtain ⟨hlt, hparent⟩ := mem_children.1 hc
  obtain ⟨q, hq, hqlt⟩ := h.parent_before c hne hlt
  rw [hparent] at hq
  exact Option.some.inj hq ▸ hqlt

/-- What holds of the root and goes from a command to its children holds of every node. -/
theorem induction (h : t.WellFormed) {motive : NodeId → Prop} (hroot : motive root)
    (hchild : ∀ p c, p.index < t.size → motive p → c ∈ t.children p → motive c)
    {id : NodeId} (hid : id.index < t.size) : motive id := by
  obtain ⟨i⟩ := id
  induction i using Nat.strongRecOn with
  | ind i ih =>
    by_cases hz : (⟨i⟩ : NodeId) = root
    · exact hz ▸ hroot
    · obtain ⟨p, hparent, hlt⟩ := h.parent_before ⟨i⟩ hz hid
      have hp : p.index < t.size := Nat.lt_trans hlt hid
      exact hchild p ⟨i⟩ hp (ih p.index hlt hp) (mem_children.2 ⟨hid, hparent⟩)

/-! ## Look-ups -/

theorem isName_of_mem (h : t.WellFormed) {p c : NodeId} (hc : c ∈ t.children p) {s : String}
    (hs : s ∈ (t.node c).label.spellings) : isName s = true :=
  (h.siblings p).names s
    (Label.mem_allSpellings.2 ⟨_, List.mem_map.2 ⟨c, hc, rfl⟩, hs⟩)

theorem isName_name (h : t.WellFormed) {p c : NodeId} (hc : c ∈ t.children p) :
    isName (t.name c) = true :=
  h.isName_of_mem hc (by simp [name, Label.spellings])

/-- A look-up finds the child that goes by the spelling. -/
theorem findChild_eq_some_iff (h : t.WellFormed) {p c : NodeId} {token : String} :
    t.findChild p token = some c ↔
      c ∈ t.children p ∧ token ∈ (t.node c).label.spellings := by
  have hnd := (h.siblings p).distinct
  rw [Label.allSpellings, labelsBelow, List.flatMap_map] at hnd
  exact Label.find?_isSpelled (fun c => (t.node c).label) hnd

theorem findChild_name (h : t.WellFormed) {p c : NodeId} (hc : c ∈ t.children p) :
    t.findChild p (t.name c) = some c :=
  h.findChild_eq_some_iff.2 ⟨hc, by simp [name, Label.spellings]⟩

end WellFormed

theorem findFrom_append (id : NodeId) (front back : List String) :
    t.findFrom id (front ++ back) = (t.findFrom id front).bind (t.findFrom · back) := by
  induction front generalizing id with
  | nil => rfl
  | cons token rest ih =>
    simp only [List.cons_append, findFrom]
    cases t.findChild id token with
    | none => rfl
    | some c => exact ih c

/-! ## Paths -/

namespace WellFormed

theorem pathNames_root (h : t.WellFormed) : t.pathNames root = [] := by
  have hroot : (t.node ⟨0⟩).parent = none := h.root_first.2
  rw [pathNames, root, namesTo, hroot]

theorem pathNames_child (h : t.WellFormed) {p c : NodeId} (hc : c ∈ t.children p) :
    t.pathNames c = t.pathNames p ++ [t.name c] := by
  obtain ⟨-, hparent⟩ := mem_children.1 hc
  have hparent : (t.node ⟨c.index⟩).parent = some p := hparent
  rw [pathNames, namesTo, hparent]
  simp only [dif_pos (h.parent_lt hc)]
  rfl

/-- The names on the way to a node lead to it. -/
theorem findFrom_pathNames (h : t.WellFormed) {id : NodeId} (hid : id.index < t.size) :
    t.findFrom root (t.pathNames id) = some id := by
  refine h.induction (motive := fun id => t.findFrom root (t.pathNames id) = some id) ?_ ?_ hid
  · rw [h.pathNames_root]
    rfl
  · intro p c _ ih hc
    rw [h.pathNames_child hc, findFrom_append, ih]
    simp [findFrom, h.findChild_name hc]

theorem isName_pathNames (h : t.WellFormed) {id : NodeId} (hid : id.index < t.size) :
    ∀ s ∈ t.pathNames id, isName s = true := by
  refine h.induction (motive := fun id => ∀ s ∈ t.pathNames id, isName s = true) ?_ ?_ hid
  · simp [h.pathNames_root]
  · intro p c _ ih hc s hs
    rw [h.pathNames_child hc] at hs
    rcases List.mem_append.1 hs with hs | hs
    · exact ih s hs
    · obtain rfl := List.mem_singleton.1 hs
      exact h.isName_name hc

theorem isName_pathNames_append (h : t.WellFormed) {id : NodeId} (hid : id.index < t.size)
    {a : String} (ha : isName a = true) : ∀ s ∈ t.pathNames id ++ [a], isName s = true := by
  intro s hs
  rcases List.mem_append.1 hs with hs | hs
  · exact h.isName_pathNames hid s hs
  · exact List.mem_singleton.1 hs ▸ ha

/-- The dotted path of a node leads to it. -/
theorem findPath_displayPath (h : t.WellFormed) {id : NodeId} (hid : id.index < t.size) :
    t.findPath (t.displayPath id) = some id := by
  have hnames := h.isName_pathNames hid
  have hsegments : (Text.splitAt '.' (t.displayPath id)).filter (fun s => !s.isEmpty) =
      t.pathNames id := by
    by_cases hnil : t.pathNames id = []
    · -- the path of the root is the empty text, which still has one empty segment
      rw [displayPath, hnil]
      decide
    · rw [displayPath, splitAt_join_names hnil hnames]
      apply List.filter_eq_self.2
      intro s hs
      simpa using ne_empty_of_isName (hnames s hs)
  rw [findPath, hsegments, h.findFrom_pathNames hid]

theorem displayPath_injective (h : t.WellFormed) {a b : NodeId} (ha : a.index < t.size)
    (hb : b.index < t.size) (hab : t.displayPath a = t.displayPath b) : a = b := by
  have hfind := h.findPath_displayPath ha
  rw [hab, h.findPath_displayPath hb] at hfind
  exact (Option.some.inj hfind).symm

end WellFormed

end CommandTree

end FlowScript
