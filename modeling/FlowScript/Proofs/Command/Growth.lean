import FlowScript.Proofs.Command.Registration
import Mathlib.Logic.Relation

/-!
# Trees that grow

Calls add to a tree and take nothing away. `Keeps` says what stays: a node keeps its label and its
parent, so its path too (`Keeps.displayPath`), and an executable keeps its kind, though parameters
may be declared later. Every call keeps the tree in this sense (`Keeps.of_effect`), hence any number
of them do (`Grows.keeps`).
-/

namespace FlowScript.CommandTree

variable {α : Type} {t t' t'' : CommandTree α}

/-- What one tree holds is in another as it was. -/
structure Keeps (t t' : CommandTree α) : Prop where
  size : t.size ≤ t'.size
  label : ∀ id, id.index < t.size → (t'.node id).label = (t.node id).label
  parent : ∀ id, id.index < t.size → (t'.node id).parent = (t.node id).parent
  kind : ∀ id x, t.executable? id = some x → ∃ x', t'.executable? id = some x' ∧ x'.kind = x.kind

/-- Calls, refused or not, lead from one tree to another. -/
def Grows : CommandTree α → CommandTree α → Prop :=
  Relation.ReflTransGen fun t t' => ∃ r : Registration α, r.Addresses t ∧ t' = (r.perform t).2

namespace Keeps

theorem refl (t : CommandTree α) : t.Keeps t where
  size := Nat.le_refl _
  label _ _ := rfl
  parent _ _ := rfl
  kind _ x hx := ⟨x, hx, rfl⟩

theorem trans (h : t.Keeps t') (h' : t'.Keeps t'') : t.Keeps t'' where
  size := Nat.le_trans h.size h'.size
  label id hid := (h'.label id (Nat.lt_of_lt_of_le hid h.size)).trans (h.label id hid)
  parent id hid := (h'.parent id (Nat.lt_of_lt_of_le hid h.size)).trans (h.parent id hid)
  kind id x hx := by
    obtain ⟨x', hx', hkind⟩ := h.kind id x hx
    obtain ⟨x'', hx'', hkind'⟩ := h'.kind id x' hx'
    exact ⟨x'', hx'', hkind'.trans hkind⟩

theorem push (t : CommandTree α) (n : Node α) : t.Keeps ⟨t.nodes ++ [n]⟩ where
  size := by simp [CommandTree.size]
  label id hid := by rw [node_push, if_neg (Nat.ne_of_lt hid)]
  parent id hid := by rw [node_push, if_neg (Nat.ne_of_lt hid)]
  kind id x hx := by
    refine ⟨x, ?_, rfl⟩
    rw [executable?, node_push, if_neg (Nat.ne_of_lt (lt_size_of_executable? hx))]
    exact hx

/-- An executable may be put in the place of one of its kind. -/
theorem setExecutable {id : NodeId} {x : Executable α} (hid : id.index < t.size)
    (hkind : ∀ y, t.executable? id = some y → x.kind = y.kind) :
    t.Keeps (t.setExecutable id x) where
  size := by simp
  label _ _ := by simp
  parent _ _ := by simp
  kind c y hy := by
    rw [executable?_setExecutable t id x c hid]
    by_cases hc : c = id
    · exact ⟨x, if_pos hc, hkind y (hc ▸ hy)⟩
    · exact ⟨y, by rw [if_neg hc, hy], rfl⟩

/-- No call takes anything away. -/
theorem of_effect {r : Registration α} {result : Except RegistrationError Unit}
    (he : Effect t r result t') : t.Keeps t' := by
  cases he with
  | refused => exact refl t
  | added => exact push t _
  | attached hid hnone => exact setExecutable hid (by simp [hnone])
  | declared hx => exact setExecutable (lt_size_of_executable? hx) (by simp [hx])
  | quieted hx => exact setExecutable (lt_size_of_executable? hx) (by simp [hx])

/-! ## Paths -/

theorem name (h : t.Keeps t') {id : NodeId} (hid : id.index < t.size) : t'.name id = t.name id := by
  rw [CommandTree.name, h.label id hid, CommandTree.name]

theorem namesTo (h : t.Keeps t') {i : Nat} (hi : i < t.size) :
    t'.namesTo i = t.namesTo i := by
  induction i using Nat.strongRecOn with
  | ind i ih =>
    rw [CommandTree.namesTo, CommandTree.namesTo, h.parent ⟨i⟩ hi]
    cases hparent : (t.node ⟨i⟩).parent with
    | none => rfl
    | some p =>
      by_cases hlt : p.index < i
      · simp only [dif_pos hlt, h.name hi, ih p.index hlt (Nat.lt_trans hlt hi)]
      · simp only [dif_neg hlt, h.name hi]

/-- A command keeps its path. -/
theorem displayPath (h : t.Keeps t') {id : NodeId} (hid : id.index < t.size) :
    t'.displayPath id = t.displayPath id := by
  rw [CommandTree.displayPath, pathNames, h.namesTo hid, CommandTree.displayPath, pathNames]

/-! ## Look-ups -/

/-- New children come after those that were there. -/
theorem children (h : t.Keeps t') (p : NodeId) :
    ∃ more, t'.children p = t.children p ++ more := by
  obtain ⟨n, hn⟩ := Nat.exists_eq_add_of_le h.size
  have hids : t'.ids = t.ids ++ (List.range n).map fun i => ⟨t.size + i⟩ := by
    simp [CommandTree.ids, hn, List.range_add, Function.comp_def]
  have hold : t.ids.filter (fun c => (t'.node c).parent = some p) = t.children p := by
    apply List.filter_congr
    intro c hc
    rw [h.parent c (mem_ids.1 hc)]
  exact ⟨_, by rw [CommandTree.children, hids, List.filter_append, hold]⟩

/-- A spelling that stands for a child still does. -/
theorem findChild (h : t.Keeps t') {p c : NodeId} {token : String}
    (hc : t.findChild p token = some c) : t'.findChild p token = some c := by
  obtain ⟨more, hmore⟩ := h.children p
  have hlabel : (t.children p).find? (fun c => (t'.node c).label.isSpelled token) = some c := by
    rw [← hc, CommandTree.findChild, ← List.head?_filter, ← List.head?_filter]
    congr 1
    apply List.filter_congr
    intro c hc
    rw [h.label c (mem_children.1 hc).1]
  rw [CommandTree.findChild, hmore, List.find?_append, hlabel, Option.some_or]

theorem findFrom (h : t.Keeps t') {id c : NodeId} {tokens : List String}
    (hc : t.findFrom id tokens = some c) : t'.findFrom id tokens = some c := by
  induction tokens generalizing id with
  | nil => exact hc
  | cons token rest ih =>
    rw [CommandTree.findFrom] at hc ⊢
    cases hchild : t.findChild id token with
    | none => simp [hchild] at hc
    | some child =>
      rw [hchild] at hc
      rw [h.findChild hchild]
      exact ih hc

/-- A path that leads to a command still does. -/
theorem findPath (h : t.Keeps t') {path : String} {c : NodeId}
    (hc : t.findPath path = some c) : t'.findPath path = some c :=
  h.findFrom hc

end Keeps

namespace Grows

theorem keeps (h : t.Grows t') : t.Keeps t' := by
  induction h with
  | refl => exact .refl t
  | tail _ hcall ih =>
    obtain ⟨r, ha, rfl⟩ := hcall
    exact ih.trans (.of_effect (Registration.perform_effect ha rfl))

theorem reachable (ht : t.Reachable) (h : t.Grows t') : t'.Reachable := by
  induction h with
  | refl => exact ht
  | tail _ hcall ih =>
    obtain ⟨r, ha, rfl⟩ := hcall
    obtain ⟨log, hlog⟩ := ih
    exact ⟨_, hlog.call ha rfl⟩

end Grows

end FlowScript.CommandTree
