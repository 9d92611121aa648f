import FlowScript.Command.Render
import FlowScript.Proofs.Command.Registration

/-!
# What the drawing of a tree shows

The drawing is made on the way down, with the lines of all open branches carried along. What comes
out can be said of each node alone, looking up from it: its entry has a group of lines for each of
its ancestors, which depends on whether that one has a later sibling (`drawnEntry`). The drawing is
these entries in depth-first order (`Traverses`), and every command occurs in it once
(`Reachable.drawn`). That the way down ends, and comes to every node, follows from parents being
registered before their children.
-/

namespace FlowScript.CommandTree

variable {α : Type} {t : CommandTree α}

/-! ## Nodes from above and from below -/

/-- Lists the nodes of some subtrees in depth-first order: the first node, all that is below it, and
then the other subtrees. -/
inductive Traverses (t : CommandTree α) : List NodeId → List NodeId → Prop
  | nil : Traverses t [] []
  | cons {c : NodeId} {rest below others : List NodeId} (hbelow : Traverses t (t.children c) below)
      (hrest : Traverses t rest others) : Traverses t (c :: rest) (c :: below ++ others)

/-- The nodes from below the root down to the node at a position. -/
def lineageTo (t : CommandTree α) (i : Nat) : List NodeId :=
  match (t.node ⟨i⟩).parent with
  | none => []
  | some p => if _h : p.index < i then t.lineageTo p.index ++ [⟨i⟩] else [⟨i⟩]
termination_by i

/-- The nodes from below the root down to a node, which is the last. -/
def lineage (t : CommandTree α) (id : NodeId) : List NodeId :=
  t.lineageTo id.index

/-- Whether a node that was registered later has the same parent. -/
def hasLater (t : CommandTree α) (id : NodeId) : Bool :=
  t.ids.any fun c => (t.node c).parent = (t.node id).parent && decide (id.index < c.index)

/-- What the drawing shows of a node: a group of lines for each ancestor below the root, its own
branch, and its description. -/
def drawnEntry (t : CommandTree α) (id : NodeId) : String :=
  String.join ((t.lineage id).dropLast.map fun a => if t.hasLater a then "│  " else "   ") ++
    (if t.hasLater id then "├─" else "└─") ++ (t.node id).describe ++ "\n"

namespace WellFormed

theorem lineage_root (h : t.WellFormed) : t.lineage root = [] := by
  have hroot : (t.node ⟨0⟩).parent = none := h.root_first.2
  rw [lineage, root, lineageTo, hroot]

theorem lineage_child (h : t.WellFormed) {p c : NodeId} (hc : c ∈ t.children p) :
    t.lineage c = t.lineage p ++ [c] := by
  obtain ⟨-, hparent⟩ := mem_children.1 hc
  have hparent : (t.node ⟨c.index⟩).parent = some p := hparent
  rw [lineage, lineageTo, hparent]
  simp only [dif_pos (h.parent_lt hc)]
  rfl

end WellFormed

/-! ## Later siblings -/

theorem children_ascending (p : NodeId) :
    (t.children p).Pairwise fun a b => a.index < b.index := by
  refine List.Pairwise.sublist List.filter_sublist ?_
  exact List.pairwise_map.2 List.pairwise_lt_range

theorem hasLater_of_mem {p c : NodeId} (hc : c ∈ t.children p) :
    t.hasLater c = (t.children p).any fun d => decide (c.index < d.index) := by
  have hparent := (mem_children.1 hc).2
  simp only [hasLater, children, List.any_filter, hparent]

/-- In ascending order an element is followed by another one exactly if there is a greater one. -/
theorem markLater_eq_map {l : List NodeId} (h : l.Pairwise fun a b => a.index < b.index) :
    markLater l = l.map fun c => (c, l.any fun d => decide (c.index < d.index)) := by
  induction l with
  | nil => rfl
  | cons b rest ih =>
    obtain ⟨hb, hrest⟩ := List.pairwise_cons.1 h
    rw [markLater, ih hrest, List.map_cons]
    congr 1
    · cases rest with
      | nil => simp
      | cons c rest => simp [hb c List.mem_cons_self]
    · apply List.map_congr_left
      intro c hc
      have hlt := hb c hc
      simp only [List.any_cons, Prod.mk.injEq, true_and]
      rw [decide_eq_false (by omega), Bool.false_or]

theorem markLater_children (p : NodeId) :
    markLater (t.children p) = (t.children p).map fun c => (c, t.hasLater c) := by
  rw [markLater_eq_map (children_ascending p)]
  apply List.map_congr_left
  intro c hc
  rw [hasLater_of_mem hc]

/-- The children of a node and what is below them, each with the marks of its ancestors. -/
theorem branchesBelow_succ (depth : Nat) (id : NodeId) (above : List Bool) :
    t.branchesBelow (depth + 1) id above = (t.children id).flatMap fun c =>
      ⟨above ++ [t.hasLater c], c⟩ :: t.branchesBelow depth c (above ++ [t.hasLater c]) := by
  rw [branchesBelow, markLater_children, List.flatMap_map]

/-! ## Lines -/

theorem lines_append (front : List Bool) (later : Bool) :
    Branch.lines (front ++ [later]) =
      String.join (front.map fun b => if b then "│  " else "   ") ++
        (if later then "├─" else "└─") := by
  induction front with
  | nil => simp [Branch.lines]
  | cons b rest ih =>
    have hcons : Branch.lines ((b :: rest) ++ [later]) =
        (if b then "│  " else "   ") ++ Branch.lines (rest ++ [later]) := by
      cases rest <;> rfl
    rw [hcons, ih, List.map_cons, String.join_cons, String.append_assoc]

/-- A branch whose marks are those of the node and its ancestors is drawn as the node's entry. -/
theorem renderBranch_eq_drawnEntry (h : t.WellFormed) {p c : NodeId} (hc : c ∈ t.children p) :
    t.renderBranch ⟨(t.lineage c).map t.hasLater, c⟩ = t.drawnEntry c := by
  rw [renderBranch, drawnEntry, h.lineage_child hc, List.map_append, List.dropLast_concat]
  simp only [List.map_cons, List.map_nil, lines_append, List.map_map, Function.comp_def]

/-! ## The way down -/

namespace WellFormed

/-- Every branch below a node has the marks of its own node and the ancestors of that. -/
theorem renderBranch_of_mem (h : t.WellFormed) {depth : Nat} {id : NodeId} {b : Branch}
    (hb : b ∈ t.branchesBelow depth id ((t.lineage id).map t.hasLater)) :
    t.renderBranch b = t.drawnEntry b.id := by
  induction depth generalizing id with
  | zero => simp [branchesBelow] at hb
  | succ depth ih =>
    rw [branchesBelow_succ] at hb
    obtain ⟨c, hc, hb⟩ := List.mem_flatMap.1 hb
    have hmarks : (t.lineage id).map t.hasLater ++ [t.hasLater c] =
        (t.lineage c).map t.hasLater := by
      rw [h.lineage_child hc, List.map_append]
      rfl
    rw [hmarks] at hb
    rcases List.mem_cons.1 hb with rfl | hb
    · exact renderBranch_eq_drawnEntry h hc
    · exact ih hb

/-- As children come after their parents, the limit on the way down is not reached. -/
theorem traverses_branchesBelow (h : t.WellFormed) {depth : Nat} {id : NodeId}
    (hdepth : t.size ≤ depth + id.index) (above : List Bool) :
    t.Traverses (t.children id) ((t.branchesBelow depth id above).map (·.id)) := by
  induction depth generalizing id above with
  | zero =>
    have hnone : t.children id = [] := by
      apply List.eq_nil_iff_forall_not_mem.2
      intro c hc
      have hlt := (mem_children.1 hc).1
      have hparent := h.parent_lt hc
      omega
    rw [hnone]
    exact .nil
  | succ depth ih =>
    rw [branchesBelow_succ]
    have hchildren (l : List NodeId) (hl : ∀ c ∈ l, c ∈ t.children id) :
        t.Traverses l ((l.flatMap fun c => ⟨above ++ [t.hasLater c], c⟩ ::
          t.branchesBelow depth c (above ++ [t.hasLater c])).map (·.id)) := by
      induction l with
      | nil => exact .nil
      | cons c rest ihl =>
        obtain ⟨hc, hrest⟩ := List.forall_mem_cons.1 hl
        have hlt := h.parent_lt hc
        rw [List.flatMap_cons, List.map_append]
        exact .cons (ih (by omega) _) (ihl hrest)
    exact hchildren _ fun c hc => hc

end WellFormed

/-! ## Every node once -/

namespace Traverses

variable {l order : List NodeId}

theorem subset (h : t.Traverses l order) {c : NodeId} (hc : c ∈ l) : c ∈ order := by
  induction h with
  | nil => exact hc
  | cons _ _ _ ih =>
    rcases List.mem_cons.1 hc with rfl | hc
    · simp
    · exact List.mem_append_right _ (ih hc)

/-- With a node its children are listed. -/
theorem children (h : t.Traverses l order) {p c : NodeId} (hp : p ∈ order)
    (hc : c ∈ t.children p) : c ∈ order := by
  induction h with
  | nil => simp at hp
  | cons hbelow _ ihbelow ihrest =>
    rw [List.cons_append] at hp ⊢
    rcases List.mem_cons.1 hp with rfl | hp
    · exact List.mem_cons_of_mem _ (List.mem_append_left _ (hbelow.subset hc))
    · rcases List.mem_append.1 hp with hp | hp
      · exact List.mem_cons_of_mem _ (List.mem_append_left _ (ihbelow hp))
      · exact List.mem_cons_of_mem _ (List.mem_append_right _ (ihrest hp))

/-- All that is listed of the subtrees at children of a node goes back to one of these children. -/
theorem lineage_of_mem (hwf : t.WellFormed) (h : t.Traverses l order) {p : NodeId}
    (hl : ∀ c ∈ l, c ∈ t.children p) {id : NodeId} (hid : id ∈ order) :
    id.index < t.size ∧ ∃ c ∈ l, t.lineage p ++ [c] <+: t.lineage id := by
  induction h generalizing p with
  | nil => simp at hid
  | @cons c rest below others _ _ ihbelow ihrest =>
    obtain ⟨hc, hrest⟩ := List.forall_mem_cons.1 hl
    rw [List.cons_append] at hid
    rcases List.mem_cons.1 hid with rfl | hid
    · exact ⟨(mem_children.1 hc).1, id, List.mem_cons_self, hwf.lineage_child hc ▸ List.prefix_rfl⟩
    · rcases List.mem_append.1 hid with hid | hid
      · obtain ⟨hlt, d, -, hd⟩ := ihbelow (fun d hd => hd) hid
        refine ⟨hlt, c, List.mem_cons_self, ?_⟩
        rw [← hwf.lineage_child hc]
        exact (List.prefix_append _ _).trans hd
      · obtain ⟨hlt, d, hd, hlineage⟩ := ihrest hrest hid
        exact ⟨hlt, d, List.mem_cons_of_mem _ hd, hlineage⟩

theorem nodup (hwf : t.WellFormed) (h : t.Traverses l order) {p : NodeId}
    (hl : ∀ c ∈ l, c ∈ t.children p) (hnd : l.Nodup) : order.Nodup := by
  induction h generalizing p with
  | nil => exact .nil
  | @cons c rest below others hbelow hrest ihbelow ihrest =>
    obtain ⟨hc, hlrest⟩ := List.forall_mem_cons.1 hl
    obtain ⟨hnotin, hndrest⟩ := List.nodup_cons.1 hnd
    have hothers {id : NodeId} (hid : id ∈ others) : ¬ t.lineage p ++ [c] <+: t.lineage id := by
      intro hcid
      obtain ⟨-, d, hd, hdid⟩ := hrest.lineage_of_mem hwf hlrest hid
      have heq : t.lineage p ++ [c] = t.lineage p ++ [d] :=
        List.IsPrefix.eq_of_length (List.prefix_of_prefix_length_le hcid hdid (by simp)) (by simp)
      obtain rfl : c = d := by simpa using heq
      exact hnotin hd
    have hwithin {id : NodeId} (hid : id ∈ below) :
        ∃ d, t.lineage p ++ [c] ++ [d] <+: t.lineage id := by
      obtain ⟨-, d, -, hd⟩ := hbelow.lineage_of_mem hwf (fun d hd => hd) hid
      exact ⟨d, by rwa [hwf.lineage_child hc] at hd⟩
    rw [List.cons_append, List.nodup_cons, List.mem_append, List.nodup_append]
    refine ⟨?_, ihbelow (fun d hd => hd) (nodup_children c), ihrest hlrest hndrest, ?_⟩
    · rintro (hid | hid)
      · obtain ⟨d, hd⟩ := hwithin hid
        have hlength := hd.length_le
        simp [hwf.lineage_child hc] at hlength
      · exact hothers hid (hwf.lineage_child hc ▸ List.prefix_rfl)
    · rintro id hid _ hid' rfl
      obtain ⟨d, hd⟩ := hwithin hid
      exact hothers hid' ((List.prefix_append _ _).trans hd)

end Traverses

theorem WellFormed.mem_order_iff (h : t.WellFormed) {order : List NodeId}
    (horder : t.Traverses (t.children root) order) {id : NodeId} :
    id ∈ order ↔ id ≠ root ∧ id.index < t.size := by
  constructor
  · intro hid
    obtain ⟨hlt, c, -, hc⟩ := horder.lineage_of_mem h (fun c hc => hc) hid
    refine ⟨?_, hlt⟩
    rintro rfl
    simp [h.lineage_root] at hc
  · rintro ⟨hne, hlt⟩
    have hlisted : id = root ∨ id ∈ order := by
      refine h.induction (motive := fun id => id = root ∨ id ∈ order) (.inl rfl) ?_ hlt
      intro p c _ hp hc
      rcases hp with rfl | hp
      · exact .inr (horder.subset hc)
      · exact .inr (horder.children hp hc)
    exact hlisted.resolve_left hne

/-! ## The drawing -/

/-- The nodes below the root in the order in which the drawing shows them. -/
def drawnOrder (t : CommandTree α) : List NodeId :=
  t.branches.map (·.id)

/-- What the drawing of a tree is, if it shows nodes in some order. -/
structure Drawn (t : CommandTree α) (order : List NodeId) : Prop where
  /-- The order is depth-first, siblings in the order they were registered. -/
  preorder : t.Traverses (t.children root) order
  ascending : ∀ id, (t.children id).Pairwise fun a b => a.index < b.index
  /-- Every node but the root comes once. -/
  nodup : order.Nodup
  mem_iff : ∀ id, id ∈ order ↔ id ≠ root ∧ id.index < t.size
  length : order.length = t.size - 1
  /-- The entries say of each node where it hangs, and are all that is drawn. -/
  text : t.render = String.join (order.map t.drawnEntry)

theorem length_of_mem_iff (hroot : root.index < t.size) {order : List NodeId} (hnd : order.Nodup)
    (hmem : ∀ id, id ∈ order ↔ id ≠ root ∧ id.index < t.size) : order.length = t.size - 1 := by
  have hperm : order.Perm (t.ids.erase root) := by
    refine (List.perm_ext_iff_of_nodup hnd (nodup_ids.erase root)).2 fun id => ?_
    rw [hmem, nodup_ids.mem_erase_iff, mem_ids]
  rw [hperm.length_eq, List.length_erase_of_mem (mem_ids.2 hroot)]
  simp [ids]

/-- The drawing shows every command once and in its place. -/
theorem Reachable.drawn (h : t.Reachable) : t.Drawn t.drawnOrder := by
  have hwf := h.wellFormed
  have horder : t.Traverses (t.children root) t.drawnOrder :=
    hwf.traverses_branchesBelow (by simp [root]) []
  have hnd := horder.nodup hwf (fun c hc => hc) (nodup_children root)
  have hmem : ∀ id, id ∈ t.drawnOrder ↔ id ≠ root ∧ id.index < t.size :=
    fun id => hwf.mem_order_iff horder
  refine ⟨horder, children_ascending, hnd, hmem, length_of_mem_iff hwf.root_lt hnd hmem, ?_⟩
  rw [render, drawnOrder, List.map_map]
  congr 1
  apply List.map_congr_left
  intro b hb
  have hbelow : b ∈ t.branchesBelow t.size root ((t.lineage root).map t.hasLater) := by
    rw [hwf.lineage_root]
    exact hb
  exact hwf.renderBranch_of_mem hbelow

/-- Calls that come back to a command after its sibling was registered. -/
def interleavedCalls : List (Registration Unit) :=
  [.addSub root "env" ["e"], .addSub root "sleep" [], .attach ⟨2⟩ "" (.power ()),
   .declare ⟨2⟩ "secs" "1" ["s"], .addSub ⟨1⟩ "ls" ["list", "l"],
   .attach ⟨3⟩ "list env" (.normal ()), .addSub ⟨3⟩ "all" [], .addSub ⟨1⟩ "save" []]

/-- The tree that the calls lead to. -/
def interleavedTree : CommandTree Unit :=
  (Registration.performAll interleavedCalls .empty).2

/-- The command that was registered second is drawn last. -/
theorem drawn_interleaved :
    interleavedTree.drawnOrder = [⟨1⟩, ⟨3⟩, ⟨4⟩, ⟨5⟩, ⟨2⟩] ∧
    interleavedTree.Drawn interleavedTree.drawnOrder ∧
    interleavedTree.render =
      "├─env [e]\n│  ├─ls [list|l] - list env\n│  │  └─all\n│  └─save\n└─sleep (power) (secs=1)\n" :=
  ⟨by decide +kernel, Reachable.drawn ⟨_, BuiltBy.start.performAll interleavedCalls⟩,
    by decide +kernel⟩

end FlowScript.CommandTree
