import FlowScript.Proofs.Command.Growth
import FlowScript.Proofs.Script.Flows

/-!
# What later registrations leave as it is

Commands may be registered at any time, also between reading a script and running it. `Appends` says
that a tree comes from another by calls that only touch executables which were attached on the way.
Then everything that was registered before `Stands`: ids, labels, paths, look-ups and executables.
An invocation that was read before therefore still `Names` its commands (`Reads.names_of_appends`).
-/

namespace FlowScript

variable {α : Type} {t t' t'' : CommandTree α}

/-- The command whose executable a call is meant to change. -/
def Registration.changed? : Registration α → Option NodeId
  | addSub .. => none
  | attach .. => none
  | declare id .. => some id
  | setQuiet id => some id

namespace CommandTree

/-- Calls, refused or not, lead from one tree to another, and the only executables they are meant to
change are those that the first tree did not have. -/
inductive Appends (t : CommandTree α) : CommandTree α → Prop
  | refl : Appends t t
  | call {u : CommandTree α} {r : Registration α} (h : Appends t u) (ha : r.Addresses u)
      (hnew : ∀ id, r.changed? = some id → t.executable? id = none) : Appends t (r.perform u).2

/-- What a tree holds is in another exactly as it was. -/
structure Stands (t t' : CommandTree α) : Prop where
  valid : ∀ id : NodeId, id.index < t.size → id.index < t'.size
  name : ∀ id : NodeId, id.index < t.size → t'.name id = t.name id
  abbrs : ∀ id : NodeId, id.index < t.size → (t'.node id).label.abbrs = (t.node id).label.abbrs
  parent : ∀ id : NodeId, id.index < t.size → (t'.node id).parent = (t.node id).parent
  displayPath : ∀ id : NodeId, id.index < t.size → t'.displayPath id = t.displayPath id
  /-- New children come after the others. -/
  children : ∀ id, ∃ more, t'.children id = t.children id ++ more
  findChild : ∀ id token c, t.findChild id token = some c → t'.findChild id token = some c
  findPath : ∀ path c, t.findPath path = some c → t'.findPath path = some c
  executable : ∀ id x, t.executable? id = some x → t'.executable? id = some x

/-! ## Calls -/

/-- A call changes no executable but the one it is meant to change. -/
theorem Effect.executable {r : Registration α} {result : Except RegistrationError Unit}
    (he : Effect t r result t') {id : NodeId} {x : Executable α} (hid : r.changed? ≠ some id)
    (hx : t.executable? id = some x) : t'.executable? id = some x := by
  cases he with
  | refused => exact hx
  | added =>
    rw [executable?, node_push, if_neg (Nat.ne_of_lt (lt_size_of_executable? hx))]
    exact hx
  | attached hlt hnone =>
    rw [executable?_setExecutable t _ _ id hlt, if_neg, hx]
    rintro rfl
    simp [hnone] at hx
  | declared hy | quieted hy =>
    rw [executable?_setExecutable t _ _ id (lt_size_of_executable? hy), if_neg, hx]
    rintro rfl
    exact hid rfl

namespace Appends

theorem grows (h : t.Appends t') : t.Grows t' := by
  induction h with
  | refl => exact .refl
  | call _ ha _ ih => exact .tail ih ⟨_, ha, rfl⟩

theorem keeps (h : t.Appends t') : t.Keeps t' := h.grows.keeps

theorem reachable (ht : t.Reachable) (h : t.Appends t') : t'.Reachable := h.grows.reachable ht

/-- An executable that was attached is never replaced. -/
theorem executable (h : t.Appends t') {id : NodeId} {x : Executable α}
    (hx : t.executable? id = some x) : t'.executable? id = some x := by
  induction h with
  | refl => exact hx
  | call _ ha hnew ih =>
    refine (Registration.perform_effect ha rfl).executable (fun hid => ?_) ih
    simp [hnew id hid] at hx

theorem trans (h : t.Appends t') (h' : t'.Appends t'') : t.Appends t'' := by
  induction h' with
  | refl => exact h
  | call _ ha hnew ih =>
    refine .call ih ha fun id hid => ?_
    cases hx : t.executable? id with
    | none => rfl
    | some x =>
      have hnone := hnew id hid
      simp [h.executable hx] at hnone

theorem stands (h : t.Appends t') : t.Stands t' where
  valid _ hid := Nat.lt_of_lt_of_le hid h.keeps.size
  name _ hid := h.keeps.name hid
  abbrs id hid := by rw [h.keeps.label id hid]
  parent := h.keeps.parent
  displayPath _ hid := h.keeps.displayPath hid
  children := h.keeps.children
  findChild _ _ _ hc := h.keeps.findChild hc
  findPath _ _ hc := h.keeps.findPath hc
  executable _ _ hx := h.executable hx

end Appends

/-! ## Invocations -/

/-- The commands of an invocation are those that stand at its nodes: each has the name that the
invocation has for it and is a child of the one before, and the path is that of the last. -/
structure Names (t : CommandTree α) (i : Invocation) : Prop where
  valid : ∀ n ∈ i.commands, n.node.index < t.size
  name : ∀ n ∈ i.commands, t.name n.node = n.name
  chain : List.IsChain (fun a b => b ∈ t.children a) (root :: i.commands.map (·.node))
  displayPath : i.displayPath = t.displayPath i.target

theorem Leads.name {items : List PathItem} {id : NodeId} (h : t.Leads items id) {n : Match}
    (hn : n ∈ items.filterMap PathItem.command?) :
    n.node.index < t.size ∧ t.name n.node = n.name := by
  induction h with
  | start => simp at hn
  | take _ hmore ih =>
    rw [List.filterMap_append, List.mem_append] at hn
    rcases hn with hn | hn
    · exact ih hn
    · cases hmore with
      | command hc =>
        simp only [List.filterMap_cons, List.filterMap_nil, PathItem.command?_command,
          List.mem_singleton] at hn
        subst hn
        exact ⟨(mem_children.1 (mem_of_findChild hc)).1, rfl⟩
      | _ => simp [List.filterMap_cons] at hn

/-- An invocation names the commands of the tree that it was read for. -/
theorem Reads.names (hwf : t.WellFormed) {i : Invocation} (h : t.Reads i) : t.Names i := by
  obtain ⟨items, id, hleads, hcommands⟩ := h.commands
  rw [Invocation.commands_ofItems] at hcommands
  obtain ⟨hchain, hlast⟩ := hleads.isChain
  rw [hcommands] at hchain hlast
  refine ⟨fun n hn => (hleads.name (hcommands ▸ hn)).1,
    fun n hn => (hleads.name (hcommands ▸ hn)).2, hchain, ?_⟩
  rw [Invocation.displayPath, Invocation.path, ← hcommands, hleads.names hwf,
    Invocation.target_eq, hlast, CommandTree.displayPath]

/-- It still does after later registrations. -/
theorem Names.of_stands (hroot : root.index < t.size) {i : Invocation} (h : t.Names i)
    (hs : t.Stands t') : t'.Names i where
  valid n hn := hs.valid _ (h.valid n hn)
  name n hn := (hs.name _ (h.valid n hn)).trans (h.name n hn)
  chain := by
    refine h.chain.imp fun a b hb => ?_
    obtain ⟨more, hmore⟩ := hs.children a
    rw [hmore]
    exact List.mem_append_left more hb
  displayPath := by
    rw [h.displayPath, hs.displayPath]
    cases hleaf : i.leaf? with
    | none => simpa [Invocation.target, hleaf] using hroot
    | some n =>
      simpa [Invocation.target, hleaf] using h.valid n (List.mem_of_getLast? hleaf)

end CommandTree

end FlowScript
