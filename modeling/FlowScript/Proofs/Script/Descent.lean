import FlowScript.Proofs.Command.Shape
import FlowScript.Proofs.Script.Folding
import FlowScript.Proofs.Script.Reading
import FlowScript.Script.Walk
import Mathlib.Data.List.Chain

/-!
# The items of a walk

`Takes` says what one step of a walk adds to its items and where it goes, `Leads` what a whole walk
comes to: the items lead from the root to the command at which the walk stands. Commands of such
items form a chain of children (`Leads.isChain`) and their names are the path of the last one
(`Leads.names`).
-/

namespace FlowScript

variable {α : Type} {t : CommandTree α}

namespace CommandTree

/-- The items that a step from a command may add, and the command it goes to. -/
inductive Takes (t : CommandTree α) (id : NodeId) : List PathItem → NodeId → Prop
  | nothing : Takes t id [] id
  | separator : Takes t id [.separator] id
  | env {tokens : List String} : Takes t id [.env (t.readAssignments id tokens).env] id
  | command {token : String} {c : NodeId} (h : t.findChild id token = some c) :
      Takes t id [.command ⟨t.name c, c⟩] c

/-- The items lead from the root to a command. -/
inductive Leads (t : CommandTree α) : List PathItem → NodeId → Prop
  | start : Leads t [] root
  | take {items more : List PathItem} {id id' : NodeId} (h : Leads t items id)
      (hmore : t.Takes id more id') : Leads t (items ++ more) id'

end CommandTree

/-! ## Steps -/

namespace Walk

variable {w v : Walk} {token : String} {rest : List String} {items : List PathItem}

theorem takes_of_block {env : Assignments} {id : NodeId} {queue after : List String}
    (h : Block.read t id queue = (.ok (.found env), after)) : t.Takes id [.env env] id := by
  simp only [Block.read] at h
  split at h
  · simp at h
  · simp at h
  · split at h
    · simp at h
    · split at h
      · simp only [Prod.mk.injEq, Except.ok.injEq, BlockOutcome.found.injEq] at h
        exact h.1 ▸ .env
      · simp at h

theorem takes_of_stepToken (h : w.stepToken t token rest = .next v) :
    ∃ more, v.items = w.items ++ more ∧ t.Takes w.current more v.current := by
  simp only [stepToken] at h
  split at h
  · simp only [Step.next.injEq] at h
    subst h
    by_cases hlast : w.items.getLast? = some .separator
    · exact ⟨[], by simp [hlast], .nothing⟩
    · exact ⟨[.separator], by simp [hlast], .separator⟩
  · split at h
    · split at h
      · simp only [descend] at h
        split at h
        · simp at h
        · rename_i c hc
          simp only [Step.next.injEq] at h
          subst h
          exact ⟨_, rfl, .command hc⟩
      · simp only [Step.next.injEq] at h
        subst h
        exact ⟨[], by simp, .nothing⟩
    · simp only [takeArguments] at h
      split at h <;> simp at h

/-- A step that goes on adds items that lead to where it goes. -/
theorem takes_of_next (h : w.step t = .next v) :
    ∃ more, v.items = w.items ++ more ∧ t.Takes w.current more v.current := by
  simp only [step] at h
  split at h
  · simp at h
  · split at h
    · simp at h
    · rename_i hread
      simp only [Step.next.injEq] at h
      subst h
      exact ⟨_, rfl, takes_of_block hread⟩
    · simp only [Step.next.injEq] at h
      subst h
      exact ⟨[], by simp, .nothing⟩
    · exact takes_of_stepToken h

/-- The last step of a walk stays where it is. -/
theorem takes_of_done (h : w.step t = .done items) :
    ∃ more, items = w.items ++ more ∧ t.Takes w.current more w.current := by
  simp only [step] at h
  split at h
  · simp only [Step.done.injEq] at h
    exact ⟨[], by simp [h], .nothing⟩
  · split at h
    · simp at h
    · simp at h
    · simp at h
    · simp only [stepToken] at h
      split at h
      · simp at h
      · split at h
        · split at h
          · simp only [descend] at h
            split at h <;> simp at h
          · simp at h
        · simp only [takeArguments] at h
          split at h
          · simp at h
          · simp only [Step.done.injEq] at h
            subst h
            split
            · exact ⟨[], by simp, .nothing⟩
            · exact ⟨_, rfl, .env⟩

/-! ## Runs -/

variable {index : CommandTree α}

theorem run_next (h : w.step t index = .next v) : w.run t index = v.run t index := by
  rw [run]
  split <;> simp_all

theorem run_done (h : w.step t index = .done items) : w.run t index = .ok items := by
  rw [run]
  split <;> simp_all

theorem run_failed {e : ParseError} (h : w.step t index = .failed e) :
    w.run t index = .error e := by
  rw [run]
  split <;> simp_all

/-- What a walk comes to within a number of steps. -/
def runWithin (t : CommandTree α) (n : Nat) (w : Walk) (index : CommandTree α := t) :
    Option (Except ParseError (List PathItem)) :=
  match n with
  | 0 => none
  | n + 1 =>
    match w.step t index with
    | .next v => runWithin t n v index
    | .done items => some (.ok items)
    | .failed e => some (.error e)

theorem run_of_runWithin {n : Nat} {result : Except ParseError (List PathItem)}
    (h : runWithin t n w index = some result) : w.run t index = result := by
  induction n generalizing w with
  | zero => simp [runWithin] at h
  | succ n ih =>
    rw [runWithin] at h
    split at h
    · rename_i v hv
      rw [run_next hv, ih h]
    · rename_i items hd
      rw [run_done hd, Option.some.inj h]
    · rename_i e hf
      rw [run_failed hf, Option.some.inj h]

theorem leads_of_run (hw : t.Leads w.items w.current) (h : w.run t = .ok items) :
    ∃ id, t.Leads items id := by
  induction w using run.induct t t with
  | case1 w v hv ih =>
    rw [run_next hv] at h
    obtain ⟨more, hitems, htakes⟩ := takes_of_next hv
    exact ih (hitems ▸ hw.take htakes) h
  | case2 w last hd =>
    rw [run_done hd, Except.ok.injEq] at h
    obtain ⟨more, hitems, htakes⟩ := takes_of_done hd
    exact ⟨w.current, h ▸ hitems ▸ hw.take htakes⟩
  | case3 w e hf =>
    rw [run_failed hf] at h
    simp at h

end Walk

/-! ## Where items lead -/

namespace CommandTree

/-- The last of the commands below one, or that one. -/
def lastFrom (id : NodeId) (nodes : List NodeId) : NodeId := nodes.getLast?.getD id

@[simp] theorem lastFrom_nil (id : NodeId) : lastFrom id [] = id := rfl

@[simp] theorem lastFrom_cons (id c : NodeId) (nodes : List NodeId) :
    lastFrom id (c :: nodes) = lastFrom c nodes := by
  simp [lastFrom, List.getLast?_cons]

@[simp] theorem lastFrom_append (id : NodeId) (nodes more : List NodeId) :
    lastFrom id (nodes ++ more) = lastFrom (lastFrom id nodes) more := by
  simp [lastFrom, List.getLast?_append]

end CommandTree

namespace Invocation

/-- The command that an invocation is meant to run; the root if it names none. -/
def target (i : Invocation) : NodeId :=
  (i.leaf?.map (·.node)).getD CommandTree.root

theorem target_eq (i : Invocation) :
    i.target = CommandTree.lastFrom CommandTree.root (i.commands.map (·.node)) := by
  simp [target, leaf?, CommandTree.lastFrom]

end Invocation

namespace CommandTree

/-- The items of a sequence lead somewhere. -/
theorem leads_of_readItems {tokens : List String} {items : List PathItem}
    (h : t.readItems tokens = .ok items) : ∃ id, t.Leads items id :=
  Walk.leads_of_run (w := .start tokens) .start h

/-- The text in front of the keys of a command's arguments: the names on the way to the command,
each with a dot after it. -/
def keyPrefix (t : CommandTree α) (id : NodeId) : String :=
  (t.pathNames id).foldl (fun path name => path ++ name ++ ".") ""

theorem WellFormed.keyPrefix_child (h : t.WellFormed) {p c : NodeId} (hc : c ∈ t.children p) :
    t.keyPrefix c = t.keyPrefix p ++ t.name c ++ "." := by
  rw [keyPrefix, h.pathNames_child hc, List.foldl_append, keyPrefix]
  rfl

namespace Leads

variable {items : List PathItem} {id : NodeId}

/-- The commands of the items are children of one another, from the root to where the items lead. -/
theorem isChain (h : t.Leads items id) :
    List.IsChain (fun a b => b ∈ t.children a)
        (root :: (items.filterMap PathItem.command?).map (·.node)) ∧
      lastFrom root ((items.filterMap PathItem.command?).map (·.node)) = id := by
  induction h with
  | start => exact ⟨.singleton root, rfl⟩
  | @take items more p c _ hmore ih =>
    cases hmore with
    | command hc =>
      have hmem : c ∈ t.children p := mem_of_findChild hc
      have hlast : (root :: (items.filterMap PathItem.command?).map (·.node)).getLast? =
          some p := by
        rw [List.getLast?_cons, ← ih.2, lastFrom]
      have happ : ((items ++ [PathItem.command ⟨t.name c, c⟩]).filterMap
          PathItem.command?).map (·.node) =
          (items.filterMap PathItem.command?).map (·.node) ++ [c] := by
        simp
      rw [happ]
      refine ⟨?_, by simp⟩
      rw [← List.cons_append]
      exact List.isChain_append.2 ⟨ih.1, .singleton c, by simpa [hlast] using hmem⟩
    | _ => simpa [List.filterMap_cons] using ih

theorem ne_root (hwf : t.WellFormed) (h : t.Leads items id) {m : Match}
    (hm : m ∈ items.filterMap PathItem.command?) : m.node ≠ root := by
  induction h with
  | start => simp at hm
  | @take items more p c _ hmore ih =>
    rw [List.filterMap_append, List.mem_append] at hm
    rcases hm with hm | hm
    · exact ih hm
    · cases hmore with
      | command hc =>
        simp only [List.filterMap_cons, List.filterMap_nil, PathItem.command?_command,
          List.mem_singleton] at hm
        rw [hm]
        rintro (rfl : c = root)
        exact hwf.root_not_child p (mem_of_findChild hc)
      | _ => simp [List.filterMap_cons] at hm

/-- The names of the commands of the items are the path of where the items lead. -/
theorem names (hwf : t.WellFormed) (h : t.Leads items id) :
    (items.filterMap PathItem.command?).map (·.name) = t.pathNames id := by
  induction h with
  | start => exact hwf.pathNames_root.symm
  | take _ hmore ih =>
    cases hmore with
    | command hc =>
      rw [hwf.pathNames_child (mem_of_findChild hc), ← ih]
      simp
    | _ => simpa [List.filterMap_cons] using ih

/-- Folding the items keeps the path of where they lead in front of argument keys. -/
theorem path (hwf : t.WellFormed) (h : t.Leads items id) :
    (items.foldl Invocation.Folding.step .start).path = t.keyPrefix id := by
  induction h with
  | start =>
    rw [keyPrefix, hwf.pathNames_root]
    rfl
  | take _ hmore ih =>
    rw [List.foldl_append]
    cases hmore with
    | command hc =>
      rw [hwf.keyPrefix_child (mem_of_findChild hc), ← ih]
      rfl
    | _ => exact ih

end Leads

end CommandTree

end FlowScript
