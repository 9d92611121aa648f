import FlowScript.Proofs.Env.Layering
import FlowScript.Proofs.Run.Discipline
import FlowScript.Proofs.Run.Visits
import Mathlib.Data.List.Flatten

/-!
# Which assignments of a script count

The assignments for the whole script are written to the session, and those of an invocation to the
layer of its call. An invocation without an executable is not called, and its assignments go with it:
the script runs as if it had none of them (`runTokens_contributes`).
-/

namespace FlowScript

variable {α σ : Type}

/-! ## The assignments of a script -/

/-- Assigns values one after the other. -/
def Env.assignAll (e : Env) (entries : List (String × Value)) : Env :=
  entries.foldl (fun e entry => e.assign entry.1 entry.2) e

theorem Env.writeAll_eq_assignAll (e : Env) (fragments : List Assignments) :
    e.writeAll fragments = e.assignAll (fragments.flatMap (·.entries)) :=
  List.foldl_flatMap.symm

/-- The assignments of an invocation, in the order they are written. -/
def Invocation.assignments (i : Invocation) : List (String × Value) :=
  i.fragments.flatMap (·.entries)

/-- The invocation without its assignments. -/
def Invocation.bare (i : Invocation) : Invocation :=
  ⟨i.segments.map ({ · with env := none })⟩

theorem Invocation.commands_bare (i : Invocation) : i.bare.commands = i.commands := by
  simp [bare, commands, List.filterMap_map]

theorem Invocation.assignments_bare (i : Invocation) : i.bare.assignments = [] := by
  simp [bare, assignments, fragments]

namespace Flow

/-- The assignments for the whole script. -/
def shared (flow : Flow) : List (String × Value) :=
  (flow.globalEnv.getD ∅).entries

/-- All assignments of a script. -/
def assignments (flow : Flow) : List (String × Value) :=
  flow.shared ++ flow.commands.flatMap (·.assignments)

/-- The script without the assignments of invocations that have no executable. -/
def pruned (flow : Flow) (t : CommandTree α) : Flow :=
  { flow with commands := flow.commands.map fun i =>
      if (Engine.executable? t i).isSome then i else i.bare }

end Flow

namespace Engine

theorem executable?_bare (t : CommandTree α) (i : Invocation) :
    executable? t i.bare = executable? t i := by
  rw [executable?, executable?, Invocation.leaf?, Invocation.leaf?, Invocation.commands_bare]

theorem planOf_pruned (flow : Flow) (t : CommandTree α) :
    planOf (flow.pruned t) t = planOf flow t := by
  rw [planOf, planOf, Flow.pruned]
  induction flow.commands with
  | nil => rfl
  | cons i rest ih =>
    rw [List.map_cons]
    by_cases hx : (executable? t i).isSome = true
    · simp only [hx, if_true, List.filter_cons, ih]
    · simp only [hx, Bool.false_eq_true, if_false, List.filter_cons, executable?_bare, ih]

theorem assignments_pruned (flow : Flow) (t : CommandTree α) :
    (flow.pruned t).assignments = flow.shared ++ (planOf flow t).flatMap (·.assignments) := by
  have hcommands (commands : List Invocation) :
      (commands.map fun i => if (executable? t i).isSome then i else i.bare).flatMap
        (·.assignments) =
      (commands.filter fun i => (executable? t i).isSome).flatMap (·.assignments) := by
    induction commands with
    | nil => rfl
    | cons i rest ih =>
      by_cases hx : (executable? t i).isSome = true
      · simp [hx, ih]
      · simp [hx, ih, Invocation.assignments_bare]
  rw [Flow.assignments, Flow.pruned, hcommands]
  rfl

/-- Nothing is taken out of a script if only invocations with an executable have assignments. -/
theorem assignments_pruned_eq_iff (flow : Flow) (t : CommandTree α) :
    (flow.pruned t).assignments = flow.assignments ↔
      ∀ i ∈ flow.commands, executable? t i = none → i.assignments = [] := by
  have hcommands (commands : List Invocation) :
      (commands.filter fun i => (executable? t i).isSome).flatMap (·.assignments) =
        commands.flatMap (·.assignments) ↔
      ∀ i ∈ commands, executable? t i = none → i.assignments = [] := by
    induction commands with
    | nil => simp
    | cons i rest ih =>
      cases hx : executable? t i with
      | some x => simp [hx, ih]
      | none =>
        -- what is left out makes the list shorter, unless it is nothing
        have hlength := ((List.filter_sublist (p := fun i => (executable? t i).isSome)
          (l := rest)).flatMap (·.assignments)).length_le
        constructor
        · intro heq
          have hnone : i.assignments = [] := by
            have hlen := congrArg List.length heq
            simp only [List.filter_cons, hx, Option.isSome_none, Bool.false_eq_true, if_false,
              List.flatMap_cons, List.length_append] at hlen
            exact List.eq_nil_of_length_eq_zero (by omega)
          simpa [hx, hnone, ih] using heq
        · intro hall
          obtain ⟨hnone, hrest⟩ := List.forall_mem_cons.1 hall
          simpa [hx, hnone hx] using ih.2 hrest
  rw [assignments_pruned, Flow.assignments, List.append_cancel_left_eq]
  exact hcommands flow.commands

/-! ## What a run writes -/

end Engine

/-- The layer of a call was new, and assignments were written to it. -/
def Dispatch.Wrote (d : Dispatch α) (entries : List (String × Value)) : Prop :=
  ∃ session : Env, d.call.env = (session.push .command).assignAll entries

namespace Engine

variable (e : Engine α σ)

theorem dispatches_wrote {fuel : Nat} {pos : Position} {m : Machine α σ} :
    ∀ d ∈ e.dispatches fuel pos m, d.Wrote d.invocation.assignments := by
  intro d hd
  rw [dispatches_eq_map] at hd
  obtain ⟨v, -, rfl⟩ := List.mem_map.1 hd
  exact ⟨v.machine.session, Env.writeAll_eq_assignAll _ _⟩

/-- What becomes of the assignments of a script that runs to its end. -/
structure Contributes (tokens : List String) (m : Machine α σ) (flow : Flow) : Prop where
  /-- Those for the whole script are written to the session before the first call. -/
  session : e.runTokens tokens m = e.walk e.stepLimit ⟨planOf flow m.tree, 0⟩
    { m with session := m.session.assignAll flow.shared }
  /-- Each invocation that has an executable is called, in a layer with its assignments. -/
  calls : ∃ ds : List (Dispatch α),
    e.recorded.runTokens tokens (m.recording []) =
      (.ok (), (e.runTokens tokens m).2.recording (ds.flatMap Dispatch.occurrences)) ∧
    ds.map (·.invocation) = flow.commands.filter (fun i => (executable? m.tree i).isSome) ∧
    ∀ d ∈ ds, d.Wrote d.invocation.assignments
  /-- The other assignments do nothing. -/
  pruned : e.runTokens tokens m = e.runFlow (flow.pruned m.tree) m
  /-- There are others exactly if an invocation without an executable has some. -/
  complete_iff : (flow.pruned m.tree).assignments = flow.assignments ↔
    ∀ i ∈ flow.commands, executable? m.tree i = none → i.assignments = []

theorem runTokens_contributes {tokens : List String} {m : Machine α σ} {flow : Flow}
    (h : parse m tokens = .ok flow) (hok : (e.runTokens tokens m).1 = .ok ())
    (hk : e.handlers.KeepCommands)
    (hplain : ∀ i ∈ planOf flow m.tree, ∀ x, executable? m.tree i = some x → x.isPower = false) :
    e.Contributes tokens m flow := by
  obtain ⟨hrun, hperformed⟩ := e.runTokens_eq_walk h
  obtain ⟨-, hall, -⟩ := e.performed_plain h hk hplain
  refine ⟨hrun, ⟨e.performed tokens m, ?_, hall hok, ?_⟩, ?_, assignments_pruned_eq_iff flow m.tree⟩
  · rw [recorded_runTokens, hok]
  · rw [hperformed]
    exact e.dispatches_wrote
  · have hpruned : e.runFlow (flow.pruned m.tree) m =
        e.walk e.stepLimit ⟨planOf (flow.pruned m.tree) m.tree, 0⟩ (withGlobals flow m) := rfl
    rw [hpruned, planOf_pruned, hrun]

/-- A script that ends with assignments and no command. -/
def strayScript : List String :=
  ["\x7bd.p.r=5\x7d", ":", "d.p\x7br=7\x7d", ":", "\x7btoken=x\x7d"]

/-- What the script is read as. -/
def strayFlow : Flow where
  commands := [⟨[]⟩, .ofItems (deployItems [.env (.ofList [("region", ⟨"7", true⟩)])]),
    .ofItems [.env (.ofList [("token", ⟨"x", false⟩)])]]
  globalEnv := some (.ofList [("deploy.prod.region", ⟨"5", false⟩)])
  globalIndex := some 0

theorem parse_strayScript : parse freshMachine strayScript = .ok strayFlow := by
  let items : List (List PathItem) :=
    [[.env (.ofList [("deploy.prod.region", ⟨"5", false⟩)])],
     deployItems [.env (.ofList [("region", ⟨"7", true⟩)])],
     [.env (.ofList [("token", ⟨"x", false⟩)])]]
  have hitems : (Breaker.standard.sequences strayScript).groups.map
      (fun s => (Walk.start s).runWithin freshMachine.tree 20) =
      items.map fun i => some (.ok i) := by
    decide +kernel
  have hglobal : (Breaker.standard.sequences strayScript).opensGlobal = true := by decide +kernel
  rw [parse, CommandTree.readFlow_of_runWithin hitems, hglobal, if_pos rfl]
  decide +kernel

theorem isPower_strayFlow : ∀ i ∈ planOf strayFlow freshMachine.tree,
    ∀ x, executable? freshMachine.tree i = some x → x.isPower = false := by
  have hpower : (planOf strayFlow freshMachine.tree).all fun i =>
      (executable? freshMachine.tree i).all (!·.isPower) := by
    decide +kernel
  intro i hi x hx
  simpa [hx] using List.all_eq_true.1 hpower i hi

theorem runTokens_strayScript : (refusingEngine.runTokens strayScript freshMachine).1 = .ok () := by
  rw [runTokens, parse_strayScript]
  rfl

/-- The first two sequences count, and the last does not. -/
theorem runTokens_contributes_stray :
    strayFlow.assignments = [("deploy.prod.region", ⟨"5", false⟩),
      ("deploy.prod.region", ⟨"7", true⟩), ("token", ⟨"x", false⟩)] ∧
    refusingEngine.runTokens strayScript freshMachine =
      refusingEngine.runFlow (strayFlow.pruned freshMachine.tree) freshMachine ∧
    (strayFlow.pruned freshMachine.tree).assignments =
      [("deploy.prod.region", ⟨"5", false⟩), ("deploy.prod.region", ⟨"7", true⟩)] ∧
    ∃ d : Dispatch Unit,
      (refusingEngine.recorded.runTokens strayScript (freshMachine.recording [])).2.world.2 =
        d.occurrences ∧ d.Wrote [("deploy.prod.region", ⟨"7", true⟩)] := by
  have h := refusingEngine.runTokens_contributes parse_strayScript runTokens_strayScript
    (fun _ _ _ t _ => .refl t) isPower_strayFlow
  refine ⟨by decide +kernel, h.pruned, by decide +kernel, ?_⟩
  obtain ⟨ds, hlog, hcalls, hwrote⟩ := h.calls
  have hplan : strayFlow.commands.filter (fun i => (executable? freshMachine.tree i).isSome) =
      [.ofItems (deployItems [.env (.ofList [("region", ⟨"7", true⟩)])])] := by
    decide +kernel
  rw [hplan] at hcalls
  obtain ⟨d, rfl, hd⟩ := List.map_eq_singleton_iff.1 hcalls
  have hentries : d.invocation.assignments = [("deploy.prod.region", ⟨"7", true⟩)] := by
    rw [hd]
    decide +kernel
  refine ⟨d, by rw [hlog]; exact List.append_nil _, ?_⟩
  rw [← hentries]
  exact hwrote d List.mem_cons_self

/-- A script that runs to its end without power actions may leave an assignment unwritten: neither
the session nor the env of any call has the key. -/
theorem runTokens_drops_assignment :
    parse freshMachine strayScript = .ok strayFlow ∧
    (∀ i ∈ planOf strayFlow freshMachine.tree,
      ∀ x, executable? freshMachine.tree i = some x → x.isPower = false) ∧
    (refusingEngine.runTokens strayScript freshMachine).1 = .ok () ∧
    ("token", ⟨"x", false⟩) ∈ strayFlow.assignments ∧
    (refusingEngine.runTokens strayScript freshMachine).2.env.has "token" = false ∧
    ∀ d ∈ refusingEngine.performed strayScript freshMachine, d.call.env.has "token" = false := by
  refine ⟨parse_strayScript, isPower_strayFlow, runTokens_strayScript, by decide +kernel, ?_, ?_⟩
  · rw [runTokens, parse_strayScript]
    decide +kernel
  · rw [performed, parse_strayScript]
    decide +kernel

end Engine

end FlowScript
