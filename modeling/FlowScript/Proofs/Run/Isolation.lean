import FlowScript.Proofs.Env.Layering
import FlowScript.Proofs.Run.Discipline
import FlowScript.Proofs.Run.Visits

/-!
# Invocations do not see each other

Each invocation is called in a layer of its own inside the session. As long as no assignment of an
invocation erases a key everywhere and no executable reaches beyond its layer, the session is after
the run what it was once the values for the whole script were written, and every invocation is
called as if it were the only one (`runFlow_isolated`).
-/

namespace FlowScript

variable {α σ : Type}

/-- No assignment of an invocation erases its key from the whole chain. -/
def Invocation.IsLocal (i : Invocation) : Prop :=
  ∀ a ∈ i.fragments, ∀ entry ∈ a.entries, entry.2.erasure ≠ .everywhere

/-- The flow with one of its invocations only. -/
def Flow.alone (flow : Flow) (i : Invocation) : Flow :=
  { flow with commands := [i] }

namespace Engine

variable (e : Engine α σ)

/-! ## One dispatch -/

/-- An executable leaves the plan, the tree and every layer but that of its call as they are. -/
structure LeavesRest (v : Visit α σ) : Prop where
  layers : (e.answer v).2.1.outer = v.env.outer
  tree : (e.answer v).2.2.1 = v.machine.tree
  plan : (e.answer v).2.2.2.1.plan = v.position.plan

/-- The layer of a call lies inside the session as it is. -/
theorem outer_callEnv {i : Invocation} (hi : i.IsLocal) (session : Env) :
    (callEnv session i).outer = session.layers :=
  Env.outerLayers_writeAll hi (session.push .command)

variable {e}

theorem LeavesRest.session {v : Visit α σ} (h : e.LeavesRest v) (hi : v.invocation.IsLocal) :
    (e.dispatchAt v).2.2.session = v.machine.session := by
  have houter : (e.answer v).2.1.outer = v.machine.session.layers :=
    h.layers.trans (outer_callEnv hi _)
  rw [dispatchAt_session, Env.parent?, houter]
  rfl

/-! ## A walk -/

/-- A walk whose executables leave the rest alone goes on with the same session, tree and plan. -/
theorem walk_isolated {fuel : Nat} {pos : Position} {m : Machine α σ}
    (hplan : ∀ i ∈ pos.plan, i.IsLocal) (hcalls : ∀ v ∈ e.visits fuel pos m, e.LeavesRest v) :
    ((e.walk fuel pos m).2.session = m.session ∧ (e.walk fuel pos m).2.inner = m.inner) ∧
    ∀ v ∈ e.visits fuel pos m, v.machine.session = m.session ∧
      executable? m.tree v.invocation = some v.executable := by
  let Inv (plan : Plan) (m' : Machine α σ) : Prop :=
    plan = pos.plan ∧ m'.tree = m.tree ∧ m'.session = m.session ∧ m'.inner = m.inner
  have hstep : ∀ v ∈ e.visits fuel pos m, v.IsDue → Inv v.position.plan v.machine →
      Inv (e.dispatchAt v).2.1.plan (e.dispatchAt v).2.2 := by
    rintro v hv hdue ⟨hp, ht, hs, hin⟩
    have hrest := hcalls v hv
    refine ⟨hrest.plan.trans hp, hrest.tree.trans ht, ?_, hin⟩
    rw [hrest.session (hplan _ (hp ▸ hdue.mem)), hs]
  obtain ⟨⟨_, hend⟩, hvisits⟩ := e.walk_invariant Inv ⟨rfl, rfl, rfl, rfl⟩ hstep
  refine ⟨hend.2.2, fun v hv => ?_⟩
  obtain ⟨hdue, -, ht, hs, -⟩ := hvisits v hv
  exact ⟨hs, ht ▸ hdue.executable⟩

/-! ## A flow -/

variable (e)

/-- Where a flow dispatches. -/
def flowVisits (flow : Flow) (m : Machine α σ) : List (Visit α σ) :=
  e.visits e.stepLimit ⟨planOf flow m.tree, 0⟩ (withGlobals flow m)

/-- What a flow dispatches. -/
def flowDispatches (flow : Flow) (m : Machine α σ) : List (Dispatch α) :=
  (e.flowVisits flow m).map e.dispatchedAt

theorem recorded_runFlow (flow : Flow) (m : Machine α σ) :
    e.recorded.runFlow flow (m.recording []) =
      ((e.runFlow flow m).1, (e.runFlow flow m).2.recording
        ((e.flowDispatches flow m).flatMap Dispatch.occurrences)) := by
  rw [flowDispatches, flowVisits, ← dispatches_eq_map]
  exact e.recorded_walk e.stepLimit ⟨planOf flow m.tree, 0⟩ (withGlobals flow m) []

/-- An invocation that has an executable is dispatched first if it is alone. -/
theorem flowVisits_alone (flow : Flow) (m : Machine α σ) {i : Invocation} {x : Executable α}
    (hx : executable? m.tree i = some x) (hlimit : e.stepLimit ≠ 0) :
    ∃ rest, e.flowVisits (flow.alone i) m =
      ⟨x, i, ⟨[i], 0⟩, withGlobals flow m⟩ :: rest := by
  obtain ⟨fuel, hfuel⟩ := Nat.exists_eq_succ_of_ne_zero hlimit
  have hplan : planOf (flow.alone i) m.tree = [i] := by simp [planOf, Flow.alone, hx]
  have hmachine : withGlobals (flow.alone i) m = withGlobals flow m := rfl
  have htree : executable? (withGlobals flow m).tree i = some x := hx
  rw [flowVisits, hfuel, hplan, hmachine, visits]
  simp only [List.getElem?_cons_zero, htree]
  exact ⟨_, rfl⟩

/-- What a flow comes to whose invocations do not see each other. -/
structure Isolated (flow : Flow) (m : Machine α σ) : Prop where
  /-- The session is as it was with the values for the whole script written to it. -/
  session : (e.runFlow flow m).2.session = (flow.globalEnv.getD ∅).writeTo m.session
  kind : (e.runFlow flow m).2.session.own.kind = m.session.own.kind
  /-- Its own layer holds these values, and all else as before. -/
  own : ∀ key, (e.runFlow flow m).2.session.own.get? key =
    (((flow.globalEnv.getD ∅).get? key).map Value.kept?).getD (m.session.own.get? key)
  /-- The layers around it lose the keys that these values erase everywhere, and nothing else. -/
  outer : (e.runFlow flow m).2.session.outer =
    m.session.outer.map (·.eraseAll (flow.globalEnv.getD ∅).erasedKeys)
  /-- The layers inside it are not touched. -/
  inner : (e.runFlow flow m).2.inner = m.inner
  /-- What handlers are asked to do are the dispatches of the flow. -/
  log : e.recorded.runFlow flow (m.recording []) =
    ((e.runFlow flow m).1, (e.runFlow flow m).2.recording
      ((e.flowDispatches flow m).flatMap Dispatch.occurrences))
  /-- Each invocation gets the arguments and sees the env that it would alone. -/
  alone : ∀ d ∈ e.flowDispatches flow m, ∃ d' rest,
    e.flowDispatches (flow.alone d.invocation) m = d' :: rest ∧
    d'.invocation = d.invocation ∧ d'.call.kind = d.call.kind ∧
    d'.call.args = d.call.args ∧ d'.call.env = d.call.env

theorem runFlow_isolated {flow : Flow} {m : Machine α σ}
    (hlocal : ∀ i ∈ flow.commands, i.IsLocal)
    (hcalls : ∀ v ∈ e.flowVisits flow m, e.LeavesRest v) : e.Isolated flow m := by
  have hplan : ∀ i ∈ planOf flow m.tree, i.IsLocal :=
    fun i hi => hlocal i (List.mem_filter.1 hi).1
  obtain ⟨⟨hsession, hinner⟩, hvisits⟩ := walk_isolated hplan hcalls
  have hend : (e.runFlow flow m).2.session = (flow.globalEnv.getD ∅).writeTo m.session := hsession
  refine ⟨hend, ?_, fun key => ?_, ?_, hinner, e.recorded_runFlow flow m, fun d hd => ?_⟩
  · rw [hend, Env.kind_writeTo]
  · rw [hend, Env.own_writeTo]
  · rw [hend, Env.outerLayers_writeTo]
  · obtain ⟨v, hv, rfl⟩ := List.mem_map.1 hd
    obtain ⟨hs, hx⟩ := hvisits v hv
    have hlimit : e.stepLimit ≠ 0 := by
      intro hzero
      rw [flowVisits, hzero] at hv
      exact List.not_mem_nil hv
    obtain ⟨rest, halone⟩ := e.flowVisits_alone flow m hx hlimit
    -- the env and the arguments of a call follow from the session, which is that of the start
    have henv : Visit.env (⟨v.executable, v.invocation, ⟨[v.invocation], 0⟩,
        withGlobals flow m⟩ : Visit α σ) = v.env := by
      rw [Visit.env, Visit.env, hs]
    refine ⟨e.dispatchedAt ⟨v.executable, v.invocation, ⟨[v.invocation], 0⟩, withGlobals flow m⟩,
      rest.map e.dispatchedAt, ?_, rfl, rfl, ?_, ?_⟩
    · rw [flowDispatches, dispatchedAt_invocation, halone, List.map_cons]
    · rw [dispatchedAt_args, dispatchedAt_args, Visit.args, Visit.args, henv]
    · rw [dispatchedAt_env, dispatchedAt_env, henv]

/-- An engine whose command lines leave the region they refuse in the layer of their call. -/
def scribblingEngine : Engine Unit Unit :=
  { refusingEngine with handlers := { refusingEngine.handlers with
      external := fun _ args s =>
        (.ok (args.get "region" ≠ "us"), s.1.set "deploy.prod.region" "us", s.2) } }

/-- Three calls, of which the last assigns the refused region, after values for all of them. -/
def scribblingFlow : Flow where
  commands := [.ofItems (deployItems []), .ofItems (deployItems []),
    .ofItems (deployItems [.env (.ofList [("region", ⟨"us", true⟩)])])]
  globalEnv := some (.ofList [("deploy.prod.region", ⟨"de", true⟩), ("token", ⟨"---", false⟩)])
  globalIndex := some 0

/-- A machine that has a saved value. -/
def savingMachine : Machine Unit Unit :=
  { freshMachine with
    session := (((Env.root .default).push .persisted).set "token" "x").push .session }

/-- The second call is not refused for what the first one left behind, the third one is for what it
assigns, and of all this the session keeps the values for the whole script. -/
theorem runFlow_isolated_scribbling :
    (scribblingEngine.runFlow scribblingFlow savingMachine).1 =
      .error (.commandFailed "deploy.prod") ∧
    (scribblingEngine.runFlow scribblingFlow savingMachine).2.session =
      Env.newSession.setValue "deploy.prod.region" ⟨"de", true⟩ ∧
    (scribblingEngine.flowDispatches scribblingFlow savingMachine).map (·.call.args.pairs) =
      [[("region", "de")], [("region", "de")], [("region", "us")]] ∧
    ∀ d ∈ scribblingEngine.flowDispatches scribblingFlow savingMachine, ∃ d' rest,
      scribblingEngine.flowDispatches (scribblingFlow.alone d.invocation) savingMachine =
        d' :: rest ∧ d'.call.args = d.call.args := by
  have hlocal : ∀ i ∈ scribblingFlow.commands, ∀ a ∈ i.fragments, ∀ entry ∈ a.entries,
      entry.2.erasure ≠ .everywhere := by
    decide +kernel
  have hcalls (v : Visit Unit Unit) : scribblingEngine.LeavesRest v := by
    obtain ⟨⟨kind, help, params, quiet⟩, i, pos, m⟩ := v
    cases kind <;> exact ⟨rfl, rfl, rfl⟩
  have h : scribblingEngine.Isolated scribblingFlow savingMachine :=
    scribblingEngine.runFlow_isolated hlocal fun v _ => hcalls v
  refine ⟨rfl, h.session.trans (by decide +kernel), by decide +kernel, fun d hd => ?_⟩
  obtain ⟨d', rest, halone, -, -, hargs, -⟩ := h.alone d hd
  exact ⟨d', rest, halone, hargs⟩

end Engine

end FlowScript
