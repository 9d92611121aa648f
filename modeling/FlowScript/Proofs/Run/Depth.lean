import FlowScript.Proofs.Env.Layering
import FlowScript.Proofs.Run.Phases
import FlowScript.Proofs.Run.Visits
import FlowScript.Proofs.Text.Integers

/-!
# The depth of nested scripts

While the user's script runs, the session's own layer holds a depth that is one greater. If no script
touches the key, it is afterwards what it was before, whatever the script came to, and the layers
around the session do not matter (`execute_balances_depth`).
-/

namespace FlowScript

variable {α σ : Type}

/-! ## Scripts that leave a key alone -/

/-- Neither the assignments of an invocation nor its executable touch a key outside the layer of the
call. -/
structure Dispatch.Spares (d : Dispatch α) (key : String) : Prop where
  fragments : ∀ a ∈ d.invocation.fragments, a.get? key = none
  layers : d.after.env.outer.map (·.get? key) = d.call.env.outer.map (·.get? key)

namespace Engine

variable (e : Engine α σ)

/-- Neither the values for the whole script nor what it dispatches touch a key. -/
structure Spares (r : ScriptRun α σ) (key : String) : Prop where
  globals : ∀ flow, parse r.machine r.tokens = .ok flow → (flow.globalEnv.getD ∅).get? key = none
  dispatches : ∀ d ∈ e.performed r.tokens r.machine, d.Spares key

variable {e} {key : String}

/-- The layers around that of a call hold what those of the session do. -/
theorem held_callEnv {i : Invocation} (h : ∀ a ∈ i.fragments, a.get? key = none) (session : Env) :
    (callEnv session i).outer.map (·.get? key) = session.held key := by
  have hheld := Env.held_writeAll h (session.push .command)
  exact (List.cons.inj hheld).2

/-- If as many layers are around an env as a session has, and hold the same, there is a parent that
holds what the session does. -/
theorem exists_parent_of_held {env session : Env}
    (h : env.outer.map (·.get? key) = session.held key) :
    ∃ parent, env.parent? = some parent ∧ parent.held key = session.held key := by
  rw [Env.parent?]
  cases houter : env.outer with
  | nil => simp [houter, Env.held_eq_cons] at h
  | cons own outer => exact ⟨⟨own, outer⟩, rfl, by rw [← h, houter]; rfl⟩

theorem held_dispatchAt {v : Visit α σ} (h : (e.dispatchedAt v).Spares key) :
    (e.dispatchAt v).2.2.session.held key = v.machine.session.held key := by
  have houter : (e.answer v).2.1.outer.map (·.get? key) = v.machine.session.held key :=
    h.layers.trans (held_callEnv h.fragments _)
  obtain ⟨parent, hparent, hheld⟩ := exists_parent_of_held houter
  rw [dispatchAt_session, hparent]
  exact hheld

/-- A script leaves a key that it spares, and every call sees it in the session. -/
theorem held_runTokens {tokens : List String} {m : Machine α σ} (h : e.Spares ⟨tokens, m⟩ key) :
    (e.runTokens tokens m).2.session.held key = m.session.held key ∧
    ∀ d ∈ e.performed tokens m, d.call.env.outer.map (·.get? key) = m.session.held key := by
  cases hparse : parse m tokens with
  | error err =>
    rw [runTokens, performed, hparse]
    simp
  | ok flow =>
    obtain ⟨hrun, hperformed⟩ := e.runTokens_eq_walk hparse
    have hspares := h.dispatches
    simp only [hperformed, dispatches_eq_map, List.forall_mem_map] at hspares
    have hstart : (withGlobals flow m).session.held key = m.session.held key :=
      Env.held_writeTo (h.globals flow hparse) m.session
    obtain ⟨⟨_, hend⟩, hvisits⟩ := e.walk_invariant
      (fun _ m' => m'.session.held key = m.session.held key) hstart
      fun v hv _ hheld => (held_dispatchAt (hspares v hv)).trans hheld
    rw [hrun, hperformed, dispatches_eq_map]
    refine ⟨hend, List.forall_mem_map.2 fun v hv => ?_⟩
    exact (held_callEnv (hspares v hv).fragments _).trans (hvisits v hv).2

theorem held_runText {text : String} {m : Machine α σ}
    (h : ∀ r ∈ textRuns text m, e.Spares r key) :
    (e.runText text m).2.session.held key = m.session.held key := by
  rw [runText]
  rw [textRuns] at h
  split
  · rfl
  · rename_i hblank
    cases hsplit : Text.ShellWords.split? text with
    | none => rfl
    | some tokens =>
      have hspares : e.Spares ⟨tokens, m⟩ key := by simpa [hblank, hsplit] using h
      exact (held_runTokens hspares).1

theorem held_startup {m : Machine α σ} (h : ∀ r ∈ e.startupRuns m, e.Spares r key) :
    (e.startup m).2.session.held key = m.session.held key := by
  obtain ⟨hfixed, hnamed⟩ := List.forall_mem_append.1 h
  have hheld := held_runText hfixed
  rw [startup]
  rcases hrun : e.runText e.bootstrap m with ⟨err | _, m₁⟩
  · rw [hrun] at hheld
    exact hheld
  · rw [hrun] at hheld hnamed
    exact (held_runText hnamed).trans hheld

/-! ## The depth -/

/-- The depth that the session's own layer holds: zero if there is none, and nothing if it is no
counter. -/
def depth? (session : Env) : Option Int :=
  match session.own? depthKey with
  | none => some 0
  | some s => Text.Integer.read? s

theorem own?_eq_of_held {session session' : Env} (h : session.held key = session'.held key) :
    session.own? key = session'.own? key :=
  congrArg (Option.map _) (List.cons.inj h).1

theorem own?_setCounter (session : Env) (n : Int) :
    (session.setCounter key n).own? key = some (Text.Integer.write n) := by
  simp [Env.own?, Env.setCounter, Env.set, Env.setValue, Layer.get?_set]

theorem adjustDepth_of_depth? {session : Env} {n : Int} (h : depth? session = some n)
    (delta : Int) :
    adjustDepth session delta =
      if Text.Integer.fits (n + delta) then .ok (session.setCounter depthKey (n + delta))
      else .error .overflow := by
  rw [depth?] at h
  rw [adjustDepth]
  cases hown : session.own? depthKey with
  | none =>
    obtain rfl : 0 = n := by simpa [hown] using h
    rfl
  | some s =>
    simp only [hown] at h ⊢
    rw [Text.counter, h]

theorem adjustDepth_of_not_integer {session : Env} {s : String}
    (hown : session.own? depthKey = some s) (hs : Text.Integer.read? s = none) (delta : Int) :
    adjustDepth session delta = .error (.env (.notAnInteger depthKey s)) := by
  simp only [adjustDepth, hown, Text.counter, hs]

theorem fits_of_depth? {session : Env} {n : Int} (h : depth? session = some n) :
    Text.Integer.fits n = true := by
  rw [depth?] at h
  split at h
  · cases h
    decide
  · exact Text.Integer.fits_of_read? h

/-- Lowering a depth by one undoes raising it. -/
theorem restoreDepth_of_raised {r : Result α σ} {d : Int} (hd : Text.Integer.fits d = true)
    (hraised : Text.Integer.fits (d + 1) = true)
    (hown : r.2.session.own? depthKey = some (Text.Integer.write (d + 1))) :
    restoreDepth r = (r.1, { r.2 with session := r.2.session.setCounter depthKey d }) := by
  have hdepth : depth? r.2.session = some (d + 1) := by
    rw [depth?, hown]
    exact Text.Integer.read?_write hraised
  -- the text of the raised depth is read back, so the sum is exact
  have hback : d + 1 + -1 = d := by omega
  rw [restoreDepth, adjustDepth_of_depth? hdepth, hback, if_pos hd]

/-- The machine one level deeper. -/
def deeper (m : Machine α σ) (d : Int) : Machine α σ :=
  { m with session := m.session.setCounter depthKey (d + 1) }

theorem fits_succ {d : Int} (hd : Text.Integer.fits d = true) (hlt : d < Text.Integer.greatest) :
    Text.Integer.fits (d + 1) = true := by
  simp only [Text.Integer.fits, Bool.and_eq_true, decide_eq_true_eq] at hd ⊢
  omega

theorem nestedRuns_of_depth? (script : List String) {m : Machine α σ} {d : Int}
    (h : depth? m.session = some d) (hlt : d < Text.Integer.greatest) :
    nestedRuns script m = [⟨script, deeper m d⟩] := by
  rw [nestedRuns, adjustDepth_of_depth? h, if_pos (fits_succ (fits_of_depth? h) hlt)]
  rfl

/-- The user's script runs one level deeper, and then the depth is as before. -/
theorem runNested_of_depth? {script : List String} {m : Machine α σ} {d : Int}
    (h : depth? m.session = some d) (hlt : d < Text.Integer.greatest)
    (hspares : e.Spares ⟨script, deeper m d⟩ depthKey) :
    e.runNested script m =
      ((e.runTokens script (deeper m d)).1,
        { (e.runTokens script (deeper m d)).2 with
          session := (e.runTokens script (deeper m d)).2.session.setCounter depthKey d }) := by
  have hfits := fits_of_depth? h
  have hraised := fits_succ hfits hlt
  have hown : (e.runTokens script (deeper m d)).2.session.own? depthKey =
      some (Text.Integer.write (d + 1)) :=
    (own?_eq_of_held (held_runTokens hspares).1).trans (own?_setCounter m.session (d + 1))
  rw [runNested, adjustDepth_of_depth? h, if_pos hraised]
  exact restoreDepth_of_raised hfits hraised hown

theorem parent_own?_of_held {env session : Env}
    (h : env.outer.map (·.get? key) = session.held key) :
    env.parent?.bind (·.own? key) = session.own? key := by
  obtain ⟨parent, hparent, hheld⟩ := exists_parent_of_held h
  rw [hparent]
  exact own?_eq_of_held hheld

/-! ## Executions -/

variable (e)

/-- What an execution does with the depth. -/
structure BalancesDepth (script : List String) (extra : Assignments) (m : Machine α σ) : Prop where
  /-- What handlers are asked to do is what the scripts dispatch, the user's after all others. -/
  log : e.recorded.execute script extra (m.recording []) =
    ((e.execute script extra m).1, (e.execute script extra m).2.recording
      (e.occurrences (e.startupRuns (m.merged extra)) ++
        e.occurrences (e.userRuns script (m.merged extra))))
  /-- Up to the user's script the depth is not touched. -/
  started : (e.startup (m.merged extra)).2.session.held depthKey =
    (m.merged extra).session.held depthKey
  /-- Around the session it is never touched. -/
  outer : (e.execute script extra m).2.session.outer.map (·.get? depthKey) =
    (m.merged extra).session.outer.map (·.get? depthKey)
  /-- If a start script fails, this is all. -/
  failed : ∀ err m₁, e.startup (m.merged extra) = (.error err, m₁) →
    e.execute script extra m = (.error err, m₁) ∧ e.userRuns script (m.merged extra) = []
  /-- The user's script finds the depth raised and leaves it as it was, however it ends. -/
  counted : ∀ m₁ d, e.startup (m.merged extra) = (.ok (), m₁) → depth? m₁.session = some d →
    d < Text.Integer.greatest →
    e.userRuns script (m.merged extra) = [⟨script, deeper m₁ d⟩] ∧
    (e.execute script extra m).1 = (e.runTokens script (deeper m₁ d)).1 ∧
    (∀ x ∈ e.performed script (deeper m₁ d),
      x.call.env.parent?.bind (·.own? depthKey) = some (Text.Integer.write (d + 1))) ∧
    (e.execute script extra m).2.session.own? depthKey = some (Text.Integer.write d)
  /-- The greatest depth cannot be raised. -/
  full : ∀ m₁, e.startup (m.merged extra) = (.ok (), m₁) →
    depth? m₁.session = some Text.Integer.greatest →
    e.execute script extra m = (.error .overflow, m₁) ∧ e.userRuns script (m.merged extra) = []
  /-- Nor can one that is no integer. -/
  notInteger : ∀ m₁ s, e.startup (m.merged extra) = (.ok (), m₁) →
    m₁.session.own? depthKey = some s → Text.Integer.read? s = none →
    e.execute script extra m = (.error (.env (.notAnInteger depthKey s)), m₁) ∧
    e.userRuns script (m.merged extra) = []

variable {e}

theorem depth_cases (session : Env) :
    (∃ d, depth? session = some d ∧ d < Text.Integer.greatest) ∨
    depth? session = some Text.Integer.greatest ∨
    ∃ s, session.own? depthKey = some s ∧ Text.Integer.read? s = none := by
  cases hdepth : depth? session with
  | none =>
    rw [depth?] at hdepth
    cases hown : session.own? depthKey with
    | none => simp [hown] at hdepth
    | some s => exact .inr (.inr ⟨s, rfl, by simpa [hown] using hdepth⟩)
  | some d =>
    have hfits := fits_of_depth? hdepth
    simp only [Text.Integer.fits, Bool.and_eq_true, decide_eq_true_eq] at hfits
    rcases Int.lt_or_eq_of_le hfits.2 with hlt | rfl
    · exact .inl ⟨d, rfl, hlt⟩
    · exact .inr (.inl rfl)

theorem outer_eq_of_held {session session' : Env} (h : session.held key = session'.held key) :
    session.outer.map (·.get? key) = session'.outer.map (·.get? key) :=
  (List.cons.inj h).2

section Execution

variable {script : List String} {extra : Assignments} {m m₁ : Machine α σ}

theorem execute_of_startup (h : e.startup (m.merged extra) = (.ok (), m₁)) :
    e.execute script extra m = e.runNested script m₁ ∧
    e.userRuns script (m.merged extra) = nestedRuns script m₁ := by
  rw [execute_eq, userRuns, h]
  exact ⟨rfl, rfl⟩

/-- The user's script is not run if the depth cannot be raised. -/
theorem execute_of_error (h : e.startup (m.merged extra) = (.ok (), m₁)) {err : FlowError}
    (hraise : adjustDepth m₁.session 1 = .error err) :
    e.execute script extra m = (.error err, m₁) ∧ e.userRuns script (m.merged extra) = [] := by
  obtain ⟨hexecute, hruns⟩ := execute_of_startup h
  rw [hexecute, hruns, runNested, nestedRuns, hraise]
  exact ⟨rfl, rfl⟩

theorem adjustDepth_of_greatest {session : Env}
    (h : depth? session = some Text.Integer.greatest) :
    adjustDepth session 1 = .error .overflow := by
  rw [adjustDepth_of_depth? h, if_neg (by decide)]

/-- A depth below the greatest is raised for the user's script. -/
theorem userRuns_of_depth? (h : e.startup (m.merged extra) = (.ok (), m₁)) {d : Int}
    (hdepth : depth? m₁.session = some d) (hlt : d < Text.Integer.greatest) :
    e.userRuns script (m.merged extra) = [⟨script, deeper m₁ d⟩] :=
  (execute_of_startup h).2.trans (nestedRuns_of_depth? script hdepth hlt)

theorem outer_execute (hstartup : ∀ r ∈ e.startupRuns (m.merged extra), e.Spares r depthKey)
    (huser : ∀ r ∈ e.userRuns script (m.merged extra), e.Spares r depthKey) :
    (e.execute script extra m).2.session.outer.map (·.get? depthKey) =
      (m.merged extra).session.outer.map (·.get? depthKey) := by
  have hstarted := outer_eq_of_held (held_startup hstartup)
  -- only the user's script could change more than the start scripts, and it may not come to run
  rcases hrun : e.startup (m.merged extra) with ⟨err | _, m₁⟩ <;> rw [hrun] at hstarted
  · rw [execute_eq, hrun]
    exact hstarted
  · rcases depth_cases m₁.session with ⟨d, hdepth, hlt⟩ | hfull | ⟨s, hown, hs⟩
    · have hspares : e.Spares ⟨script, deeper m₁ d⟩ depthKey :=
        huser _ (userRuns_of_depth? hrun hdepth hlt ▸ List.mem_singleton_self _)
      rw [(execute_of_startup hrun).1, runNested_of_depth? hdepth hlt hspares]
      exact (outer_eq_of_held (held_runTokens hspares).1).trans hstarted
    · rw [(execute_of_error hrun (adjustDepth_of_greatest hfull)).1]
      exact hstarted
    · rw [(execute_of_error hrun (adjustDepth_of_not_integer hown hs 1)).1]
      exact hstarted

/-- An execution balances the depth if none of its scripts touches it. -/
theorem execute_balances_depth
    (h : ∀ r ∈ e.startupRuns (m.merged extra) ++ e.userRuns script (m.merged extra),
      e.Spares r depthKey) :
    e.BalancesDepth script extra m := by
  obtain ⟨hstartup, huser⟩ := List.forall_mem_append.1 h
  refine
    { log := e.recorded_execute script extra m
      started := held_startup hstartup
      outer := outer_execute hstartup huser
      failed := fun err m₁ hfail => ?_
      counted := fun m₁ d hok hdepth hlt => ?_
      full := fun m₁ hok hfull => execute_of_error hok (adjustDepth_of_greatest hfull)
      notInteger := fun m₁ s hok hown hs =>
        execute_of_error hok (adjustDepth_of_not_integer hown hs 1) }
  · rw [execute_eq, userRuns, hfail]
    exact ⟨rfl, rfl⟩
  · have hruns : e.userRuns script (m.merged extra) = [⟨script, deeper m₁ d⟩] :=
      userRuns_of_depth? hok hdepth hlt
    have hspares : e.Spares ⟨script, deeper m₁ d⟩ depthKey :=
      huser _ (hruns ▸ List.mem_singleton_self _)
    have hexecute : e.execute script extra m = _ :=
      (execute_of_startup hok).1.trans (runNested_of_depth? hdepth hlt hspares)
    refine ⟨hruns, by rw [hexecute], fun x hx => ?_, ?_⟩
    · exact (parent_own?_of_held ((held_runTokens hspares).2 x hx)).trans (own?_setCounter _ _)
    · rw [hexecute]
      exact own?_setCounter _ d

end Execution

/-- A machine with a depth around its session, which does not count. -/
def outerDepthMachine : Machine Unit Unit :=
  { freshMachine with
    session := (((Env.root .default).push .persisted).set depthKey "9").push .session }

/-- A start script and a depth. -/
def nestedExtra : Assignments :=
  .ofList [(bootstrapKey, ⟨"d.p", false⟩), (depthKey, ⟨"+02", false⟩)]

/-- The machine with these values in its session. -/
def nestedMachine : Machine Unit Unit :=
  outerDepthMachine.merged nestedExtra

theorem parse_bootstrap : parse nestedMachine ["d.p"] =
    .ok (.ofCommands [.ofItems (deployItems [])]) := by
  have hitems : (Breaker.standard.sequences ["d.p"]).groups.map
      (fun s => (Walk.start s).runWithin nestedMachine.tree 20) =
      [deployItems []].map fun i => some (.ok i) := by
    decide +kernel
  rw [parse, CommandTree.readFlow_of_runWithin hitems]
  decide +kernel

theorem parse_deeper : parse (deeper nestedMachine 2) refusedScript =
    .ok (.ofCommands refusedPlan) := by
  have htree : (deeper nestedMachine 2).tree = freshMachine.tree := rfl
  have hhoist : Flow.hoist refusedPlan = .ofCommands refusedPlan := rfl
  rw [parse, htree, CommandTree.readFlow_of_ok
    (CommandTree.readInvocations_eq_ok_iff.2 readInvocation_refusedScript), hhoist, ite_self]

theorem textRuns_bootstrap : textRuns (nestedMachine.session.text bootstrapKey) nestedMachine =
    [⟨["d.p"], nestedMachine⟩] := by
  have htext : nestedMachine.session.text bootstrapKey = "d.p" := by decide +kernel
  have hsplit : Text.ShellWords.split? "d.p" = some ["d.p"] := by decide +kernel
  rw [htext, textRuns, hsplit]
  rfl

theorem startup_nestedMachine : refusingEngine.startup nestedMachine = (.ok (), nestedMachine) := by
  have htext : nestedMachine.session.text bootstrapKey = "d.p" := by decide +kernel
  have hsplit : Text.ShellWords.split? "d.p" = some ["d.p"] := by decide +kernel
  have hfixed : refusingEngine.runText refusingEngine.bootstrap nestedMachine =
      (.ok (), nestedMachine) := rfl
  rw [startup, hfixed, andThen, runSessionBootstrap, htext, runText, hsplit]
  simp only [runTokens, parse_bootstrap]
  rfl

/-- No script of the execution touches the depth. -/
theorem spares_depth_nestedMachine :
    ∀ r ∈ refusingEngine.startupRuns nestedMachine ++
      refusingEngine.userRuns refusedScript nestedMachine,
    refusingEngine.Spares r depthKey := by
  have hdepth : depth? nestedMachine.session = some 2 := by decide +kernel
  have hstartup : refusingEngine.startupRuns nestedMachine = [⟨["d.p"], nestedMachine⟩] :=
    textRuns_bootstrap
  have huser : refusingEngine.userRuns refusedScript nestedMachine =
      [⟨refusedScript, deeper nestedMachine 2⟩] := by
    rw [userRuns, startup_nestedMachine]
    exact nestedRuns_of_depth? refusedScript hdepth (by decide)
  have hspares (r : ScriptRun Unit Unit) (plan : Plan)
      (hparse : parse r.machine r.tokens = .ok (.ofCommands plan))
      (hcalls : ∀ d ∈ refusingEngine.dispatches refusingEngine.stepLimit
        ⟨planOf (.ofCommands plan) r.machine.tree, 0⟩ r.machine,
        (∀ a ∈ d.invocation.fragments, a.get? depthKey = none) ∧
        d.after.env.outer.map (·.get? depthKey) = d.call.env.outer.map (·.get? depthKey)) :
      refusingEngine.Spares r depthKey := by
    refine ⟨fun flow hflow => ?_, fun d hd => ?_⟩
    · obtain rfl : .ofCommands plan = flow := Except.ok.inj (hparse.symm.trans hflow)
      rfl
    · rw [(refusingEngine.runTokens_eq_walk hparse).2] at hd
      exact ⟨(hcalls d hd).1, (hcalls d hd).2⟩
  rw [hstartup, huser]
  refine List.forall_mem_cons.2 ⟨?_, List.forall_mem_singleton.2 ?_⟩
  · exact hspares _ _ parse_bootstrap (by decide +kernel)
  · exact hspares _ _ parse_deeper (by decide +kernel)

/-- The script fails at its second call, both calls see the raised depth, and in the end the depth is
what it was, without the sign and the zero. -/
theorem execute_balances_depth_refused :
    (refusingEngine.execute refusedScript nestedExtra outerDepthMachine).1 =
      .error (.commandFailed "deploy.prod") ∧
    (refusingEngine.execute refusedScript nestedExtra outerDepthMachine).2.session.own? depthKey =
      some "2" ∧
    (refusingEngine.execute refusedScript nestedExtra outerDepthMachine).2.session.outer.map
      (·.get? depthKey) = [some ⟨"9", false⟩, none] ∧
    (refusingEngine.performed refusedScript (deeper nestedMachine 2)).length = 2 ∧
    ∀ x ∈ refusingEngine.performed refusedScript (deeper nestedMachine 2),
      x.call.env.parent?.bind (·.own? depthKey) = some "3" := by
  have h : refusingEngine.BalancesDepth refusedScript nestedExtra outerDepthMachine :=
    execute_balances_depth spares_depth_nestedMachine
  have hdepth : depth? nestedMachine.session = some 2 := by decide +kernel
  have htwo : Text.Integer.write 2 = "2" := by decide +kernel
  have hthree : Text.Integer.write (2 + 1) = "3" := by decide +kernel
  obtain ⟨-, houtcome, hcalls, hown⟩ := h.counted _ 2 startup_nestedMachine hdepth (by decide)
  rw [htwo] at hown
  rw [hthree] at hcalls
  refine ⟨houtcome.trans ?_, hown, h.outer.trans (by decide +kernel), ?_, hcalls⟩
  · rw [runTokens, parse_deeper]
    rfl
  · rw [performed, parse_deeper]
    decide +kernel

end Engine

end FlowScript
