import FlowScript.Proofs.Run.Recording
import FlowScript.Proofs.Script.Flows

/-!
# What observers can rely on

A script that cannot be read does nothing at all. One that can be read shows its observers a pair of
events for each call, and the first call that does not succeed is the last thing that happens
(`Disciplined`). This holds whatever power actions do to the plan; without them the calls are those
of the script in order (`dispatches_plain`).
-/

namespace FlowScript

variable {α σ : Type}

/-! ## One call -/

/-- Observers are told of a call before and after, under the path of the invocation, and the second
time also whether it succeeded. -/
structure Dispatch.Told (d : Dispatch α) : Prop where
  before : d.before.phase = .before
  after : d.after.phase = .after d.call.verdict.succeeded
  before_path : d.before.path = d.invocation.displayPath
  after_path : d.after.path = d.invocation.displayPath

/-- The error of a run that a call ends. -/
def Dispatch.error (d : Dispatch α) : FlowError :=
  match d.call.verdict with
  | .ok _ => .commandFailed d.after.path
  | .error cause => .commandError d.after.path cause

theorem Engine.dispatched_told (e : Engine α σ) (x : Executable α) (i : Invocation)
    (pos : Position) (m : Machine α σ) : (e.dispatched x i pos m).Told where
  before := rfl
  after := rfl
  before_path := rfl
  after_path := rfl

/-! ## A run -/

/-- Observers are told of every call. A run comes to a good end if all calls succeed; one that does
not is the last, and its error is that of the run. -/
structure Disciplined (ds : List (Dispatch α)) (outcome : Except FlowError Unit) : Prop where
  told : ∀ d ∈ ds, d.Told
  ok_iff : outcome = .ok () ↔ ∀ d ∈ ds, d.after.phase = .after true
  failed : ∀ front d back, ds = front ++ d :: back → d.after.phase = .after false →
    back = [] ∧ outcome = .error d.error

namespace Disciplined

theorem nil : Disciplined ([] : List (Dispatch α)) (.ok ()) where
  told := by simp
  ok_iff := by simp
  failed := by simp

theorem fail {d : Dispatch α} (ht : d.Told) (hd : d.call.verdict.succeeded = false) :
    Disciplined [d] (.error d.error) where
  told := by simpa using ht
  ok_iff := by simp [ht.after, hd]
  failed front d' back h _ := by
    cases front with
    | nil =>
      obtain ⟨rfl, rfl⟩ := List.cons.inj h
      exact ⟨rfl, rfl⟩
    | cons d₀ front => simp at h

theorem cons {d : Dispatch α} (ht : d.Told) (hd : d.call.verdict.succeeded = true)
    {ds : List (Dispatch α)} {outcome : Except FlowError Unit} (h : Disciplined ds outcome) :
    Disciplined (d :: ds) outcome where
  told := by simpa using ⟨ht, h.told⟩
  ok_iff := by simpa [ht.after, hd] using h.ok_iff
  failed front d' back hsplit hphase := by
    cases front with
    | nil =>
      obtain ⟨rfl, rfl⟩ := List.cons.inj hsplit
      simp [ht.after, hd] at hphase
    | cons d₀ front => exact h.failed front d' back (List.cons.inj hsplit).2 hphase

end Disciplined

namespace Engine

variable (e : Engine α σ)

theorem walk_disciplined (fuel : Nat) (pos : Position) (m : Machine α σ)
    (hfinished : (e.walk fuel pos m).1 ≠ .error .unfinished)
    (hrange : (e.walk fuel pos m).1 ≠ .error .overflow) :
    Disciplined (e.dispatches fuel pos m) (e.walk fuel pos m).1 := by
  induction fuel generalizing pos m with
  | zero => exact absurd rfl hfinished
  | succ fuel ih =>
    simp only [walk, dispatches] at hfinished hrange ⊢
    cases hi : pos.plan[pos.cursor]? with
    | none => exact .nil
    | some i =>
      simp only [hi] at hfinished hrange ⊢
      cases hx : executable? m.tree i with
      | none =>
        simp only [hx] at hfinished hrange ⊢
        exact ih _ m hfinished hrange
      | some x =>
        simp only [hx] at hfinished hrange ⊢
        have htold := e.dispatched_told x i pos m
        have hverdict := e.dispatched_verdict x i pos m
        have hpath : (e.dispatched x i pos m).after.path = i.displayPath := rfl
        -- the verdict decides between an end with this call and going on
        rcases hdispatch : e.dispatch x i pos m with ⟨cause | _ | _, pos', m'⟩ <;>
          simp only [hdispatch] at hfinished hrange hverdict ⊢
        · simpa [Dispatch.error, hdispatch, hpath] using
            Disciplined.fail htold (by rw [hverdict]; rfl)
        · simpa [Dispatch.error, hdispatch, hpath] using
            Disciplined.fail htold (by rw [hverdict]; rfl)
        · cases hnext : pos'.next? with
          | none => simp [hnext] at hrange
          | some next =>
            simp only [hnext] at hfinished hrange ⊢
            exact .cons htold (by rw [hverdict]; rfl) (ih next m' hfinished hrange)

/-! ## Plans without power actions -/

/-- Whether executables of a kind leave the plan alone. -/
def isPlain (kind : ExecutableKind α) : Bool :=
  match kind with
  | .power _ => false
  | _ => true

theorem isPlain_kind (x : Executable α) : isPlain x.kind = !x.isPower := by
  unfold isPlain Executable.isPower
  cases x.kind <;> rfl

/-- Without power actions the calls are those of the plan in order, up to one that does not
succeed. -/
theorem dispatches_plain (hk : e.handlers.KeepCommands) (passed : Plan) {rest : Plan}
    {m : Machine α σ} (hrest : Runnable isPlain m.tree rest) (fuel : Nat) :
    let ds := e.dispatches fuel ⟨passed ++ rest, passed.length⟩ m
    ds.map (·.invocation) <+: rest ∧
    ((e.walk fuel ⟨passed ++ rest, passed.length⟩ m).1 = .ok () → ds.map (·.invocation) = rest) ∧
    ∀ d ∈ ds, ∃ x, executable? m.tree d.invocation = some x ∧ d.call.kind = x.kind := by
  induction rest generalizing passed m fuel with
  | nil => cases fuel <;> simp [walk, dispatches]
  | cons i rest ih =>
    cases fuel with
    | zero => simp [walk, dispatches]
    | succ fuel =>
      obtain ⟨x, hx, hplain⟩ := hrest.executable List.mem_cons_self
      have hpower : x.isPower = false := by simpa [isPlain_kind] using hplain
      have hposition := e.dispatch_position hpower i ⟨passed ++ i :: rest, passed.length⟩ m
      have htree := e.dispatch_keeps hk x i ⟨passed ++ i :: rest, passed.length⟩ m
      have hhere : (passed ++ i :: rest)[passed.length]? = some i := by simp
      simp only [walk, dispatches, hhere, hx]
      rcases hdispatch : e.dispatch x i ⟨passed ++ i :: rest, passed.length⟩ m with
        ⟨cause | _ | _, pos', m'⟩ <;>
        simp only [hdispatch] at hposition htree ⊢
      · exact ⟨by simp, by simp, by simpa using ⟨x, hx, rfl⟩⟩
      · exact ⟨by simp, by simp, by simpa using ⟨x, hx, rfl⟩⟩
      · subst hposition
        simp only [next?_at]
        obtain ⟨hinitial, hall, hkinds⟩ :=
          ih (passed ++ [i]) (hrest.kept htree (List.sublist_cons_self i rest)) fuel
        refine ⟨by simpa using hinitial, fun hok => by simpa using hall hok, ?_⟩
        intro d hd
        rcases List.mem_cons.1 hd with rfl | hd
        · exact ⟨x, hx, rfl⟩
        · -- what a later call runs has been of its kind from the start
          obtain ⟨x', hx', hkind⟩ := hkinds d hd
          have hmem : d.invocation ∈ rest := hinitial.subset (List.mem_map_of_mem hd)
          obtain ⟨y, hy, -⟩ := hrest.executable (List.mem_cons_of_mem i hmem)
          obtain ⟨y', hy', hkind'⟩ := executable?_kept htree hy
          obtain rfl : x' = y' := Option.some.inj (hx'.symm.trans hy')
          exact ⟨y, hy, hkind.trans hkind'⟩

/-! ## Scripts -/

/-- The invocations of a script that have an executable. -/
def planOf (flow : Flow) (t : CommandTree α) : Plan :=
  flow.commands.filter fun i => (executable? t i).isSome

/-- The machine that the plan of a script is walked with. -/
def withGlobals (flow : Flow) (m : Machine α σ) : Machine α σ :=
  { m with session := (flow.globalEnv.getD ∅).writeTo m.session }

/-- What a script dispatches; nothing if it cannot be read. -/
def performed (tokens : List String) (m : Machine α σ) : List (Dispatch α) :=
  match parse m tokens with
  | .error _ => []
  | .ok flow => e.dispatches e.stepLimit ⟨planOf flow m.tree, 0⟩ (withGlobals flow m)

section Script

variable {tokens : List String} {m : Machine α σ} {flow : Flow}

/-- A script that can be read is a walk. -/
theorem runTokens_eq_walk (h : parse m tokens = .ok flow) :
    e.runTokens tokens m = e.walk e.stepLimit ⟨planOf flow m.tree, 0⟩ (withGlobals flow m) ∧
    e.performed tokens m =
      e.dispatches e.stepLimit ⟨planOf flow m.tree, 0⟩ (withGlobals flow m) := by
  rw [runTokens, performed, h]
  exact ⟨rfl, rfl⟩

/-- A recorded script is the script, and the log grows by what it dispatches. -/
theorem recorded_runTokens_from (tokens : List String) (m : Machine α σ)
    (log : List (Occurrence α)) :
    e.recorded.runTokens tokens (m.recording log) =
      ((e.runTokens tokens m).1, (e.runTokens tokens m).2.recording
        (log ++ (e.performed tokens m).flatMap Dispatch.occurrences)) := by
  have hparse : parse (m.recording log) tokens = parse m tokens := rfl
  rw [runTokens, runTokens, performed, hparse]
  cases parse m tokens with
  | error err => simp
  | ok flow =>
    exact e.recorded_walk e.stepLimit ⟨planOf flow m.tree, 0⟩ (withGlobals flow m) log

theorem recorded_runTokens (tokens : List String) (m : Machine α σ) :
    e.recorded.runTokens tokens (m.recording []) =
      ((e.runTokens tokens m).1, (e.runTokens tokens m).2.recording
        ((e.performed tokens m).flatMap Dispatch.occurrences)) :=
  e.recorded_runTokens_from tokens m []

/-- A script that cannot be read does nothing. -/
theorem recorded_runTokens_of_error {err : ParseError} (h : parse m tokens = .error err) :
    e.recorded.runTokens tokens (m.recording []) = (.error (.parse err), m.recording []) := by
  rw [recorded_runTokens, runTokens, performed, h]
  rfl

theorem performed_disciplined (h : parse m tokens = .ok flow)
    (hfinished : (e.runTokens tokens m).1 ≠ .error .unfinished)
    (hrange : (e.runTokens tokens m).1 ≠ .error .overflow) :
    Disciplined (e.performed tokens m) (e.runTokens tokens m).1 := by
  obtain ⟨hrun, hperformed⟩ := e.runTokens_eq_walk h
  rw [hrun] at hfinished hrange ⊢
  rw [hperformed]
  exact e.walk_disciplined _ _ _ hfinished hrange

/-- Without power actions a script calls what its plan names. -/
theorem performed_plain (h : parse m tokens = .ok flow) (hk : e.handlers.KeepCommands)
    (hplain : ∀ i ∈ planOf flow m.tree, ∀ x, executable? m.tree i = some x → x.isPower = false) :
    (e.performed tokens m).map (·.invocation) <+: planOf flow m.tree ∧
    ((e.runTokens tokens m).1 = .ok () →
      (e.performed tokens m).map (·.invocation) = planOf flow m.tree) ∧
    ∀ d ∈ e.performed tokens m, ∃ x,
      executable? m.tree d.invocation = some x ∧ d.call.kind = x.kind := by
  have hplan : Runnable isPlain (withGlobals flow m).tree (planOf flow m.tree) := by
    intro i hi
    obtain ⟨x, hx⟩ := Option.isSome_iff_exists.1 (List.mem_filter.1 hi).2
    exact (Option.any_eq_true _ _).2 ⟨x, hx, by simp [isPlain_kind, hplain i hi x hx]⟩
  obtain ⟨hrun, hperformed⟩ := e.runTokens_eq_walk h
  rw [hrun, hperformed]
  exact e.dispatches_plain hk [] hplan e.stepLimit

end Script

/-- A script of which a sequence cannot be read sends no event, calls nothing and changes nothing.
Any other one tells its observers of every call, and ends with the first that does not succeed. If
no power action is in its plan, it calls what the plan names, in order. -/
theorem runTokens_disciplined (tokens : List String) (m : Machine α σ) :
    let sequences := (Breaker.standard.sequences tokens).groups
    let outcome := (e.runTokens tokens m).1
    ((∃ s ∈ sequences, ∃ err, m.tree.readInvocation s = .error err) →
      ∃ err, (∃ s ∈ sequences, m.tree.readInvocation s = .error err) ∧
        e.recorded.runTokens tokens (m.recording []) = (.error (.parse err), m.recording [])) ∧
    ((∀ s ∈ sequences, ∃ i, m.tree.readInvocation s = .ok i) →
      outcome ≠ .error .unfinished → outcome ≠ .error .overflow →
      ∃ flow, parse m tokens = .ok flow ∧
        e.recorded.runTokens tokens (m.recording []) =
          (outcome, (e.runTokens tokens m).2.recording
            ((e.performed tokens m).flatMap Dispatch.occurrences)) ∧
        Disciplined (e.performed tokens m) outcome ∧
        (e.handlers.KeepCommands →
          (∀ i ∈ planOf flow m.tree, ∀ x, executable? m.tree i = some x → x.isPower = false) →
          (e.performed tokens m).map (·.invocation) <+: planOf flow m.tree ∧
          (outcome = .ok () → (e.performed tokens m).map (·.invocation) = planOf flow m.tree) ∧
          ∀ d ∈ e.performed tokens m, ∃ x,
            executable? m.tree d.invocation = some x ∧ d.call.kind = x.kind)) := by
  intro sequences outcome
  rcases m.tree.readFlow_cases m.tree .standard tokens with
    ⟨flow, hflow, hread⟩ | ⟨err, herr, s, hs, hread⟩
  · refine ⟨?_, fun _ hfinished hrange => ⟨flow, hflow, e.recorded_runTokens tokens m,
      e.performed_disciplined hflow hfinished hrange, e.performed_plain hflow⟩⟩
    rintro ⟨s, hs, err, herr⟩
    obtain ⟨i, hi⟩ := hread s hs
    simp [herr] at hi
  · refine ⟨fun _ => ⟨err, ⟨s, hs, hread⟩, e.recorded_runTokens_of_error herr⟩, fun hall => ?_⟩
    obtain ⟨i, hi⟩ := hall s hs
    simp [hread] at hi

/-- An engine whose command lines fail for one region. -/
def refusingEngine : Engine Unit Unit where
  handlers :=
    { normal := fun _ _ s => (.ok true, s)
      power := fun _ _ s => (.ok true, s)
      setup := fun _ _ s => (.ok true, s)
      external := fun _ args s => (.ok (args.get "region" ≠ "us"), s)
      notify := fun _ w => w }
  bootstrap := ""
  stepLimit := 10

/-- A machine with the sample tree and a fresh session. -/
def freshMachine : Machine Unit Unit :=
  ⟨CommandTree.sampleTree, Env.newSession, [], ()⟩

/-- A script of three calls, of which the second fails. -/
def refusedScript : List String := ["d.p", ":", "d.p\x7br=us\x7d", ":", "d.p"]

/-- What a sequence for the sample command is read as. -/
def deployItems (env : List PathItem) : List PathItem :=
  [.command ⟨"deploy", ⟨1⟩⟩, .separator, .command ⟨"prod", ⟨2⟩⟩] ++ env

/-- The invocations of the script. -/
def refusedPlan : Plan :=
  [.ofItems (deployItems []),
   .ofItems (deployItems [.env (.ofList [("region", ⟨"us", true⟩)])]),
   .ofItems (deployItems [])]

theorem readInvocation_refusedScript :
    (Breaker.standard.sequences refusedScript).groups.map (freshMachine.tree.readInvocation ·) =
      refusedPlan.map .ok := by
  have hgroups : (Breaker.standard.sequences refusedScript).groups =
      [["d.p"], ["d.p\x7br=us\x7d"], ["d.p"]] := by decide +kernel
  have hread (tokens : List String) (items : List PathItem)
      (h : (Walk.start tokens).runWithin CommandTree.sampleTree 20 = some (.ok items)) :
      freshMachine.tree.readInvocation tokens = .ok (.ofItems items) := by
    rw [freshMachine, CommandTree.readInvocation, CommandTree.readItems, Walk.run_of_runWithin h]
    rfl
  have hplain := hread ["d.p"] (deployItems []) (by decide +kernel)
  have hassigned := hread ["d.p\x7br=us\x7d"]
    (deployItems [.env (.ofList [("region", ⟨"us", true⟩)])]) (by decide +kernel)
  rw [hgroups]
  simp only [List.map_cons, List.map_nil, refusedPlan, hplain, hassigned]

/-- The first two calls are made, and the second is the last. -/
theorem runTokens_disciplined_refused :
    ∃ ds : List (Dispatch Unit),
      (refusingEngine.recorded.runTokens refusedScript (freshMachine.recording [])).2.world.2 =
        ds.flatMap Dispatch.occurrences ∧
      ds.map (·.invocation) <+: refusedPlan ∧
      ds.map (·.after.phase) = [.after true, .after false] ∧
      (refusingEngine.runTokens refusedScript freshMachine).1 =
        .error (.commandFailed "deploy.prod") := by
  have his : freshMachine.tree.readInvocations
      (Breaker.standard.sequences refusedScript).groups = .ok refusedPlan :=
    CommandTree.readInvocations_eq_ok_iff.2 readInvocation_refusedScript
  have hparse : parse freshMachine refusedScript = .ok (.ofCommands refusedPlan) := by
    have hhoist : Flow.hoist refusedPlan = .ofCommands refusedPlan := rfl
    rw [parse, CommandTree.readFlow_of_ok his, hhoist, ite_self]
  have hphases : (refusingEngine.performed refusedScript freshMachine).map (·.after.phase) =
      [.after true, .after false] := by
    rw [performed, hparse]
    decide +kernel
  have hfailed : (refusingEngine.runTokens refusedScript freshMachine).1 =
      .error (.commandFailed "deploy.prod") := by
    rw [runTokens, hparse]
    rfl
  have hsequences : ∀ s ∈ (Breaker.standard.sequences refusedScript).groups,
      ∃ i, freshMachine.tree.readInvocation s = .ok i :=
    CommandTree.readable_of_readInvocations his
  have hplan : planOf (.ofCommands refusedPlan) freshMachine.tree = refusedPlan := by
    decide +kernel
  have hpower : refusedPlan.all fun i =>
      (executable? freshMachine.tree i).all (!·.isPower) := by
    decide +kernel
  obtain ⟨flow, hflow, hlog, -, hplain⟩ :=
    (runTokens_disciplined refusingEngine refusedScript freshMachine).2 hsequences
      (by simp [hfailed]) (by simp [hfailed])
  obtain rfl : flow = .ofCommands refusedPlan := Except.ok.inj (hflow.symm.trans hparse)
  obtain ⟨hinitial, -⟩ := hplain (fun _ _ _ t _ => .refl t) (by
    intro i hi x hx
    simpa [hx] using List.all_eq_true.1 hpower i (hplan ▸ hi))
  exact ⟨_, by rw [hlog]; rfl, hplan ▸ hinitial, hphases, hfailed⟩

end Engine

end FlowScript
