import FlowScript.Builtin.Handlers
import FlowScript.Proofs.Run.Recording

/-!
# Plans that are only shortened

The commands that skip and stop move in the plan by its cursor, but what they come to is recursion
on a list: after each invocation a part of the rest is left, and the run goes on with that. `follow`
is this recursion, and a walk comes to the same as long as no other power action is in the plan
(`walk_eq_follow`). So no invocation is dispatched twice, and one step for each is enough.
-/

namespace FlowScript

variable {α σ : Type}

/-- Power actions that stand for builtin commands do to the plan what those do. -/
def Handlers.SteerBy (h : Handlers α σ) (builtin? : α → Option Builtin) : Prop :=
  ∀ a b, builtin? a = some b → ∀ args env pos world,
    h.power a args (env, pos, world) =
      ((b.steer args pos).1, env, (b.steer args pos).2, world)

namespace ExecutableKind

/-- The builtin command that an executable of a kind steers by. -/
def steering? (builtin? : α → Option Builtin) : ExecutableKind α → Option Builtin
  | .power a => builtin? a
  | _ => none

/-- Whether executables of a kind leave the plan alone or else only skip or stop. -/
def onlyShortens (builtin? : α → Option Builtin) : ExecutableKind α → Bool
  | .power a => builtin? a = some .flowSkip || builtin? a = some .flowStop
  | _ => true

end ExecutableKind

/-- What is left of the rest of a plan after an executable that steers: nothing after a stop, and
after a skip what follows the given number of invocations. A count that is no integer or negative is
refused. -/
def Plan.remaining (steering : Option Builtin) (args : ArgVals) (rest : Plan) :
    Except Cause Plan :=
  match steering with
  | some .flowStop => .ok []
  | some .flowSkip =>
    match args.counter "count" with
    | .error err => .error (.ofEnvError err)
    | .ok n =>
      if n < 0 then .error (.ofText "skip count must not be negative")
      else .ok (rest.drop n.toNat)
  | _ => .ok rest

theorem Plan.remaining_sublist {steering : Option Builtin} {args : ArgVals} {rest left : Plan}
    (h : Plan.remaining steering args rest = .ok left) : left.Sublist rest := by
  unfold Plan.remaining at h
  split at h
  · cases h
    exact List.nil_sublist rest
  · split at h
    · cases h
    · split at h
      · cases h
      · cases h
        exact List.drop_sublist _ rest
  · cases h
    exact List.Sublist.refl rest

namespace Engine

variable (e : Engine α σ) (builtin? : α → Option Builtin)

/-- Goes through the rest of a plan by recursion: what is dispatched, and what the run comes to.
What has been passed only matters to those who are shown the plan. -/
def follow (passed rest : Plan) (m : Machine α σ) : List (Dispatch α) × Result α σ :=
  match rest with
  | [] => ([], .ok (), m)
  | i :: rest =>
    match executable? m.tree i with
    | none => follow (passed ++ [i]) rest m
    | some x =>
      let pos : Position := ⟨passed ++ i :: rest, passed.length⟩
      let args := resolveArgs x i.displayPath (callEnv m.session i)
      let d := e.dispatched x i pos m
      let (verdict, _, m') := e.dispatch x i pos m
      match _hleft : Plan.remaining (x.kind.steering? builtin?) args rest, verdict with
      | .error cause, _ => ([d], .error (.commandError i.displayPath cause), m')
      | .ok _, .error cause => ([d], .error (.commandError i.displayPath cause), m')
      | .ok _, .ok false => ([d], .error (.commandFailed i.displayPath), m')
      | .ok left, .ok true =>
        let (ds, result) := follow (passed ++ [i]) left m'
        (d :: ds, result)
termination_by rest.length
decreasing_by
  · simp
  · have := (Plan.remaining_sublist _hleft).length_le
    simp only [List.length_cons]
    omega

/-! ## One step -/

variable {e builtin?}

/-- A walk that goes on from a position has some invocations behind it and others left. At the end
of a plan the cursor may be anywhere behind it. -/
def GoesOn (pos : Position) (passed left : Plan) : Prop :=
  ∃ next, pos.next? = some next ∧
    (next = ⟨passed ++ left, passed.length⟩ ∨ left = [] ∧ next.plan.length ≤ next.cursor)

section GoesOn

variable (passed rest : Plan) (i : Invocation)

theorem goesOn_unmoved : GoesOn ⟨passed ++ i :: rest, passed.length⟩ (passed ++ [i]) rest :=
  ⟨_, next?_at passed rest i, .inl rfl⟩

theorem goesOn_skip (count : Nat) :
    GoesOn (Builtin.skip count ⟨passed ++ i :: rest, passed.length⟩) (passed ++ [i])
      (rest.drop count) := by
  have hskip : Builtin.skip count ⟨passed ++ i :: rest, passed.length⟩ =
      ⟨passed ++ i :: rest.drop count, passed.length⟩ := by
    have hsplit : passed ++ i :: rest = (passed ++ [i]) ++ rest := by simp
    have hlength : passed.length + 1 = (passed ++ [i]).length := by simp
    simp only [Builtin.skip, hlength, hsplit, List.take_left, List.drop_length_add_append]
    simp
  rw [hskip]
  exact goesOn_unmoved passed (rest.drop count) i

theorem goesOn_stop (pos : Position) : GoesOn (Builtin.stop pos) (passed ++ [i]) [] := by
  refine ⟨⟨pos.plan, pos.plan.length + 1⟩, ?_, .inr ⟨rfl, Nat.le_succ _⟩⟩
  simp [Position.next?, Builtin.stop]

/-- Skipping and stopping leave what remains, or refuse the count. -/
theorem steer_remaining {b : Builtin} (hb : b = .flowSkip ∨ b = .flowStop) (args : ArgVals) :
    let steered := b.steer args ⟨passed ++ i :: rest, passed.length⟩
    (∀ cause, Plan.remaining (some b) args rest = .error cause → steered.1 = .error cause) ∧
    ∀ left, Plan.remaining (some b) args rest = .ok left →
      GoesOn steered.2 (passed ++ [i]) left := by
  rcases hb with rfl | rfl
  · simp only [Plan.remaining, Builtin.steer]
    cases args.counter "count" with
    | error err => simp
    | ok n =>
      by_cases hn : n < 0
      · simp [if_pos hn, Builtin.refuse]
      · simp [if_neg hn, goesOn_skip]
  · simp [Plan.remaining, Builtin.steer, goesOn_stop]

/-- What an executable that at most skips or stops comes to. -/
theorem dispatch_remaining (hs : e.handlers.SteerBy builtin?) {x : Executable α}
    (hx : x.kind.onlyShortens builtin? = true) (m : Machine α σ) :
    let result := e.dispatch x i ⟨passed ++ i :: rest, passed.length⟩ m
    let remaining := Plan.remaining (x.kind.steering? builtin?)
      (resolveArgs x i.displayPath (callEnv m.session i)) rest
    (∀ cause, remaining = .error cause → result.1 = .error cause) ∧
    ∀ left, remaining = .ok left → GoesOn result.2.1 (passed ++ [i]) left := by
  cases hkind : x.kind with
  | normal | setup | external =>
    have hpower : x.isPower = false := by simp only [Executable.isPower, hkind]
    simp only [ExecutableKind.steering?, Plan.remaining, dispatch_position e hpower]
    simp [goesOn_unmoved]
  | power a =>
    obtain ⟨b, hab, hb⟩ : ∃ b, builtin? a = some b ∧ (b = .flowSkip ∨ b = .flowStop) := by
      have hor : builtin? a = some .flowSkip ∨ builtin? a = some .flowStop := by
        simpa [hkind, ExecutableKind.onlyShortens] using hx
      rcases hor with hb | hb
      · exact ⟨_, hb, .inl rfl⟩
      · exact ⟨_, hb, .inr rfl⟩
    simp only [hkind, ExecutableKind.steering?, hab, dispatch, call, hs a b hab]
    exact steer_remaining passed rest i hb _

end GoesOn

/-! ## The whole plan -/

/-- Nothing is dispatched behind the end of a plan. -/
theorem walk_end (e : Engine α σ) {pos : Position} (h : pos.plan.length ≤ pos.cursor) {fuel : Nat}
    (hfuel : 0 < fuel) (m : Machine α σ) :
    e.walk fuel pos m = (.ok (), m) ∧ e.dispatches fuel pos m = [] := by
  obtain ⟨fuel, rfl⟩ := Nat.exists_eq_succ_of_ne_zero (Nat.ne_of_gt hfuel)
  simp [walk, dispatches, List.getElem?_eq_none h]

/-- A walk and the recursion dispatch the same and come to the same. -/
theorem walk_eq_follow (hs : e.handlers.SteerBy builtin?) (hk : e.handlers.KeepCommands)
    (passed : Plan) {rest : Plan} {m : Machine α σ} {fuel : Nat} (hfuel : rest.length < fuel)
    (hrest : Runnable (ExecutableKind.onlyShortens builtin?) m.tree rest) :
    e.walk fuel ⟨passed ++ rest, passed.length⟩ m = (e.follow builtin? passed rest m).2 ∧
    e.dispatches fuel ⟨passed ++ rest, passed.length⟩ m = (e.follow builtin? passed rest m).1 := by
  obtain ⟨fuel, rfl⟩ := Nat.exists_eq_succ_of_ne_zero (Nat.ne_of_gt (Nat.zero_lt_of_lt hfuel))
  fun_induction e.follow builtin? passed rest m generalizing fuel with
  | case1 passed m => exact walk_end e (by simp) (Nat.succ_pos fuel) m
  | case2 passed m i rest hx _ =>
    obtain ⟨x, hx', -⟩ := hrest.executable List.mem_cons_self
    simp [hx'] at hx
  | case3 passed m i rest x hx pos args d verdict pos' m' hdispatch cause hleft =>
    have hshortens := hrest.allowed_kind List.mem_cons_self hx
    have hverdict := (dispatch_remaining passed rest i hs hshortens m).1 cause hleft
    obtain rfl : verdict = .error cause := by rw [← hverdict, hdispatch]
    simp [walk, dispatches, hx, pos, d, hdispatch]
  | case4 passed m i rest x hx pos args d pos' m' left cause hleft hdispatch =>
    simp [walk, dispatches, hx, pos, d, hdispatch]
  | case5 passed m i rest x hx pos args d pos' m' left hleft hdispatch =>
    simp [walk, dispatches, hx, pos, d, hdispatch]
  | case6 passed m i rest x hx pos args d pos' m' left hleft ds result hfollow hdispatch ih =>
    have hshortens := hrest.allowed_kind List.mem_cons_self hx
    have hgo := (dispatch_remaining passed rest i hs hshortens m).2 left hleft
    have htree := e.dispatch_keeps hk x i pos m
    simp only [pos, hdispatch] at hgo htree
    have hsub := Plan.remaining_sublist hleft
    have hlong : left.length < fuel :=
      Nat.lt_of_le_of_lt hsub.length_le (Nat.lt_of_succ_lt_succ hfuel)
    have hleft' := hrest.kept htree (hsub.trans (List.sublist_cons_self i rest))
    obtain ⟨next, hnext, hcases⟩ := hgo
    have hstep : e.walk (fuel + 1) pos m = e.walk fuel next m' ∧
        e.dispatches (fuel + 1) pos m = d :: e.dispatches fuel next m' := by
      simp [walk, dispatches, hx, pos, d, hdispatch, hnext]
    rw [hstep.1, hstep.2]
    rcases hcases with rfl | ⟨rfl, hend⟩
    · obtain ⟨fuel, rfl⟩ := Nat.exists_eq_succ_of_ne_zero (Nat.ne_of_gt (Nat.zero_lt_of_lt hlong))
      simpa [hfollow] using ih hleft' fuel hlong
    · -- after a stop the cursor is not where the recursion has it, but nothing is left
      rw [follow] at hfollow
      cases hfollow
      simpa using walk_end e hend hlong m'

/-- The recursion dispatches invocations of the plan in their order. -/
theorem follow_sublist (e : Engine α σ) (builtin? : α → Option Builtin) (passed rest : Plan)
    (m : Machine α σ) :
    ((e.follow builtin? passed rest m).1.map (·.invocation)).Sublist rest := by
  fun_induction e.follow builtin? passed rest m with
  | case1 => simp
  | case2 _ _ i rest _ ih => exact ih.cons i
  | case3 | case4 | case5 => exact (List.nil_sublist _).cons_cons _
  | case6 passed m i rest x _ _ _ d _ _ left hleft ds result hfollow _ ih =>
    rw [hfollow] at ih
    exact (ih.trans (Plan.remaining_sublist hleft)).cons_cons i

/-- The recursion ends well or with an error of a command. -/
theorem follow_ends (e : Engine α σ) (builtin? : α → Option Builtin) (passed rest : Plan)
    (m : Machine α σ) :
    (e.follow builtin? passed rest m).2.1 ≠ .error .unfinished ∧
    (e.follow builtin? passed rest m).2.1 ≠ .error .overflow := by
  fun_induction e.follow builtin? passed rest m with
  | case2 _ _ _ _ _ ih => exact ih
  | case6 _ _ _ _ _ _ _ _ _ _ _ _ _ _ _ hfollow _ ih => rwa [hfollow] at ih
  | _ => simp

/-- A walk of a plan in which executables at most skip or stop is recursion on the plan: it sends
the same events, makes the same calls and comes to the same. It ends, and dispatches each invocation
of the plan at most once. -/
theorem walk_refines_recursion (hs : e.handlers.SteerBy builtin?) (hk : e.handlers.KeepCommands)
    {plan : Plan} {m : Machine α σ}
    (hplan : Runnable (ExecutableKind.onlyShortens builtin?) m.tree plan) {fuel : Nat}
    (hfuel : plan.length < fuel) :
    let followed := e.follow builtin? [] plan m
    e.walk fuel ⟨plan, 0⟩ m = followed.2 ∧
    e.recorded.walk fuel ⟨plan, 0⟩ (m.recording []) =
      (followed.2.1, followed.2.2.recording (followed.1.flatMap Dispatch.occurrences)) ∧
    followed.2.1 ≠ .error .unfinished ∧ followed.2.1 ≠ .error .overflow ∧
    (followed.1.map (·.invocation)).Sublist plan := by
  obtain ⟨hwalk, hdispatches⟩ := walk_eq_follow hs hk [] hfuel hplan
  simp only [List.nil_append, List.length_nil] at hwalk hdispatches
  obtain ⟨hfinished, hrange⟩ := follow_ends e builtin? [] plan m
  refine ⟨hwalk, ?_, hfinished, hrange, follow_sublist e builtin? [] plan m⟩
  rw [recorded_walk, hwalk, hdispatches, List.nil_append]

end Engine

/-! ## The builtin commands -/

namespace Builtin

theorem handlers_steerBy (external : String → ArgVals → Env × World → Verdict × Env × World)
    (notify : Event → World → World) : (handlers external notify).SteerBy some := by
  rintro a b ⟨⟩ args env pos world
  rfl

/-- Defining a command adds it and then attaches its line, which is not refused. -/
theorem run_defineLine (name line : String) (abbrs : List String) (t : CommandTree α) :
    (defineLine name line abbrs).run.run t =
      match Label.accept .command (t.displayPath CommandTree.root) (t.labelsBelow CommandTree.root)
          name abbrs with
      | .error e => (.error e, t)
      | .ok label => (.ok (), ⟨t.nodes ++ [⟨label, some CommandTree.root,
          some ⟨.external line, s!"Runs `{line}`.", [], false⟩⟩]⟩) := by
  rw [defineLine, Registration.run_addCommand_bind, CommandTree.addSub_eq]
  cases Label.accept .command (t.displayPath CommandTree.root) (t.labelsBelow CommandTree.root)
      name abbrs with
  | error e => rfl
  | ok label => exact Registration.perform_attach_push t label _ _ _

/-- Defining a command leaves the tree as it is or adds one node. -/
theorem define_eq (b : Builtin) (args : ArgVals) (t : CommandTree α) :
    (b.define args t).2 = t ∨ ∃ n, (b.define args t).2 = ⟨t.nodes ++ [n]⟩ := by
  unfold define
  split
  · split
    · exact .inl rfl
    · simp only [run_defineLine]
      cases Label.accept .command (t.displayPath CommandTree.root)
          (t.labelsBelow CommandTree.root) (args.get "name") (abbrsOf (args.get "abbr")) with
      | error e => exact .inl rfl
      | ok label => exact .inr ⟨_, rfl⟩
  · exact .inl rfl

theorem handlers_keepCommands (external : String → ArgVals → Env × World → Verdict × Env × World)
    (notify : Event → World → World) : (handlers external notify).KeepCommands := by
  intro b args env tree world
  change tree.Keeps (b.define args tree).2
  rcases define_eq b args tree with hsame | ⟨n, hadded⟩
  · rw [hsame]
    exact .refl tree
  · rw [hadded]
    exact .push tree n

/-- A machine with the builtin commands and nothing else. -/
def sampleMachine : Machine Builtin World where
  tree := (register id .empty).2
  session := Env.newSession
  inner := []
  world := ⟨Files.empty, ∅, "/", false, []⟩

/-- The engine of a quiet run where no program is found. -/
def sampleEngine : Engine Builtin World :=
  ⟨handlers (Programs.answerLine fun _ _ => .error .notFound) fun _ w => w, "", 10⟩

/-- Skips two that would fail, shows an empty line and stops before another that would fail. -/
def samplePlan : Plan :=
  let fail : Invocation := ⟨[⟨none, some ⟨"fail", ⟨6⟩⟩⟩]⟩
  [⟨[⟨some (.ofList [("flow.skip.count", ⟨"2", true⟩)]), some ⟨"flow", ⟨2⟩⟩⟩,
     ⟨none, some ⟨"skip", ⟨9⟩⟩⟩]⟩, fail, fail,
   ⟨[⟨none, some ⟨"echo", ⟨4⟩⟩⟩]⟩,
   ⟨[⟨none, some ⟨"flow", ⟨2⟩⟩⟩, ⟨none, some ⟨"stop", ⟨10⟩⟩⟩]⟩, fail]

/-- The run ends well, and of six invocations three are dispatched. -/
theorem walk_refines_recursion_skipping :
    ∃ (outcome : Except FlowError Unit) (m : Machine Builtin World)
      (ds : List (Dispatch Builtin)),
      sampleEngine.recorded.walk 10 ⟨samplePlan, 0⟩ (sampleMachine.recording []) =
        (outcome, m.recording (ds.flatMap Dispatch.occurrences)) ∧
      outcome.isOk = true ∧
      ds.map (·.invocation.displayPath) = ["flow.skip", "echo", "flow.stop"] := by
  have hplan :
      Engine.Runnable (ExecutableKind.onlyShortens some) sampleMachine.tree samplePlan := by
    decide +kernel
  have hlength : samplePlan.length < 10 := by decide
  obtain ⟨-, hrun, -⟩ := Engine.walk_refines_recursion (e := sampleEngine)
    (handlers_steerBy _ _) (handlers_keepCommands _ _) hplan hlength
  refine ⟨_, _, _, hrun, ?_, ?_⟩ <;> decide +kernel

end Builtin

end FlowScript
