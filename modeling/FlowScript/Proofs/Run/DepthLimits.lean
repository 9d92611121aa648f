import FlowScript.Proofs.Env.Counting
import FlowScript.Proofs.Run.Depth

/-!
# Where the depth leaves its range

An execution changes the depth twice: it raises it before the user's script and lowers it after. The
depth is text that any script may have written, so it may be any counter both times. Two counters
cannot be changed: the greatest when it is raised and the least when it is lowered. An execution
runs out of range at these two and where a power action leaves the cursor at its end, and nowhere
else (`execute_overflow_iff`).
-/

namespace FlowScript

variable {α σ : Type}

/-! ## The cursor -/

theorem Position.next?_eq_none_iff {pos : Position} :
    pos.next? = none ↔ pos.plan.length < pos.cursor ∧ pos.cursor = maxCursor := by
  simp [next?]

/-- A call succeeds and leaves the cursor past the plan, at the greatest value it can have. -/
structure Dispatch.Overruns (d : Dispatch α) : Prop where
  succeeded : d.call.verdict = .ok true
  past : d.after.position.plan.length < d.after.position.cursor
  greatest : d.after.position.cursor = Position.maxCursor

namespace Engine

variable (e : Engine α σ)

theorem dispatched_overruns_iff (x : Executable α) (i : Invocation) (pos : Position)
    (m : Machine α σ) :
    (e.dispatched x i pos m).Overruns ↔
      (e.dispatch x i pos m).1 = .ok true ∧ (e.dispatch x i pos m).2.1.next? = none := by
  rw [Position.next?_eq_none_iff]
  constructor
  · rintro ⟨hok, hpast, hgreatest⟩
    exact ⟨hok, hpast, hgreatest⟩
  · rintro ⟨hok, hpast, hgreatest⟩
    exact ⟨hok, hpast, hgreatest⟩

/-- A walk runs out of range exactly if one of its calls leaves the cursor where it cannot go on. -/
theorem walk_overflow_iff (fuel : Nat) (pos : Position) (m : Machine α σ) :
    (e.walk fuel pos m).1 = .error .overflow ↔ ∃ d ∈ e.dispatches fuel pos m, d.Overruns := by
  induction fuel generalizing pos m with
  | zero => simp [walk, dispatches]
  | succ fuel ih =>
    simp only [walk, dispatches]
    cases hi : pos.plan[pos.cursor]? with
    | none => simp
    | some i =>
      cases hx : executable? m.tree i with
      | none => simpa [hx] using ih ⟨pos.plan, pos.cursor + 1⟩ m
      | some x =>
        have hhere := e.dispatched_overruns_iff x i pos m
        simp only [hx]
        rcases hdispatch : e.dispatch x i pos m with ⟨cause | _ | _, pos', m'⟩ <;>
          simp only [hdispatch] at hhere ⊢
        · simp [hhere]
        · simp [hhere]
        · cases hnext : pos'.next? with
          | none => simp [hhere, hnext]
          | some next => simp [hhere, hnext, ih]

/-- Some call of a script leaves the cursor where it cannot go on. -/
def Overruns (r : ScriptRun α σ) : Prop :=
  ∃ d ∈ e.performed r.tokens r.machine, d.Overruns

variable {e}

theorem runTokens_overflow_iff {r : ScriptRun α σ} :
    (e.runTokens r.tokens r.machine).1 = .error .overflow ↔ e.Overruns r := by
  cases hparse : parse r.machine r.tokens with
  | error err =>
    rw [Overruns, runTokens, performed, hparse]
    simp
  | ok flow =>
    obtain ⟨hrun, hperformed⟩ := e.runTokens_eq_walk hparse
    rw [Overruns, hrun, hperformed, walk_overflow_iff]

theorem runText_overflow_iff (text : String) (m : Machine α σ) :
    (e.runText text m).1 = .error .overflow ↔ ∃ r ∈ textRuns text m, e.Overruns r := by
  rw [runText, textRuns]
  split
  · simp
  · cases Text.ShellWords.split? text with
    | none => simp
    | some tokens => simpa using runTokens_overflow_iff (r := ⟨tokens, m⟩)

theorem startup_overflow_iff {m : Machine α σ} :
    (e.startup m).1 = .error .overflow ↔ ∃ r ∈ e.startupRuns m, e.Overruns r := by
  have hfixed := runText_overflow_iff (e := e) e.bootstrap m
  simp only [startupRuns, List.mem_append, or_and_right, exists_or, ← hfixed]
  rw [startup]
  rcases e.runText e.bootstrap m with ⟨err | _, m₁⟩
  · simp [andThen]
  · simpa [andThen, runSessionBootstrap] using
      runText_overflow_iff (m₁.session.text bootstrapKey) m₁

/-! ## Raising and lowering -/

theorem adjustDepth_of_least {session : Env} (h : depth? session = some Text.Integer.least) :
    adjustDepth session (-1) = .error .overflow := by
  rw [adjustDepth_of_depth? h, if_neg (by decide)]

theorem fits_pred {d : Int} (hd : Text.Integer.fits d = true) (hlt : Text.Integer.least < d) :
    Text.Integer.fits (d - 1) = true := by
  simp only [Text.Integer.fits, Bool.and_eq_true, decide_eq_true_eq] at hd ⊢
  omega

theorem depth?_setCounter (session : Env) {n : Int} (hn : Text.Integer.fits n = true) :
    depth? (session.setCounter depthKey n) = some n := by
  rw [depth?, own?_setCounter]
  exact Text.Integer.read?_write hn

/-- A depth above the least is lowered by one. -/
theorem restoreDepth_of_depth? {r : Result α σ} {d : Int} (h : depth? r.2.session = some d)
    (hlt : Text.Integer.least < d) :
    restoreDepth r = (r.1, { r.2 with session := r.2.session.setCounter depthKey (d - 1) }) := by
  have hfits : Text.Integer.fits (d + -1) = true := fits_pred (fits_of_depth? h) hlt
  rw [restoreDepth, adjustDepth_of_depth? h, if_pos hfits]
  rfl

theorem restoreDepth_of_not_integer {r : Result α σ} {s : String}
    (hown : r.2.session.own? depthKey = some s) (hs : Text.Integer.read? s = none) :
    restoreDepth r = r := by
  rw [restoreDepth, adjustDepth_of_not_integer hown hs]

theorem restoreDepth_of_least {r : Result α σ}
    (h : depth? r.2.session = some Text.Integer.least) :
    restoreDepth r = (.error .overflow, r.2) := by
  rw [restoreDepth, adjustDepth_of_least h]

theorem lowering_cases (session : Env) :
    (∃ d, depth? session = some d ∧ Text.Integer.least < d) ∨
    depth? session = some Text.Integer.least ∨
    ∃ s, session.own? depthKey = some s ∧ Text.Integer.read? s = none := by
  rcases depth_cases session with ⟨d, hdepth, -⟩ | hfull | hnot
  · have hfits := fits_of_depth? hdepth
    simp only [Text.Integer.fits, Bool.and_eq_true, decide_eq_true_eq] at hfits
    rcases Int.lt_or_eq_of_le hfits.1 with hlt | heq
    · exact .inl ⟨d, hdepth, hlt⟩
    · exact .inr (.inl (heq ▸ hdepth))
  · exact .inl ⟨_, hfull, by decide⟩
  · exact .inr (.inr hnot)

theorem restoreDepth_overflow_iff {r : Result α σ} :
    (restoreDepth r).1 = .error .overflow ↔
      depth? r.2.session = some Text.Integer.least ∨ r.1 = .error .overflow := by
  rcases lowering_cases r.2.session with ⟨d, hdepth, hlt⟩ | hleast | ⟨s, hown, hs⟩
  · have hne : d ≠ Text.Integer.least := fun heq => Int.lt_irrefl _ (heq ▸ hlt)
    simp [restoreDepth_of_depth? hdepth hlt, hdepth, hne]
  · simp [restoreDepth_of_least hleast, hleast]
  · have hnone : depth? r.2.session = none := by rw [depth?, hown]; exact hs
    simp [restoreDepth_of_not_integer hown hs, hnone]

theorem runNested_of_raised {script : List String} {m : Machine α σ} {d : Int}
    (h : depth? m.session = some d) (hlt : d < Text.Integer.greatest) :
    e.runNested script m = restoreDepth (e.runTokens script (deeper m d)) := by
  rw [runNested, adjustDepth_of_depth? h, if_pos (fits_succ (fits_of_depth? h) hlt)]
  rfl

theorem runNested_overflow_iff {script : List String} {m : Machine α σ} :
    (e.runNested script m).1 = .error .overflow ↔
      depth? m.session = some Text.Integer.greatest ∨
      ∃ r ∈ nestedRuns script m,
        depth? (e.runTokens r.tokens r.machine).2.session = some Text.Integer.least ∨
        e.Overruns r := by
  rcases depth_cases m.session with ⟨d, hdepth, hlt⟩ | hfull | ⟨s, hown, hs⟩
  · have hne : d ≠ Text.Integer.greatest := fun heq => Int.lt_irrefl _ (heq ▸ hlt)
    have hscript := runTokens_overflow_iff (e := e) (r := ⟨script, deeper m d⟩)
    simp [runNested_of_raised hdepth hlt, nestedRuns_of_depth? script hdepth hlt,
      restoreDepth_overflow_iff, hdepth, hne, ← hscript]
  · simp [runNested, adjustDepth_of_greatest hfull, hfull]
  · have hnone : depth? m.session = none := by rw [depth?, hown]; exact hs
    simp [runNested, nestedRuns, adjustDepth_of_not_integer hown hs, hnone]

/-! ## The depth and other counters -/

/-- What a change of the depth would come to if the depth were added to like any other counter in
the session's own layer. -/
def tallied (session : Env) (delta : Int) : Except FlowError Env :=
  match (⟨session.own, []⟩ : Env).tally depthKey delta with
  | (.ok _, after) => .ok { session with own := after.own }
  | (.error err, _) => .error (.env err)

theorem keptCounter?_own (session : Env) :
    (⟨session.own, []⟩ : Env).keptCounter? depthKey = depth? session := by
  have hentry : Env.counterEntry? ⟨session.own, []⟩ depthKey = session.own.get? depthKey := by
    rw [← Env.value?_eq_counterEntry?, Env.value?_eq_or]
    exact Option.or_none
  rw [Env.keptCounter?, hentry, depth?, Env.own?]
  cases session.own.get? depthKey <;> rfl

theorem own_putCounter (l : Layer) (key : String) (n : Int) :
    ((⟨l, []⟩ : Env).putCounter key n).own = l.set key ⟨Text.Integer.write n, false⟩ := by
  have hplace : (⟨l, []⟩ : Env).counterPlace key = 0 :=
    Nat.lt_one_iff.1 ((⟨l, []⟩ : Env).counterPlace_lt key)
  have hlayers := (⟨l, []⟩ : Env).layers_putCounter key n
  rw [hplace] at hlayers
  exact (List.cons.inj hlayers).1

theorem tallied_of_depth? {session : Env} {n : Int} (h : depth? session = some n) (delta : Int) :
    tallied session delta =
      if Text.Integer.fits (n + delta) then .ok (session.setCounter depthKey (n + delta))
      else .error (.env (.overflow depthKey delta)) := by
  have hkept := (keptCounter?_own session).trans h
  cases hfits : Text.Integer.fits (n + delta) with
  | true =>
    simp only [tallied, Env.tally_of_fits hkept hfits, own_putCounter]
    rfl
  | false =>
    rw [tallied, Env.tally_of_not_fits hkept hfits]
    rfl

theorem tallied_of_not_integer {session : Env} {s : String}
    (hown : session.own? depthKey = some s) (hs : Text.Integer.read? s = none) (delta : Int) :
    tallied session delta = .error (.env (.notAnInteger depthKey s)) := by
  have hnone : depth? session = none := by rw [depth?, hown]; exact hs
  obtain ⟨v, hv, htally⟩ := Env.tally_of_not_kept ((keptCounter?_own session).trans hnone) delta
  rw [← Env.value?_eq_counterEntry?, Env.value?_eq_or, Env.outerValue?, List.findSome?_nil,
    Option.or_none] at hv
  obtain rfl : v.raw = s := by simpa [Env.own?, hv] using hown
  rw [tallied, htally]

/-- The depth is changed like any other counter, but a sum that is out of range is not reported. -/
theorem adjustDepth_eq_tallied (session : Env) (delta : Int) :
    adjustDepth session delta = tallied session delta ∨
    adjustDepth session delta = .error .overflow ∧
      tallied session delta = .error (.env (.overflow depthKey delta)) := by
  cases hdepth : depth? session with
  | none =>
    cases hown : session.own? depthKey with
    | none => simp [depth?, hown] at hdepth
    | some s =>
      have hs : Text.Integer.read? s = none := by simpa [depth?, hown] using hdepth
      rw [adjustDepth_of_not_integer hown hs, tallied_of_not_integer hown hs]
      exact .inl rfl
  | some n =>
    rw [adjustDepth_of_depth? hdepth, tallied_of_depth? hdepth]
    cases Text.Integer.fits (n + delta) with
    | true => exact .inl rfl
    | false => exact .inr ⟨rfl, rfl⟩

/-! ## Executions -/

section Execution

variable {script : List String} {extra : Assignments} {m : Machine α σ}

/-- If the user's script is run, the execution is that run with the depth lowered again. -/
theorem execute_of_mem_userRuns {r : ScriptRun α σ} (h : r ∈ e.userRuns script (m.merged extra)) :
    e.execute script extra m = restoreDepth (e.runTokens r.tokens r.machine) := by
  rw [userRuns] at h
  rcases hstart : e.startup (m.merged extra) with ⟨err | _, m₁⟩
  · simp [hstart] at h
  · rw [hstart] at h
    rw [(execute_of_startup hstart).1]
    rcases depth_cases m₁.session with ⟨d, hdepth, hlt⟩ | hfull | ⟨s, hown, hs⟩
    · simp only [nestedRuns_of_depth? script hdepth hlt, List.mem_singleton] at h
      rw [runNested_of_raised hdepth hlt, h]
    · simp [nestedRuns, adjustDepth_of_greatest hfull] at h
    · simp [nestedRuns, adjustDepth_of_not_integer hown hs] at h

/-- An execution runs out of range exactly if the depth before the user's script is the greatest,
the depth after it is the least, or a call leaves the cursor where it cannot go on. -/
theorem execute_overflow_iff :
    (e.execute script extra m).1 = .error .overflow ↔
      (∃ m₁, e.startup (m.merged extra) = (.ok (), m₁) ∧
        depth? m₁.session = some Text.Integer.greatest) ∨
      (∃ r ∈ e.userRuns script (m.merged extra),
        depth? (e.runTokens r.tokens r.machine).2.session = some Text.Integer.least) ∨
      ∃ r ∈ e.startupRuns (m.merged extra) ++ e.userRuns script (m.merged extra), e.Overruns r := by
  have hstartup := startup_overflow_iff (e := e) (m := m.merged extra)
  simp only [List.mem_append, or_and_right, exists_or, ← hstartup]
  rcases hstart : e.startup (m.merged extra) with ⟨err | _, m₁⟩
  · -- no user's script, so the outcome is that of the start scripts
    simp [execute_eq, userRuns, hstart, andThen]
  · obtain ⟨hexecute, hruns⟩ : e.execute script extra m = _ ∧ _ := execute_of_startup hstart
    rw [hexecute, hruns, runNested_overflow_iff]
    simp only [and_or_left, exists_or, Prod.mk.injEq, true_and, exists_eq_left']
    simp

variable (e script extra m)

/-- What an execution makes of a depth that may be any text when it raises it and when it lowers
it. -/
structure LimitsDepth : Prop where
  /-- A depth below the greatest is one greater while the user's script runs. -/
  raised : ∀ m₁ d, e.startup (m.merged extra) = (.ok (), m₁) → depth? m₁.session = some d →
    d < Text.Integer.greatest →
    e.userRuns script (m.merged extra) = [⟨script, deeper m₁ d⟩] ∧
    depth? (deeper m₁ d).session = some (d + 1)
  /-- If it is no counter, this is reported and the script is not run. -/
  not_raised : ∀ m₁ s, e.startup (m.merged extra) = (.ok (), m₁) →
    m₁.session.own? depthKey = some s → Text.Integer.read? s = none →
    e.execute script extra m = (.error (.env (.notAnInteger depthKey s)), m₁) ∧
    e.userRuns script (m.merged extra) = []
  /-- A depth above the least is one less after the script, which need not be what it was before. -/
  lowered : ∀ r ∈ e.userRuns script (m.merged extra), ∀ d,
    depth? (e.runTokens r.tokens r.machine).2.session = some d → Text.Integer.least < d →
    (e.execute script extra m).1 = (e.runTokens r.tokens r.machine).1 ∧
    depth? (e.execute script extra m).2.session = some (d - 1)
  /-- If it is no counter then, the run is left as it is. -/
  not_lowered : ∀ r ∈ e.userRuns script (m.merged extra), ∀ s,
    (e.runTokens r.tokens r.machine).2.session.own? depthKey = some s →
    Text.Integer.read? s = none → e.execute script extra m = e.runTokens r.tokens r.machine
  /-- Every session's depth is changed like any other counter, if the sum is one. -/
  alike : ∀ session delta, adjustDepth session delta = tallied session delta ∨
    adjustDepth session delta = .error .overflow ∧
      tallied session delta = .error (.env (.overflow depthKey delta))
  /-- The range is left at the greatest depth, at the least and at the end of the cursor. -/
  overflow_iff : (e.execute script extra m).1 = .error .overflow ↔
    (∃ m₁, e.startup (m.merged extra) = (.ok (), m₁) ∧
      depth? m₁.session = some Text.Integer.greatest) ∨
    (∃ r ∈ e.userRuns script (m.merged extra),
      depth? (e.runTokens r.tokens r.machine).2.session = some Text.Integer.least) ∨
    ∃ r ∈ e.startupRuns (m.merged extra) ++ e.userRuns script (m.merged extra), e.Overruns r

/-- Of all depths only the greatest and the least make an execution run out of range. -/
theorem execute_limits_depth : e.LimitsDepth script extra m where
  raised m₁ d hstart hdepth hlt :=
    ⟨userRuns_of_depth? hstart hdepth hlt,
      depth?_setCounter m₁.session (fits_succ (fits_of_depth? hdepth) hlt)⟩
  not_raised m₁ s hstart hown hs :=
    execute_of_error hstart (adjustDepth_of_not_integer hown hs 1)
  lowered r hr d hdepth hlt := by
    rw [execute_of_mem_userRuns hr, restoreDepth_of_depth? hdepth hlt]
    exact ⟨rfl, depth?_setCounter _ (fits_pred (fits_of_depth? hdepth) hlt)⟩
  not_lowered r hr s hown hs := by
    rw [execute_of_mem_userRuns hr, restoreDepth_of_not_integer hown hs]
  alike := adjustDepth_eq_tallied
  overflow_iff := execute_overflow_iff

end Execution

/-- Extra values with the greatest depth. -/
def greatestExtra : Assignments :=
  .ofList [(depthKey, ⟨"9223372036854775807", false⟩)]

/-- A script that sets the least depth for itself. -/
def leastScript : List String :=
  ["\x7bsys.stack-depth=-9223372036854775808\x7d", ":", "d.p"]

/-- What the script is read as. -/
def leastFlow : Flow where
  commands := [⟨[]⟩, .ofItems (deployItems [])]
  globalEnv := some (.ofList [(depthKey, ⟨"-9223372036854775808", false⟩)])
  globalIndex := some 0

theorem parse_leastScript : parse (deeper freshMachine 0) leastScript = .ok leastFlow := by
  let items : List (List PathItem) :=
    [[.env (.ofList [(depthKey, ⟨"-9223372036854775808", false⟩)])], deployItems []]
  have hitems : (Breaker.standard.sequences leastScript).groups.map
      (fun s => (Walk.start s).runWithin (deeper freshMachine 0).tree 20) =
      items.map fun i => some (.ok i) := by
    decide +kernel
  have hglobal : (Breaker.standard.sequences leastScript).opensGlobal = true := by decide +kernel
  rw [parse, CommandTree.readFlow_of_runWithin hitems, hglobal, if_pos rfl]
  decide +kernel

/-- Without start scripts the start changes nothing. -/
theorem startup_refusingEngine {m : Machine Unit Unit} (h : m.session.text bootstrapKey = "") :
    refusingEngine.startup m = (.ok (), m) := by
  have hfixed : refusingEngine.runText refusingEngine.bootstrap m = (.ok (), m) := rfl
  rw [startup, hfixed, andThen, runSessionBootstrap, h]
  rfl

/-- An execution runs out of range on the depth that it is given, and on one that its script leaves,
where another counter would be reported; the script itself ends well. -/
theorem execute_depth_unreported :
    (refusingEngine.execute ["d.p"] greatestExtra freshMachine).1 = .error .overflow ∧
    tallied (freshMachine.merged greatestExtra).session 1 =
      .error (.env (.overflow depthKey 1)) ∧
    (refusingEngine.runTokens leastScript (deeper freshMachine 0)).1 = .ok () ∧
    (refusingEngine.execute leastScript ∅ freshMachine).1 = .error .overflow ∧
    tallied (refusingEngine.runTokens leastScript (deeper freshMachine 0)).2.session (-1) =
      .error (.env (.overflow depthKey (-1))) := by
  have hgreatest : depth? (freshMachine.merged greatestExtra).session =
      some Text.Integer.greatest := by decide +kernel
  have hstart : refusingEngine.startup (freshMachine.merged greatestExtra) =
      (.ok (), freshMachine.merged greatestExtra) := startup_refusingEngine (by decide +kernel)
  have hmerged : freshMachine.merged ∅ = freshMachine := rfl
  have hfresh : refusingEngine.startup freshMachine = (.ok (), freshMachine) :=
    startup_refusingEngine (by decide +kernel)
  have hzero : depth? freshMachine.session = some 0 := by decide +kernel
  have huser : ⟨leastScript, deeper freshMachine 0⟩ ∈
      refusingEngine.userRuns leastScript (freshMachine.merged ∅) := by
    rw [hmerged, userRuns, hfresh]
    simp only [nestedRuns_of_depth? leastScript hzero (by decide), List.mem_singleton]
  have hleast : depth? (refusingEngine.runTokens leastScript (deeper freshMachine 0)).2.session =
      some Text.Integer.least := by
    rw [runTokens, parse_leastScript]
    decide +kernel
  refine ⟨execute_overflow_iff.2 (.inl ⟨_, hstart, hgreatest⟩), ?_, ?_,
    execute_overflow_iff.2 (.inr (.inl ⟨_, huser, hleast⟩)), ?_⟩
  · rw [tallied_of_depth? hgreatest, if_neg (by decide)]
  · rw [runTokens, parse_leastScript]
    rfl
  · rw [tallied_of_depth? hleast, if_neg (by decide)]

end Engine

end FlowScript
