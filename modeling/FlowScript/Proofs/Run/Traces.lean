import FlowScript.Proofs.Run.Isolation
import FlowScript.Proofs.Run.Phases

/-!
# Traces

All that a run does to its machine is to write assignments to the session, to count the depth there,
and to dispatch (`Trace`). Every run is a trace that dispatches at its visits (`trace_execute`), and
so are runs one after the other (`trace_serveAll`). What holds of every step of a trace then holds
of every run, and at each of its visits it holds of the trace up to there (`Trace.upTo`).
-/

namespace FlowScript

variable {α σ : Type}

namespace Engine

/-- From a machine to another with dispatches in between. -/
inductive Trace (e : Engine α σ) : Machine α σ → List (Visit α σ) → Machine α σ → Prop
  | done (m : Machine α σ) : Trace e m [] m
  | assign {m m' : Machine α σ} {vs : List (Visit α σ)} (a : Assignments)
      (h : Trace e (m.merged a) vs m') : Trace e m vs m'
  | count {m m' : Machine α σ} {vs : List (Visit α σ)} (n : Int)
      (h : Trace e { m with session := m.session.setCounter depthKey n } vs m') : Trace e m vs m'
  | dispatch {m' : Machine α σ} {vs : List (Visit α σ)} (v : Visit α σ) (hdue : v.IsDue)
      (h : Trace e (e.dispatchAt v).2.2 vs m') : Trace e v.machine (v :: vs) m'

namespace Trace

variable {e : Engine α σ} {m m' m'' : Machine α σ} {vs vs' : List (Visit α σ)}

theorem trans (h : e.Trace m vs m') (h' : e.Trace m' vs' m'') : e.Trace m (vs ++ vs') m'' := by
  induction h with
  | done => exact h'
  | assign a _ ih => exact .assign a (ih h')
  | count n _ ih => exact .count n (ih h')
  | dispatch v hdue _ ih => exact .dispatch v hdue (ih h')

/-- The trace up to one of its visits. -/
theorem upTo {v : Visit α σ} (h : e.Trace m (vs ++ v :: vs') m') : e.Trace m vs v.machine := by
  generalize hall : vs ++ v :: vs' = all at h
  induction h generalizing vs with
  | done => simp at hall
  | assign a _ ih => exact .assign a (ih hall)
  | count n _ ih => exact .count n (ih hall)
  | dispatch u hdue _ ih =>
    rcases List.append_eq_cons_iff.1 hall with ⟨rfl, heq⟩ | ⟨rest, rfl, heq⟩
    · obtain ⟨rfl, -⟩ := List.cons.inj heq
      exact .done _
    · exact .dispatch u hdue (ih heq.symm)

end Trace

variable (e : Engine α σ)

/-! ## One script -/

theorem trace_walk (fuel : Nat) (pos : Position) (m : Machine α σ) :
    e.Trace m (e.visits fuel pos m) (e.walk fuel pos m).2 := by
  induction fuel generalizing pos m with
  | zero => exact .done m
  | succ fuel ih =>
    simp only [visits, walk]
    cases hi : pos.plan[pos.cursor]? with
    | none => exact .done m
    | some i =>
      cases hx : executable? m.tree i with
      | none => simpa only [hx] using ih _ m
      | some x =>
        simp only [hx]
        have hstep {vs : List (Visit α σ)} {m' : Machine α σ}
            (h : e.Trace (e.dispatchAt ⟨x, i, pos, m⟩).2.2 vs m') :
            e.Trace m (⟨x, i, pos, m⟩ :: vs) m' :=
          .dispatch ⟨x, i, pos, m⟩ ⟨hi, hx⟩ h
        -- a failed call is the last one, and what it did to the machine stays
        simp only [dispatchAt] at hstep ⊢
        rcases hdispatch : e.dispatch x i pos m with ⟨cause | _ | _, pos', m'⟩ <;>
          simp only [hdispatch] at hstep ⊢
        · exact hstep (.done m')
        · exact hstep (.done m')
        · cases hnext : pos'.next? with
          | none => exact hstep (.done m')
          | some next => exact hstep (ih next m')

theorem trace_flow (flow : Flow) (m : Machine α σ) :
    e.Trace m (e.flowVisits flow m) (e.runFlow flow m).2 :=
  .assign (flow.globalEnv.getD ∅) (e.trace_walk _ _ _)

/-- Where a script dispatches. -/
def scriptVisits (r : ScriptRun α σ) : List (Visit α σ) :=
  match parse r.machine r.tokens with
  | .error _ => []
  | .ok flow => e.flowVisits flow r.machine

/-- Where scripts dispatch, one after the other. -/
def runVisits (runs : List (ScriptRun α σ)) : List (Visit α σ) :=
  runs.flatMap e.scriptVisits

theorem trace_tokens (tokens : List String) (m : Machine α σ) :
    e.Trace m (e.scriptVisits ⟨tokens, m⟩) (e.runTokens tokens m).2 := by
  rw [runTokens, scriptVisits]
  cases parse m tokens with
  | error err => exact .done m
  | ok flow => exact e.trace_flow flow m

/-! ## The scripts of an execution -/

theorem trace_text (text : String) (m : Machine α σ) :
    e.Trace m (e.runVisits (textRuns text m)) (e.runText text m).2 := by
  rw [runText, textRuns]
  split
  · exact .done m
  · cases Text.ShellWords.split? text with
    | none => exact .done m
    | some tokens => simpa [runVisits] using e.trace_tokens tokens m

theorem trace_startup (m : Machine α σ) :
    e.Trace m (e.runVisits (e.startupRuns m)) (e.startup m).2 := by
  have hfirst := e.trace_text e.bootstrap m
  rw [startup, startupRuns, runVisits, List.flatMap_append]
  rcases hrun : e.runText e.bootstrap m with ⟨err | _, m₁⟩
  · simpa [andThen, runVisits, hrun] using hfirst
  · rw [hrun] at hfirst
    exact hfirst.trans (e.trace_text _ m₁)

theorem setCounter_of_adjustDepth {session session' : Env} {delta : Int}
    (h : adjustDepth session delta = .ok session') :
    ∃ n, session' = session.setCounter depthKey n := by
  simp only [adjustDepth] at h
  split at h
  · cases h
  · split at h
    · exact ⟨_, (Except.ok.inj h).symm⟩
    · cases h

theorem trace_restoreDepth (r : Result α σ) : e.Trace r.2 [] (restoreDepth r).2 := by
  rw [restoreDepth]
  cases hdepth : adjustDepth r.2.session (-1) with
  | ok session =>
    obtain ⟨n, rfl⟩ := setCounter_of_adjustDepth hdepth
    exact .count n (.done _)
  | error err => cases err <;> exact .done _

theorem trace_nested (script : List String) (m : Machine α σ) :
    e.Trace m (e.runVisits (nestedRuns script m)) (e.runNested script m).2 := by
  rw [runNested, nestedRuns]
  cases hdepth : adjustDepth m.session 1 with
  | error err => exact .done m
  | ok session =>
    obtain ⟨n, rfl⟩ := setCounter_of_adjustDepth hdepth
    have hscript := e.trace_tokens script { m with session := m.session.setCounter depthKey n }
    exact .count n (by simpa [runVisits] using hscript.trans (e.trace_restoreDepth _))

/-- Where an execution dispatches. -/
def executeVisits (script : List String) (extra : Assignments) (m : Machine α σ) :
    List (Visit α σ) :=
  e.runVisits (e.startupRuns (m.merged extra) ++ e.userRuns script (m.merged extra))

theorem trace_execute (script : List String) (extra : Assignments) (m : Machine α σ) :
    e.Trace m (e.executeVisits script extra m) (e.execute script extra m).2 := by
  refine .assign extra ?_
  have hstartup := e.trace_startup (m.merged extra)
  rw [execute_eq, executeVisits, runVisits, List.flatMap_append, userRuns]
  rcases hrun : e.startup (m.merged extra) with ⟨err | _, m₁⟩
  · simpa [andThen, runVisits, hrun] using hstartup
  · rw [hrun] at hstartup
    exact hstartup.trans (e.trace_nested script m₁)

/-! ## Runs one after the other -/

/-- What an engine is asked to run. -/
inductive Request where
  | execution (script : List String) (extra : Assignments)
  | script (tokens : List String)
  | flow (flow : Flow)

/-- The machine after a request, whether it ended well or not. -/
def serve (r : Request) (m : Machine α σ) : Machine α σ :=
  match r with
  | .execution script extra => (e.execute script extra m).2
  | .script tokens => (e.runTokens tokens m).2
  | .flow flow => (e.runFlow flow m).2

/-- Where a request makes the engine dispatch. -/
def requestVisits (r : Request) (m : Machine α σ) : List (Visit α σ) :=
  match r with
  | .execution script extra => e.executeVisits script extra m
  | .script tokens => e.scriptVisits ⟨tokens, m⟩
  | .flow flow => e.flowVisits flow m

theorem trace_serve (r : Request) (m : Machine α σ) :
    e.Trace m (e.requestVisits r m) (e.serve r m) := by
  cases r with
  | execution script extra => exact e.trace_execute script extra m
  | script tokens => exact e.trace_tokens tokens m
  | flow flow => exact e.trace_flow flow m

/-- The machine after requests, one after the other. -/
def serveAll (rs : List Request) (m : Machine α σ) : Machine α σ :=
  rs.foldl (fun m r => e.serve r m) m

/-- Where requests make the engine dispatch, one after the other. -/
def allVisits : List Request → Machine α σ → List (Visit α σ)
  | [], _ => []
  | r :: rs, m => e.requestVisits r m ++ allVisits rs (e.serve r m)

theorem trace_serveAll (rs : List Request) (m : Machine α σ) :
    e.Trace m (e.allVisits rs m) (e.serveAll rs m) := by
  induction rs generalizing m with
  | nil => exact .done m
  | cons r rs ih => exact (e.trace_serve r m).trans (ih (e.serve r m))

end Engine

end FlowScript
