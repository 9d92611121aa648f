import FlowScript.Proofs.Run.Discipline

/-!
# The scripts of an execution

An execution runs up to three scripts: the fixed start script, the one that the session names, and
the user's. Each runs if all before it ended well. What handlers are asked to do is what these
scripts dispatch, one after the other (`recorded_execute`).
-/

namespace FlowScript

variable {α σ : Type}

/-- A script and the machine it is run with. -/
structure ScriptRun (α σ : Type) where
  tokens : List String
  machine : Machine α σ

/-- The machine with extra values in its session. -/
def Machine.merged (m : Machine α σ) (extra : Assignments) : Machine α σ :=
  { m with session := extra.writeTo m.session }

namespace Engine

/-- The script that a text is, if it is one. -/
def textRuns (text : String) (m : Machine α σ) : List (ScriptRun α σ) :=
  if Text.isBlankText text then []
  else match Text.ShellWords.split? text with
    | none => []
    | some tokens => [⟨tokens, m⟩]

/-- The user's script one level deeper, if there is a next level. -/
def nestedRuns (script : List String) (m : Machine α σ) : List (ScriptRun α σ) :=
  match adjustDepth m.session 1 with
  | .error _ => []
  | .ok session => [⟨script, { m with session := session }⟩]

variable (e : Engine α σ)

/-- What comes before the user's script. -/
def startup (m : Machine α σ) : Result α σ :=
  andThen (e.runText e.bootstrap m) e.runSessionBootstrap

/-- The scripts that are run before the user's. -/
def startupRuns (m : Machine α σ) : List (ScriptRun α σ) :=
  textRuns e.bootstrap m ++
    match e.runText e.bootstrap m with
    | (.error _, _) => []
    | (.ok (), m) => textRuns (m.session.text bootstrapKey) m

/-- The user's script, if it comes to be run. -/
def userRuns (script : List String) (m : Machine α σ) : List (ScriptRun α σ) :=
  match e.startup m with
  | (.error _, _) => []
  | (.ok (), m) => nestedRuns script m

/-- What scripts ask of their handlers, one after the other. -/
def occurrences (runs : List (ScriptRun α σ)) : List (Occurrence α) :=
  runs.flatMap fun r => (e.performed r.tokens r.machine).flatMap Dispatch.occurrences

@[simp] theorem occurrences_nil : e.occurrences [] = [] := rfl

@[simp] theorem occurrences_singleton (tokens : List String) (m : Machine α σ) :
    e.occurrences [⟨tokens, m⟩] = (e.performed tokens m).flatMap Dispatch.occurrences :=
  List.append_nil _

@[simp] theorem occurrences_append (runs runs' : List (ScriptRun α σ)) :
    e.occurrences (runs ++ runs') = e.occurrences runs ++ e.occurrences runs' :=
  List.flatMap_append

/-! ## Phase by phase -/

theorem recorded_runText (text : String) (m : Machine α σ) (log : List (Occurrence α)) :
    e.recorded.runText text (m.recording log) =
      ((e.runText text m).1, (e.runText text m).2.recording
        (log ++ e.occurrences (textRuns text m))) := by
  rw [runText, runText, textRuns]
  split
  · simp
  · cases Text.ShellWords.split? text with
    | none => simp
    | some tokens => simpa using e.recorded_runTokens_from tokens m log

theorem recorded_startup (m : Machine α σ) (log : List (Occurrence α)) :
    e.recorded.startup (m.recording log) =
      ((e.startup m).1, (e.startup m).2.recording
        (log ++ e.occurrences (e.startupRuns m))) := by
  have hbootstrap : e.recorded.bootstrap = e.bootstrap := rfl
  rw [startup, startup, startupRuns, hbootstrap, recorded_runText]
  rcases e.runText e.bootstrap m with ⟨err | _, m₁⟩
  · simp [andThen]
  · rw [occurrences_append, ← List.append_assoc]
    exact e.recorded_runText (m₁.session.text bootstrapKey) m₁ _

theorem recorded_runNested (script : List String) (m : Machine α σ) (log : List (Occurrence α)) :
    e.recorded.runNested script (m.recording log) =
      ((e.runNested script m).1, (e.runNested script m).2.recording
        (log ++ e.occurrences (nestedRuns script m))) := by
  have hrestore (outcome : Except FlowError Unit) (m : Machine α σ) (log : List (Occurrence α)) :
      restoreDepth (outcome, m.recording log) =
        ((restoreDepth (outcome, m)).1, (restoreDepth (outcome, m)).2.recording log) := by
    have hsession : (m.recording log).session = m.session := rfl
    simp only [restoreDepth, hsession]
    rcases adjustDepth m.session (-1) with (_ | _ | _ | _ | _ | _ | _) | _ <;> rfl
  have hsession : (m.recording log).session = m.session := rfl
  rw [runNested, runNested, nestedRuns, hsession]
  cases adjustDepth m.session 1 with
  | error err => simp
  | ok session =>
    have hdeeper : { m.recording log with session := session } =
        ({ m with session := session } : Machine α σ).recording log := rfl
    simp only [hdeeper, recorded_runTokens_from, hrestore, occurrences_singleton]

theorem execute_eq (script : List String) (extra : Assignments) (m : Machine α σ) :
    e.execute script extra m = andThen (e.startup (m.merged extra)) (e.runNested script) := rfl

/-- A recorded execution is the execution, and the log is what its scripts dispatch. -/
theorem recorded_execute (script : List String) (extra : Assignments) (m : Machine α σ) :
    e.recorded.execute script extra (m.recording []) =
      ((e.execute script extra m).1, (e.execute script extra m).2.recording
        (e.occurrences (e.startupRuns (m.merged extra)) ++
          e.occurrences (e.userRuns script (m.merged extra)))) := by
  have hmerged : (m.recording []).merged extra =
      ((m.merged extra).recording [] : Machine α (σ × List (Occurrence α))) := rfl
  rw [execute_eq, execute_eq, hmerged, recorded_startup, userRuns]
  rcases e.startup (m.merged extra) with ⟨err | _, m₁⟩
  · simp [andThen]
  · exact e.recorded_runNested script m₁ _

end Engine

end FlowScript
