import FlowScript.Builtin.Handlers
import FlowScript.Cli.Options
import FlowScript.Command.Render
import FlowScript.Host.Config
import FlowScript.Run.Console

/-!
# Running the tool

One run of the tool: read the configuration, register the builtin commands, load the saved values
and execute the script. The whole run is a function on the world, given a launcher for programs; the
files it has changed and the effects it has are in the world that comes back.
-/

namespace FlowScript

namespace Cli

/-- Why a run of the tool did not end well. -/
inductive Failure where
  | config (e : ConfigError)
  | registration (e : RegistrationError)
  | saved (e : SaveError)
  | flow (e : FlowError)
deriving DecidableEq

/-- The text of a failure and of the reason it came from. -/
def Failure.texts : Failure → List String
  | config (.io path reason) => [(ConfigError.io path reason).message, reason.message]
  | config e => [e.message]
  | registration e => [e.message]
  | saved e => e.texts
  | flow e => [e.message]

/-- The limit on the steps of a plan. The builtin commands only ever shorten a plan, so no script
reaches it. -/
def stepLimit : Nat := Nat.pow 2 62

/-- The line for a run without a script. -/
def nothingToRun : String :=
  "Nothing to run. Use `cmdflow --list` to see the available commands."

/-- The session that a run starts with: defaults from the configuration, saved values, and the path
they were read from. -/
def openSession (config : Config) (w : World) : Except Failure Env := do
  let env := config.applyDefaults Env.newSession
  let path ← (config.envPath w).mapError .config
  let env ← match env.parent? with
    | none => .ok env
    | some saved => do
      let (_, saved) ← (Saved.load w.files path saved).mapError .saved
      .ok { env with outer := saved.layers }
  -- the session names the path last, whatever was saved under the key
  .ok (env.set Builtin.envFileKey path)

/-- Executes the script of the options. -/
def runScript (launch : Programs.Launcher) (o : Options) (config : Config)
    (tree : CommandTree Builtin) (w : World) : Except Failure Unit × World :=
  match openSession config w with
  | .error e => (.error e, w)
  | .ok env =>
    let quiet := o.quiet || config.quiet
    let notify := if quiet then fun _ w => w else Console.notify ⟨false⟩
    let handlers := Builtin.handlers (Programs.answerLine launch) notify
    let engine : Engine Builtin World := ⟨handlers, config.bootstrap, stepLimit⟩
    let (outcome, m) := engine.execute o.script ∅ (Machine.ofEnv tree env w)
    (outcome.mapError .flow, m.world)

/-- Does what the options ask for. -/
def run (launch : Programs.Launcher) (o : Options) (w : World) :
    Except Failure Unit × World :=
  match Config.load w o.config with
  | .error e => (.error (.config e), w)
  | .ok config =>
    match Builtin.register id (.empty : CommandTree Builtin) with
    | (.error e, _) => (.error (.registration e), w)
    | (.ok (), tree) =>
      if o.list then (.ok (), w.putBytes (Text.bytes (tree.overview)))
      else if o.script.isEmpty then (.ok (), w.putLine nothingToRun)
      else runScript launch o config tree w

end Cli

end FlowScript
