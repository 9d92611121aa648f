import FlowScript.Cli.Run
import FlowScript.Programs.Launch

/-!
# The command line

The outer layer of the tool. It fetches the variables and files that a run may look at, runs, plays
the effects in order, and writes the files that have changed.
-/

namespace FlowScript.Cli

/-- How the tool is called. -/
def usage : String :=
  "Usage: cmdflow [OPTIONS] [SCRIPT]...\n\n" ++
  "  --config <PATH>  Read configuration from this file instead of the default location\n" ++
  "  -l, --list       Print the registered command tree and exit\n" ++
  "  -q, --quiet      Do not announce each command as it starts\n" ++
  "  -h, --help       Print help\n" ++
  "  -V, --version    Print version\n"

/-- The name and the version of the tool. -/
def version : String := "cmdflow 0.1.0\n"

/-- The line for a mistake in the options. -/
def UsageError.message : UsageError → String
  | help => usage
  | version => Cli.version
  | invalidValue => "error: a value is required for '--config <PATH>'\n\n" ++ usage
  | repeated => "error: an option cannot be used multiple times\n\n" ++ usage
  | unneededValue => "error: a flag takes no value\n\n" ++ usage

/-- Adds the variables with some names to those of a world. -/
def fetchVars (w : World) (names : List String) : IO World :=
  names.foldlM (fun w name => do
    match ← IO.getEnv name with
    | some value => return { w with vars := w.vars.insert name value }
    | none => return w) w

/-- Adds a file of the host to those of a world. What is there but cannot be read counts as a
directory. -/
def fetchFile (w : World) (path : String) : IO World := do
  let dir := (Path.parent? path).getD ""
  let files := (w.files.createAll dir).2
  let result ← (IO.FS.readBinFile path).toBaseIO
  match result with
  | .ok contents =>
    let bytes := contents.data.toList
    return { w with files := (files.writeBytes path bytes).toOption.getD w.files }
  | .error (.noFileOrDirectory ..) => return w
  | .error _ => return { w with files := (files.createAll path).2 }

/-- The world that a run with some options sees. -/
def openWorld (o : Options) : IO World := do
  let here ← IO.currentDir
  let files := ((Programs.installed .empty).createAll here.toString).2
  let files := { files with here := Path.parts here.toString }
  let homeDir := (← IO.getEnv "HOME").getD "/"
  let base := (← IO.getEnv "XDG_CONFIG_HOME").filter Path.isAbsolute
  let configDir := Path.join (base.getD (Path.join homeDir ".config")) "cmdflow"
  let colors := (← (← IO.getStdout).isTty) && (← IO.getEnv "NO_COLOR").isNone
  let w ← fetchVars ⟨files, ∅, configDir, colors, []⟩ ["HOME", "PATH", "CMDFLOW_CONFIG"]
  let w ← fetchFile w (o.config.getD w.configFile)
  match Config.load w o.config with
  | .error _ => return w
  | .ok config =>
    let w ← fetchVars w ((config.envFile.map Template.names).getD [])
    match config.envPath w with
    | .error _ => return w
    | .ok path => fetchFile w path

/-- The least number of milliseconds that a length of time fits in. -/
def milliseconds (d : Text.Decimal) : Nat :=
  if d.order < -3 then 1
  else if d.exponent < -3 then d.mantissa / Nat.pow 10 (d.exponent.natAbs - 3) + 1
  else d.mantissa * Nat.pow 10 (d.exponent + 3).toNat

/-- Plays an effect. -/
def play : Effect → IO Unit
  | .out bytes => do
    let stdout ← IO.getStdout
    stdout.write ⟨bytes.toArray⟩
    stdout.flush
  | .err bytes => do (← IO.getStderr).write ⟨bytes.toArray⟩
  | .pause seconds => IO.sleep (UInt32.ofNat (Nat.min (milliseconds seconds) 4294967295))

/-- Writes the files and directories that are not as they were. -/
def writeChanges (before after : Files) : IO Unit :=
  after.entries.entries.forM fun (path, entry) => do
    if before.entries.get? path ≠ some entry then
      match entry with
      | .directory => IO.FS.createDirAll path
      | .file contents => IO.FS.writeBinFile path ⟨contents.toArray⟩
      | _ => return ()

/-- Runs the tool: the exit status. -/
def runTool (args : List String) : IO UInt32 := do
  match Options.ofArgs args with
  | .error e =>
    if e = .help || e = .version then
      IO.print e.message
      return 0
    else
      IO.eprint e.message
      return 2
  | .ok o =>
    let before ← openWorld o
    let (outcome, after) := run Programs.launch o before
    after.effects.forM play
    writeChanges before.files after.files
    match outcome with
    | .ok () => return 0
    | .error e =>
      IO.eprintln ("\n" ++ after.paint .redBold "Error" ++ ": " ++ Text.join ": " e.texts)
      return 1

end FlowScript.Cli

def main (args : List String) : IO UInt32 := FlowScript.Cli.runTool args
