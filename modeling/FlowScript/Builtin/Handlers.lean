import FlowScript.Builtin.Action
import FlowScript.Programs.Line
import FlowScript.Run.Engine

/-!
# Handlers for the builtin commands

What actions mean when the builtin commands are the only actions. What command lines mean is left
open: they may be run by a launcher of programs or be answered in any other way.
-/

namespace FlowScript

/-- What command lines mean where a launcher runs the programs. -/
def Programs.answerLine (launch : Launcher) (line : String) (args : ArgVals) (s : Env × World) :
    Verdict × Env × World :=
  let (outcome, s) := runLine launch none line args s
  (outcome.mapError fun e => Cause.ofText e.message, s)

/-- What actions, command lines and events mean when the builtin commands are the only actions. -/
def Builtin.handlers (external : String → ArgVals → Env × World → Verdict × Env × World)
    (notify : Event → World → World) : Handlers Builtin World where
  normal b args s := b.act args s
  power b args s :=
    let (env, pos, w) := s
    let (verdict, pos) := b.steer args pos
    (verdict, env, pos, w)
  setup b args s :=
    let (env, tree, w) := s
    let (verdict, tree) := b.define args tree
    (verdict, env, tree, w)
  external := external
  notify := notify

end FlowScript
