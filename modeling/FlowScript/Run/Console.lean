import FlowScript.Host.World
import FlowScript.Run.Event

/-!
# The console

An observer that shows a line when a command starts and when it fails, and if asked also when it
succeeds. Quiet commands are shown only when they fail.
-/

namespace FlowScript

/-- How commands are announced. -/
structure Console where
  /-- Whether success is shown as well. -/
  timing : Bool

namespace Console

/-- How long a call took. A run is a function and takes no time; pauses are effects that are played
later. -/
def elapsed : String := "(0.00ns)"

/-- Shows an event. -/
def notify (c : Console) (e : Event) (w : World) : World :=
  match e.phase with
  | .before =>
    if e.quiet then w else w.putLine (w.paint .blue "→" ++ " " ++ w.paint .green e.path)
  | .after false =>
    w.putErrorLine
      (w.paint .redBold "✗" ++ " " ++ w.paint .red e.path ++ " " ++ w.paint .dimmed elapsed)
  | .after true =>
    if c.timing && !e.quiet then
      w.putLine (w.paint .green "✓" ++ " " ++ e.path ++ " " ++ w.paint .dimmed elapsed)
    else w

end Console

end FlowScript
