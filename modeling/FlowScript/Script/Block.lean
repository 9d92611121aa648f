import FlowScript.Script.Assignment
import FlowScript.Script.ParseError

/-!
# Env blocks

Assignments between braces may stand anywhere in a sequence, alone or glued to other tokens. The
tokens still to be read form a queue; a block is looked for at its front only.
-/

namespace FlowScript

/-- What stands at the front of the queue. -/
inductive BlockOutcome where
  /-- No brace opens in the first token. -/
  | absent
  /-- The first token was cut before its brace. -/
  | again
  /-- A block was read. -/
  | found (env : Assignments)
deriving DecidableEq

namespace Block

/-- The queue after looking for an opening brace in its first token. -/
inductive Opening where
  | absent
  | cut (queue : List String)
  | opened (queue : List String)

/-- Looks for an opening brace in the first token. What stands before the brace becomes a token of
its own, in front of the brace. -/
def findOpening : List String → Opening
  | [] => .absent
  | token :: rest =>
    match Text.cut '{' token with
    | none => .absent
    | some (before, after) =>
      let queue := (Text.trimmed? after).toList ++ rest
      match Text.trimmed? before with
      | none => .opened queue
      | some word => .cut (word :: "\x7b" :: queue)

/-- The tokens up to the first closing brace, and the queue after it. -/
def takeBody : List String → Option (List String × List String)
  | [] => none
  | token :: rest =>
    match Text.cut '}' token with
    | some (inside, after) =>
      some ((Text.trimmed? inside).toList, (Text.trimmed? after).toList ++ rest)
    | none =>
      (takeBody rest).map fun (body, queue) => ((Text.trimmed? token).toList ++ body, queue)

variable {α : Type}

/-- Reads a block at the front of the queue, in the scope of a command. The queue afterwards comes
second; nothing is left of it if the block is never closed. -/
def read (t : CommandTree α) (id : NodeId) (queue : List String) (index : CommandTree α := t) :
    Except ParseError BlockOutcome × List String :=
  match findOpening queue with
  | .absent => (.ok .absent, queue)
  | .cut queue => (.ok .again, queue)
  | .opened inside =>
    match takeBody inside with
    | none => (.error ⟨.unclosedBlock, t.displayPath id, queue⟩, [])
    | some (body, after) =>
      let reading := t.readAssignments id body index
      if reading.rest.isEmpty then (.ok (.found reading.env), after)
      else (.error ⟨.notAssignments, t.displayPath id, reading.rest⟩, after)

end Block

end FlowScript
