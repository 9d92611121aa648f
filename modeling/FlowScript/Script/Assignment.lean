import FlowScript.Command.Spelling
import FlowScript.Env.Assignments

/-!
# Reading assignments

A run of tokens is read as assignments in the scope of a command. Where the command declares
parameters the run assigns them: by position, as pairs of name and value, or with equal signs.
Elsewhere only equal signs assign, and a key is an abbreviated path that is written out. Reading
takes as many assignments from the front as it can and leaves the rest.
-/

namespace FlowScript

/-- A token cut at its first equal sign. -/
inductive Piece where
  | text (s : String)
  | equals
deriving DecidableEq

namespace Piece

/-- The token that a piece is written as. -/
def token : Piece → String
  | text s => s
  | equals => "="

/-- The piece of a text, unless only blanks are in it. -/
def ofText (s : String) : List Piece :=
  (Text.trimmed? s).toList.map text

/-- The pieces of a token. -/
def ofToken (token : String) : List Piece :=
  match Text.cut '=' token with
  | some (key, value) => ofText key ++ [equals] ++ ofText value
  | none => ofText token

/-- The pieces of a run of tokens. -/
def ofTokens (tokens : List String) : List Piece :=
  tokens.flatMap ofToken

end Piece

/-- Assignments from the front of a run, and the tokens after them. -/
structure Reading where
  env : Assignments
  rest : List String
deriving DecidableEq

namespace Reading

/-- Reads keys, equal signs and values as long as the keys stand for something. -/
def ofTriples (key? : String → Option String) (isArg : Bool) :
    Assignments → List Piece → Assignments × List Piece
  | env, .text key :: .equals :: .text value :: rest =>
    match key? key with
    | some name => ofTriples key? isArg (env.insert name ⟨value, isArg⟩) rest
    | none => (env, .text key :: .equals :: .text value :: rest)
  | env, pieces => (env, pieces)

/-- Reads keys and values as long as the keys stand for something. -/
def ofPairs (key? : String → Option String) :
    Assignments → List String → Assignments × List String
  | env, key :: value :: rest =>
    match key? key with
    | some name => ofPairs key? (env.insert name ⟨value, true⟩) rest
    | none => (env, key :: value :: rest)
  | env, texts => (env, texts)

/-- Reads values for names in order. -/
def ofPositions (names texts : List String) : Assignments :=
  Dict.ofList ((names.zip texts).map fun (name, value) => (name, ⟨value, true⟩))

/-- Reads equal signs and what stands around them. -/
def ofEquations (key? : String → Option String) (isArg : Bool) (pieces : List Piece) : Reading :=
  let (env, rest) := ofTriples key? isArg ∅ pieces
  ⟨env, rest.map Piece.token⟩

variable {α : Type}

/-- Reads values for the parameters of an executable. Without an equal sign the values are pairs if
the first text stands for a parameter or if there are more texts than parameters; otherwise they
are taken by position. -/
def ofArguments (x : Executable α) (pieces : List Piece) : Reading :=
  if pieces.contains .equals then
    ofEquations x.resolve true pieces
  else
    let texts := pieces.map Piece.token
    let isPairs := (texts.head?.bind x.resolve).isSome || texts.length > x.params.length
    if isPairs then
      let (env, rest) := ofPairs x.resolve ∅ texts
      ⟨env, rest⟩
    else
      ⟨ofPositions (x.labels.map (·.name)) texts, []⟩

/-- Reads values for keys of the env, written out by the spellings of a tree. Without an equal sign
nothing is read. -/
def ofKeys (index : CommandTree α) (tokens : List String) (pieces : List Piece) : Reading :=
  if pieces.contains .equals then
    ofEquations (fun key => some (index.expand key ".").1) false pieces
  else
    ⟨∅, tokens⟩

end Reading

namespace CommandTree

variable {α : Type}

/-- The executable whose parameters are assigned in the scope of a command. -/
def assigned? (t : CommandTree α) (id : NodeId) : Option (Executable α) :=
  (t.executable? id).filter fun x => !x.params.isEmpty

/-- Reads assignments in the scope of a command. Keys are written out by the spellings of `index`,
which is the tree itself unless those of another time are to count. -/
def readAssignments (t : CommandTree α) (id : NodeId) (tokens : List String)
    (index : CommandTree α := t) : Reading :=
  let pieces := Piece.ofTokens tokens
  match t.assigned? id with
  | some x => .ofArguments x pieces
  | none => .ofKeys index tokens pieces

end CommandTree

end FlowScript
