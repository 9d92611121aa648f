import FlowScript.Text.Blank
import FlowScript.Text.Cut

/-!
# Sequences

A script is a list of tokens. A separator between or inside tokens ends a sequence, unless what
stands around it shields it: `http://host` is one token although it holds a colon.
-/

namespace FlowScript

/-- Where a list of tokens is broken: at each `sep` that is not directly after one of
`shieldsBefore` or directly before one of `shieldsAfter`. -/
structure Breaker where
  sep : String
  shieldsBefore : List String
  shieldsAfter : List String

/-- The sequences of a script, and whether its first token is anything but a separator. Only then
may the first sequence open with values for the whole script. -/
structure Sequences where
  groups : List (List String)
  opensGlobal : Bool
deriving DecidableEq

namespace Breaker

/-- Scripts are broken at colons; addresses with a scheme stay whole. -/
def standard : Breaker where
  sep := ":"
  shieldsBefore := ["http", "HTTP"]
  shieldsAfter := ["/"]

/-- Whether an occurrence of the separator is shielded by the text before it, which is given
backwards, or after it. -/
def isShielded (b : Breaker) (before after : List Char) : Bool :=
  b.shieldsBefore.any (fun s => s.toList.reverse.isPrefixOf before) ||
    b.shieldsAfter.any (fun s => s.toList.isPrefixOf after)

/-- Cuts the rest of a token. `before` is all of the token up to the rest and `piece` the end of it
that belongs to the piece being read, both backwards. -/
def cutRest (b : Breaker) (before piece rest : List Char) : List (List Char) :=
  match rest with
  | [] => if piece.isEmpty then [] else [piece.reverse]
  | c :: cs =>
    let sep := b.sep.toList
    if sep.isPrefixOf (c :: cs) then
      let after := cs.drop (sep.length - 1)
      if b.isShielded before after then
        b.cutRest (sep.reverse ++ before) (sep.reverse ++ piece) after
      else
        let pieces := sep :: b.cutRest (sep.reverse ++ before) [] after
        if piece.isEmpty then pieces else piece.reverse :: pieces
    else
      b.cutRest (c :: before) (c :: piece) cs
termination_by rest.length
decreasing_by
  all_goals simp only [List.length_cons]
  all_goals first
    | omega
    | exact Nat.lt_succ_of_le (by simp)

/-- Cuts a token so that each separator that is not shielded stands alone. Nothing empty is left,
and an empty separator cuts nowhere. -/
def cutToken (b : Breaker) (token : String) : List String :=
  if b.sep.isEmpty then
    if token.isEmpty then [] else [token]
  else
    (b.cutRest [] [] token.toList).map String.ofList

/-- The tokens with each separator that is not shielded as a token of its own. -/
def normalize (b : Breaker) (tokens : List String) : List String :=
  tokens.flatMap b.cutToken

/-- The sequences of a script: what stands between separators, each token trimmed. Empty tokens and
empty sequences are dropped. -/
def sequences (b : Breaker) (tokens : List String) : Sequences :=
  let normal := b.normalize tokens
  let groups := (normal.splitOnP (· == b.sep)).map (·.filterMap Text.trimmed?)
  { groups := groups.filter fun g => !g.isEmpty
    opensGlobal := normal.head? ≠ some b.sep }

end Breaker

end FlowScript
