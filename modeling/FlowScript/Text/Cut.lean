/-!
# Cutting text

Where a text is cut: at the first occurrence of a character or of another text, at every
occurrence, or at the ends of lines. Occurrences are found from the left and do not overlap.
-/

namespace FlowScript.Text

/-! ## At one character -/

/-- What stands before and after the first occurrence of `c`. -/
def cutChars (c : Char) : List Char → Option (List Char × List Char)
  | [] => none
  | d :: rest =>
    if d = c then some ([], rest)
    else (cutChars c rest).map fun (before, after) => (d :: before, after)

/-- What stands before and after the first occurrence of `c` in a text. -/
def cut (c : Char) (s : String) : Option (String × String) :=
  (cutChars c s.toList).map fun (before, after) => (String.ofList before, String.ofList after)

/-- The pieces of a text between the occurrences of `c`, empty ones included. -/
def splitAt (c : Char) (s : String) : List String :=
  (s.toList.splitOnP (· == c)).map String.ofList

theorem length_cutChars {c : Char} {cs before after : List Char}
    (h : cutChars c cs = some (before, after)) :
    before.length + after.length + 1 = cs.length := by
  induction cs generalizing before after with
  | nil => simp [cutChars] at h
  | cons d rest ih =>
    simp only [cutChars] at h
    split at h
    · simp only [Option.some.injEq, Prod.mk.injEq] at h
      obtain ⟨rfl, rfl⟩ := h
      simp
    · simp only [Option.map_eq_some_iff, Prod.mk.injEq, Prod.exists] at h
      obtain ⟨b, a, hc, rfl, rfl⟩ := h
      have := ih hc
      simp only [List.length_cons]
      omega

/-- The two sides of a cut are together one character shorter than the text. -/
theorem length_cut {c : Char} {s before after : String} (h : cut c s = some (before, after)) :
    before.length + after.length + 1 = s.length := by
  simp only [cut, Option.map_eq_some_iff, Prod.mk.injEq, Prod.exists] at h
  obtain ⟨b, a, hc, rfl, rfl⟩ := h
  simpa [← String.length_toList] using length_cutChars hc

/-! ## At another text -/

/-- What stands before and after the first occurrence of the characters `sep`. -/
def cutRun (sep : List Char) : List Char → Option (List Char × List Char)
  | [] => if sep.isEmpty then some ([], []) else none
  | c :: rest =>
    if sep.isPrefixOf (c :: rest) then some ([], (c :: rest).drop sep.length)
    else (cutRun sep rest).map fun (before, after) => (c :: before, after)

/-- The pieces between the occurrences of a non-empty `sep`. -/
def splitRun (sep cs : List Char) : List (List Char) :=
  match cutRun sep cs with
  | none => [cs]
  | some (before, after) =>
    if _h : after.length < cs.length then before :: splitRun sep after else [before, after]
termination_by cs.length

/-- The pieces of a text between the occurrences of `sep`. The empty text occurs before, between
and after all characters, so cutting at it gives each character and an empty piece at both ends. -/
def splitOn (sep s : String) : List String :=
  if sep.isEmpty then "" :: s.toList.map String.singleton ++ [""]
  else (splitRun sep.toList s.toList).map String.ofList

/-! ## At line ends -/

/-- A line without the one carriage return that may end it. -/
def dropReturn (cs : List Char) : List Char :=
  if cs.getLast? = some '\r' then cs.dropLast else cs

/-- The lines of a text: each ends at a line feed, or at a carriage return and a line feed. What
follows the last line feed is a line unless it is empty. -/
def lines (s : String) : List String :=
  let pieces := s.toList.splitOnP (· == '\n')
  let ended := pieces.dropLast.map dropReturn
  let last := pieces.getLast?.getD []
  (if last.isEmpty then ended else ended ++ [last]).map String.ofList

/-! ## Joining -/

/-- The texts in order with `sep` between neighbours. -/
def join (sep : String) : List String → String
  | [] => ""
  | [s] => s
  | s :: rest => s ++ sep ++ join sep rest

end FlowScript.Text
