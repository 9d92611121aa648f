import FlowScript.Proofs.Text.Cutting
import FlowScript.Script.Walk
import Mathlib.Data.List.TakeWhile

/-!
# Names in a sequence

Where the path of a sequence ends, which names stand in it and which tokens are left as arguments
(`names`, `arguments`), and how the names of a token come out of it from its front: separators do
not count (`runs_dropWhile`), and a word is a name (`IsWord.runs_append`).
-/

namespace FlowScript.PathGrammar

/-! ## Paths -/

/-- Whether a token starts with a separator. -/
def startsSep (token : String) : Bool := token.toList.head?.any isPathSep

/-- Whether a token ends with a separator. -/
def endsSep (token : String) : Bool := token.toList.getLast?.any isPathSep

/-- Whether the path may end after the token at a position. -/
def endsAt (tokens : List String) (i : Nat) : Bool :=
  tokens[i]?.any (!endsSep ·) && !tokens[i + 1]?.any startsSep

/-- The number of tokens up to the first position at which the path may end. -/
def pathLength (tokens : List String) : Nat :=
  match (List.range tokens.length).find? (endsAt tokens) with
  | some i => i + 1
  | none => tokens.length

/-- The longest pieces of a token without separators. -/
def runs (token : String) : List String :=
  ((token.toList.splitOnP isPathSep).filter (!·.isEmpty)).map String.ofList

/-- The names in the path of a sequence. -/
def names (tokens : List String) : List String :=
  (tokens.take (pathLength tokens)).flatMap runs

/-- The tokens after the path of a sequence. -/
def arguments (tokens : List String) : List String :=
  tokens.drop (pathLength tokens)

theorem pathLength_cons (token : String) (rest : List String) :
    pathLength (token :: rest) =
      if !endsSep token && !rest.head?.any startsSep then 1 else pathLength rest + 1 := by
  have hzero : endsAt (token :: rest) 0 = (!endsSep token && !rest.head?.any startsSep) := by
    simp [endsAt, List.head?_eq_getElem?]
  have hsucc : endsAt (token :: rest) ∘ Nat.succ = endsAt rest := by
    funext i
    simp [endsAt]
  rw [pathLength, List.length_cons, List.range_succ_eq_map, List.find?_cons, hzero]
  cases !endsSep token && !rest.head?.any startsSep with
  | true => rfl
  | false =>
    rw [List.find?_map, hsucc]
    simp only [pathLength, Bool.false_eq_true, if_false]
    cases (List.range rest.length).find? (endsAt rest) <;> rfl

theorem names_cons (token : String) (rest : List String) :
    names (token :: rest) =
      runs token ++ if !endsSep token && !rest.head?.any startsSep then [] else names rest := by
  rw [names, pathLength_cons]
  split <;> simp [names]

theorem arguments_cons (token : String) (rest : List String) :
    arguments (token :: rest) =
      if !endsSep token && !rest.head?.any startsSep then rest else arguments rest := by
  rw [arguments, pathLength_cons]
  split <;> simp [arguments]

/-- Arguments do not start with a separator. -/
theorem startsSep_arguments {tokens rest : List String} {token : String}
    (h : arguments tokens = token :: rest) : startsSep token = false := by
  induction tokens with
  | nil => simp [arguments] at h
  | cons first tokens ih =>
    rw [arguments_cons] at h
    split at h
    · rename_i hend
      have hends : endsSep first = false ∧ startsSep token = false := by simpa [h] using hend
      exact hends.2
    · exact ih h

theorem arguments_suffix (tokens : List String) : arguments tokens <:+ tokens :=
  List.drop_suffix ..

/-! ## Runs -/

/-- Separators in front of a token do not count. -/
theorem runs_dropWhile (cs : List Char) :
    runs (String.ofList (cs.dropWhile isPathSep)) = runs (String.ofList cs) := by
  induction cs with
  | nil => rfl
  | cons c rest ih =>
    by_cases hc : isPathSep c = true
    · rw [List.dropWhile_cons, if_pos hc, ih]
      simp [runs, List.splitOnP_cons_eq_if_modifyHead, hc]
    · rw [List.dropWhile_cons, if_neg hc]

theorem names_singleton (p : String) : names [p] = runs p := by
  rw [names_cons]
  split <;> simp [names]

/-- Where only dots separate, the names of a token are the segments of a dotted path. -/
theorem runs_of_dots {p : String} (hdots : ∀ c ∈ p.toList, isPathSep c = true → c = '.') :
    runs p = (Text.splitAt '.' p).filter (fun s => !s.isEmpty) := by
  have hsep : ∀ c ∈ p.toList, isPathSep c = (c == '.') := by
    intro c hc
    by_cases hdot : c = '.'
    · subst hdot
      decide
    · rw [beq_eq_false_iff_ne.2 hdot]
      exact Bool.eq_false_iff.2 fun h => hdot (hdots c hc h)
  rw [runs, Text.splitAt, List.filter_map, Text.splitOnP_congr hsep]
  congr 2
  funext cs
  cases cs <;> simp

/-! ## Separators -/

/-- A token starts with a separator if dropping separators makes it shorter. -/
theorem length_dropWhile_lt_iff {token : String} :
    (token.toList.dropWhile isPathSep).length < token.length ↔ startsSep token = true := by
  rw [startsSep, ← String.length_toList]
  cases token.toList with
  | nil => simp
  | cons c rest =>
    have hle := (List.dropWhile_sublist isPathSep (l := rest)).length_le
    by_cases hc : isPathSep c = true
    · simp only [List.dropWhile_cons, hc, if_true, List.length_cons, List.head?_cons,
        Option.any_some, iff_true]
      omega
    · simp [hc]

theorem endsSep_append (front : List Char) {tail : List Char} (hne : tail ≠ []) :
    endsSep (String.ofList (front ++ tail)) = endsSep (String.ofList tail) := by
  rw [endsSep, endsSep, String.toList_ofList, String.toList_ofList, List.getLast?_append,
    List.getLast?_eq_some_getLast hne, Option.some_or]

theorem endsSep_dropWhile {cs : List Char} (hne : cs ≠ []) :
    endsSep (String.ofList cs) =
      if (cs.dropWhile isPathSep).isEmpty then true
      else endsSep (String.ofList (cs.dropWhile isPathSep)) := by
  split
  · rename_i hnil
    have hall := List.dropWhile_eq_nil_iff.1 (List.isEmpty_iff.1 hnil)
    rw [endsSep, String.toList_ofList, List.getLast?_eq_some_getLast hne]
    exact hall _ (List.getLast_mem hne)
  · rename_i hnil
    have htail : cs.dropWhile isPathSep ≠ [] := fun h => hnil (List.isEmpty_iff.2 h)
    have happend := endsSep_append (cs.takeWhile isPathSep) htail
    rwa [List.takeWhile_append_dropWhile] at happend

/-! ## Words -/

/-- Characters of which none is a separator, at least one. -/
structure IsWord (cs : List Char) : Prop where
  nonempty : cs ≠ []
  noSep : ∀ c ∈ cs, isPathSep c = false

/-- A token that does not start with a separator starts with a word, up to a separator or its
end. -/
theorem exists_word {cs : List Char} (hne : cs ≠ [])
    (hsep : startsSep (String.ofList cs) = false) :
    ∃ word tail, cs = word ++ tail ∧ IsWord word ∧ tail.head?.all isPathSep = true := by
  refine ⟨cs.takeWhile (!isPathSep ·), cs.dropWhile (!isPathSep ·),
    List.takeWhile_append_dropWhile.symm, ⟨?_, ?_⟩, ?_⟩
  · cases cs with
    | nil => exact absurd rfl hne
    | cons c rest =>
      have hc : isPathSep c = false := by simpa [startsSep] using hsep
      simp [hc]
  · intro c hc
    simpa using List.mem_takeWhile_imp hc
  · have hhead := List.head?_dropWhile_not (!isPathSep ·) cs
    cases h : (cs.dropWhile (!isPathSep ·)).head? with
    | none => rfl
    | some c => simpa [h] using hhead

namespace IsWord

variable {word : List Char}

theorem startsSep_append (h : IsWord word) (tail : List Char) :
    startsSep (String.ofList (word ++ tail)) = false := by
  cases word with
  | nil => exact absurd rfl h.nonempty
  | cons c cs => simpa [startsSep] using h.noSep c (by simp)

theorem endsSep (h : IsWord word) : endsSep (String.ofList word) = false := by
  rw [PathGrammar.endsSep, String.toList_ofList, List.getLast?_eq_some_getLast h.nonempty]
  exact h.noSep _ (List.getLast_mem h.nonempty)

/-- A token is cut after its first word. -/
theorem takeWhile_append (h : IsWord word) {tail : List Char}
    (htail : tail.head?.all isPathSep = true) :
    (word ++ tail).takeWhile (!isPathSep ·) = word ∧
      (word ++ tail).dropWhile (!isPathSep ·) = tail := by
  have hpos : ∀ c ∈ word, (!isPathSep c) = true := by simpa using h.noSep
  rw [List.takeWhile_append_of_pos hpos, List.dropWhile_append_of_pos hpos]
  cases tail with
  | nil => simp
  | cons c rest =>
    have hc : isPathSep c = true := by simpa using htail
    simp [hc]

/-- A word that a separator or the end follows is a run. -/
theorem runs_append (h : IsWord word) {tail : List Char}
    (htail : tail.head?.all isPathSep = true) :
    runs (String.ofList (word ++ tail)) = String.ofList word :: runs (String.ofList tail) := by
  have hkeep : (!word.isEmpty) = true := by simpa using h.nonempty
  cases tail with
  | nil => simp [runs, List.splitOnP_eq_singleton h.noSep, hkeep]
  | cons c rest =>
    have hc : isPathSep c = true := by simpa using htail
    simp [runs, List.splitOnP_append_cons_of_forall_mem h.noSep c hc, hkeep,
      List.splitOnP_cons_eq_if_modifyHead, hc]

end IsWord

end FlowScript.PathGrammar
