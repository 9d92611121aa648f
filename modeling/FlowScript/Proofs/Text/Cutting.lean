import FlowScript.Text.Cut

/-!
# Cutting and joining

What a cut at the first occurrence of a character finds (`cutChars_eq_some_iff`), that cutting at a
character and at the text of that character come to the same (`splitOn_singleton`), and that cutting
undoes joining: a path written as its names with dots between them falls into these names again, as
long as there is a name and no name holds a dot (`splitAt_join`). Joining always undoes cutting
(`join_splitAt`).
-/

namespace FlowScript.Text

/-! ## The first occurrence -/

theorem cutChars_eq_none_iff {c : Char} {cs : List Char} :
    cutChars c cs = none ↔ c ∉ cs := by
  induction cs with
  | nil => simp [cutChars]
  | cons d rest ih =>
    by_cases hd : d = c
    · simp [cutChars, hd]
    · simp [cutChars, hd, ih, Ne.symm hd]

theorem cut_eq_none_iff {c : Char} {s : String} : cut c s = none ↔ c ∉ s.toList := by
  rw [cut, Option.map_eq_none_iff, cutChars_eq_none_iff]

theorem cutChars_eq_some_iff {c : Char} {cs before after : List Char} :
    cutChars c cs = some (before, after) ↔ cs = before ++ c :: after ∧ c ∉ before := by
  induction cs generalizing before after with
  | nil => simp [cutChars]
  | cons d rest ih =>
    by_cases hd : d = c
    · subst hd
      simp only [cutChars, if_true, Option.some.injEq, Prod.mk.injEq]
      constructor
      · rintro ⟨rfl, rfl⟩
        exact ⟨rfl, by simp⟩
      · rintro ⟨heq, hnot⟩
        cases before with
        | nil => simpa using heq
        | cons e before =>
          obtain ⟨rfl, -⟩ := List.cons.inj heq
          simp at hnot
    · simp only [cutChars, if_neg hd, Option.map_eq_some_iff, Prod.exists, ih, Prod.mk.injEq]
      constructor
      · rintro ⟨before', after', ⟨rfl, hnot⟩, rfl, rfl⟩
        exact ⟨rfl, by simp [hnot, Ne.symm hd]⟩
      · rintro ⟨heq, hnot⟩
        cases before with
        | nil => exact absurd (List.cons.inj heq).1 hd
        | cons e before =>
          obtain ⟨rfl, hrest⟩ := List.cons.inj heq
          exact ⟨before, after, ⟨hrest, fun hmem => hnot (by simp [hmem])⟩, rfl, rfl⟩

theorem cut_eq_some_iff {c : Char} {s before after : String} :
    cut c s = some (before, after) ↔
      s.toList = before.toList ++ c :: after.toList ∧ c ∉ before.toList := by
  rw [← cutChars_eq_some_iff, cut]
  constructor
  · intro h
    obtain ⟨⟨front, back⟩, hcut, heq⟩ := Option.map_eq_some_iff.1 h
    obtain ⟨rfl, rfl⟩ := Prod.mk.inj heq
    simpa using hcut
  · intro h
    simp [h]

/-! ## Every occurrence -/

theorem cutRun_singleton (c : Char) (cs : List Char) : cutRun [c] cs = cutChars c cs := by
  induction cs with
  | nil => rfl
  | cons d rest ih =>
    by_cases hd : d = c
    · simp [cutRun, cutChars, hd]
    · simp [cutRun, cutChars, hd, Ne.symm hd, ih]

theorem splitRun_singleton (c : Char) (cs : List Char) : splitRun [c] cs = cs.splitOn c := by
  induction hlen : cs.length using Nat.strongRecOn generalizing cs with
  | ind n ih =>
    rw [splitRun, cutRun_singleton]
    cases hcut : cutChars c cs with
    | none => exact (List.splitOn_eq_singleton (cutChars_eq_none_iff.1 hcut)).symm
    | some parts =>
      obtain ⟨before, after⟩ := parts
      obtain ⟨rfl, hnot⟩ := cutChars_eq_some_iff.1 hcut
      have hlt : after.length < (before ++ c :: after).length := by simp; omega
      simp only [dif_pos hlt]
      rw [List.splitOn_append_cons_self_of_not_mem hnot, ih _ (hlen ▸ hlt) after rfl]

/-- A text can be cut at a character or at the text of that character. -/
theorem splitOn_singleton (c : Char) (s : String) :
    splitOn (String.singleton c) s = splitAt c s := by
  have hne : (String.singleton c).isEmpty = false := by simp
  rw [splitOn, hne, splitAt, ← List.splitOn_eq_splitOnP, ← splitRun_singleton]
  simp

theorem splitAt_ne_nil (c : Char) (s : String) : splitAt c s ≠ [] := by
  simp [splitAt]

/-- No piece holds the separator. -/
theorem not_mem_of_mem_splitAt {c : Char} {s piece : String} (h : piece ∈ splitAt c s) :
    c ∉ piece.toList := by
  have hpieces (cs : List Char) : ∀ cs' ∈ cs.splitOnP (· == c), c ∉ cs' := by
    induction cs with
    | nil => simp
    | cons d rest ih =>
      obtain ⟨first, others, hsplit⟩ := List.exists_cons_of_ne_nil
        (List.splitOnP_ne_nil (· == c) rest)
      rw [hsplit] at ih
      rw [List.splitOnP_cons_eq_if_modifyHead, hsplit]
      by_cases hd : d = c
      · simpa [hd] using ih
      · simpa [hd, Ne.symm hd] using ih
  obtain ⟨cs, hcs, rfl⟩ := List.mem_map.1 h
  simpa using hpieces s.toList cs hcs

theorem splitOnP_congr {p q : Char → Bool} {cs : List Char} (h : ∀ c ∈ cs, p c = q c) :
    cs.splitOnP p = cs.splitOnP q := by
  induction cs with
  | nil => rfl
  | cons c rest ih =>
    rw [List.splitOnP_cons_eq_if_modifyHead, List.splitOnP_cons_eq_if_modifyHead, h c (by simp),
      ih fun d hd => h d (by simp [hd])]

/-! ## Joining -/

theorem join_cons {sep s : String} {names : List String} (hne : names ≠ []) :
    join sep (s :: names) = s ++ sep ++ join sep names := by
  cases names with
  | nil => exact absurd rfl hne
  | cons s' rest => rfl

theorem join_append_singleton {sep : String} {names : List String} (hne : names ≠ [])
    (a : String) : join sep (names ++ [a]) = join sep names ++ sep ++ a := by
  induction names with
  | nil => exact absurd rfl hne
  | cons s rest ih =>
    by_cases hnil : rest = []
    · subst hnil
      rfl
    · rw [List.cons_append, join_cons (by simp), ih hnil, join_cons hnil]
      simp only [String.append_assoc]

/-- Joining is writing the separator after each text but the last. -/
theorem foldl_append_eq_join (sep : String) (names : List String) (front last : String) :
    names.foldl (fun path name => path ++ name ++ sep) front ++ last =
      front ++ join sep (names ++ [last]) := by
  induction names generalizing front with
  | nil => rfl
  | cons s rest ih =>
    rw [List.foldl_cons, ih, List.cons_append, join_cons (by simp)]
    simp only [String.append_assoc]

theorem toList_join (c : Char) (names : List String) :
    (join (String.singleton c) names).toList = [c].intercalate (names.map String.toList) := by
  induction names with
  | nil => rfl
  | cons s rest ih =>
    by_cases hnil : rest = []
    · subst hnil
      simp [join]
    · rw [join_cons hnil, String.toList_append, String.toList_append, ih, List.map_cons,
        List.intercalate_cons_of_ne_nil (by simpa using hnil)]
      simp

theorem splitAt_join {c : Char} {names : List String} (hne : names ≠ [])
    (hc : ∀ s ∈ names, c ∉ s.toList) : splitAt c (join (String.singleton c) names) = names := by
  have hsplit : List.splitOn c ([c].intercalate (names.map String.toList)) =
      names.map String.toList :=
    List.splitOn_intercalate c (by simpa using hc) (by simpa using hne)
  rw [splitAt, toList_join, ← List.splitOn_eq_splitOnP, hsplit, List.map_map]
  simp [Function.comp_def]

theorem join_splitAt (c : Char) (s : String) : join (String.singleton c) (splitAt c s) = s := by
  rw [← String.toList_inj, toList_join, splitAt, ← List.splitOn_eq_splitOnP, List.map_map]
  simp [Function.comp_def]

/-- A text without the separator comes last on its own. -/
theorem splitAt_append {c : Char} {q s : String} (hs : c ∉ s.toList) :
    splitAt c (q ++ String.singleton c ++ s) = splitAt c q ++ [s] := by
  have hlast : s.toList.splitOnP (· == c) = [s.toList] := by
    refine List.splitOnP_eq_singleton fun d hd => ?_
    simpa using fun heq : d = c => hs (heq ▸ hd)
  have htext : (q ++ String.singleton c ++ s).toList = q.toList ++ c :: s.toList := by simp
  rw [splitAt, htext, List.splitOnP_append_cons _ _ (by simp), hlast]
  simp [splitAt]

end FlowScript.Text
