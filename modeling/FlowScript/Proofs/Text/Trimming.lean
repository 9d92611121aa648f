import FlowScript.Proofs.Text.Cutting
import FlowScript.Text.Blank
import Mathlib.Data.List.TakeWhile
import Mathlib.Tactic.ByContra

/-!
# Blanks around a text

Trimming takes blanks off both ends (`exists_padding`), and it does not matter how many there were.
So a text can be trimmed before it is cut, or its parts after, at any character that is not blank
itself (`cut_trim`).
-/

namespace FlowScript.Text

/-- All of the characters are blank. -/
def Blanks (cs : List Char) : Prop :=
  ∀ c ∈ cs, isBlank c = true

theorem dropTail_append {p : Char → Bool} {cs tail : List Char} (h : ∀ c ∈ tail, p c = true) :
    dropTail p (cs ++ tail) = dropTail p cs := by
  rw [dropTail, List.reverse_append, List.dropWhile_append_of_pos (by simpa using h), dropTail]

theorem exists_dropTail (p : Char → Bool) (cs : List Char) :
    ∃ tail, (∀ c ∈ tail, p c = true) ∧ cs = dropTail p cs ++ tail := by
  refine ⟨(cs.reverse.takeWhile p).reverse, ?_, ?_⟩
  · intro c hc
    exact List.mem_takeWhile_imp (List.mem_reverse.1 hc)
  · rw [dropTail, ← List.reverse_append, List.takeWhile_append_dropWhile, List.reverse_reverse]

/-- What is left after a trailing run does not end in a character of the run. -/
theorem getLast?_dropTail {p : Char → Bool} {cs : List Char} {c : Char}
    (h : (dropTail p cs).getLast? = some c) : p c = false := by
  rw [dropTail, List.getLast?_reverse] at h
  simpa [h] using List.head?_dropWhile_not p cs.reverse

/-- Nothing is dropped where the last character is not one of the run. -/
theorem dropTail_eq_self {p : Char → Bool} {cs : List Char}
    (h : ∀ c, cs.getLast? = some c → p c = false) : dropTail p cs = cs := by
  rw [dropTail]
  cases hrev : cs.reverse with
  | nil => rw [List.reverse_eq_nil_iff.1 hrev]; rfl
  | cons c rest =>
    have hlast : p c = false := h c (by rw [List.getLast?_eq_head?_reverse, hrev]; rfl)
    rw [List.dropWhile_cons_of_neg (by simp [hlast]), ← hrev, List.reverse_reverse]

theorem trimChars_append_left {left cs : List Char} (h : Blanks left) :
    trimChars (left ++ cs) = trimChars cs := by
  rw [trimChars, List.dropWhile_append_of_pos h, trimChars]

theorem trimChars_append_right {cs right : List Char} (h : Blanks right) :
    trimChars (cs ++ right) = trimChars cs := by
  rw [trimChars, List.dropWhile_append]
  split
  · rename_i hblank
    rw [List.dropWhile_eq_nil_iff.2 h, trimChars, List.isEmpty_iff.1 hblank]
  · exact dropTail_append h

/-- What is trimmed off are blanks. -/
theorem exists_padding (cs : List Char) :
    ∃ left right, Blanks left ∧ Blanks right ∧ cs = left ++ trimChars cs ++ right := by
  obtain ⟨right, hright, hsplit⟩ := exists_dropTail isBlank (cs.dropWhile isBlank)
  refine ⟨cs.takeWhile isBlank, right, fun c hc => List.mem_takeWhile_imp hc, hright, ?_⟩
  rw [trimChars, List.append_assoc, ← hsplit, List.takeWhile_append_dropWhile]

/-- There is nothing to trim where no character is blank. -/
theorem trimChars_of_not_blank {cs : List Char} (h : ∀ c ∈ cs, isBlank c = false) :
    trimChars cs = cs := by
  obtain ⟨left, right, hl, hr, hsplit⟩ := exists_padding cs
  have hnil {part : List Char} (hpart : Blanks part) (hsub : ∀ c ∈ part, c ∈ cs) : part = [] := by
    refine List.eq_nil_iff_forall_not_mem.2 fun c hc => ?_
    have hblank := hpart c hc
    simp [h c (hsub c hc)] at hblank
  obtain rfl := hnil hl fun c hc => by rw [hsplit]; simp [hc]
  obtain rfl := hnil hr fun c hc => by rw [hsplit]; simp [hc]
  simpa using hsplit.symm

/-- Whether a character ends lines. -/
def endsLine (c : Char) : Bool :=
  c == '\r' || c == '\n'

theorem toList_trimLineEnd (s : String) : (trimLineEnd s).toList = dropTail endsLine s.toList := by
  rw [trimLineEnd, String.toList_ofList]
  rfl

/-! ## Texts -/

theorem trimmed?_eq (s : String) :
    trimmed? s =
      if trimChars s.toList = [] then none else some (String.ofList (trimChars s.toList)) := by
  simp [trimmed?, trim]

theorem trimmed?_of_blanks {s : String} (h : Blanks s.toList) : trimmed? s = none := by
  have hnil : trimChars s.toList = [] := by
    rw [trimChars, List.dropWhile_eq_nil_iff.2 h]
    rfl
  rw [trimmed?_eq, if_pos hnil]

theorem trimmed?_congr {s s' : String} (h : trimChars s.toList = trimChars s'.toList) :
    trimmed? s = trimmed? s' := by
  rw [trimmed?_eq, trimmed?_eq, h]

/-- Only blanks are in a text of which nothing is left. -/
theorem blanks_of_trimmed? {s : String} (h : trimmed? s = none) : Blanks s.toList := by
  obtain ⟨left, right, hl, hr, hsplit⟩ := exists_padding s.toList
  have hnil : trimChars s.toList = [] := by
    by_contra hne
    simp [trimmed?_eq, hne] at h
  rw [hsplit, hnil, List.append_nil]
  intro c hc
  exact (List.mem_append.1 hc).elim (hl c) (hr c)

theorem trimmed?_eq_some {s w : String} (h : trimmed? s = some w) : w = trim s := by
  rw [trimmed?] at h
  split at h
  · cases h
  · exact (Option.some.inj h).symm

theorem trimmed?_of_not_blank {s : String} (hne : s ≠ "")
    (h : ∀ c ∈ s.toList, isBlank c = false) : trimmed? s = some s := by
  rw [trimmed?_eq, trimChars_of_not_blank h, if_neg (by simpa using hne), String.ofList_toList]

/-- A text can be trimmed once more. -/
theorem trimmed?_trim (s : String) : trimmed? (trim s) = trimmed? s := by
  obtain ⟨left, right, hl, hr, hsplit⟩ := exists_padding s.toList
  apply trimmed?_congr
  rw [toList_trim]
  conv_rhs => rw [hsplit, trimChars_append_right hr, trimChars_append_left hl]

theorem cut_eq_none_of_trimmed? {c : Char} (hc : isBlank c = false) {s : String}
    (h : trimmed? s = none) : cut c s = none := by
  rw [cut_eq_none_iff]
  intro hmem
  simp [blanks_of_trimmed? h c hmem] at hc

theorem mem_toList_of_mem_trim {c : Char} {s : String} (h : c ∈ (trim s).toList) :
    c ∈ s.toList := by
  obtain ⟨left, right, -, -, hsplit⟩ := exists_padding s.toList
  rw [toList_trim] at h
  rw [hsplit]
  simp [h]

theorem cut_trim_eq_none {c : Char} {s : String} (h : cut c s = none) : cut c (trim s) = none := by
  rw [cut_eq_none_iff] at h ⊢
  exact fun hmem => h (mem_toList_of_mem_trim hmem)

/-- Trimming a text first changes nothing in the parts that a cut leaves, once they are trimmed. -/
theorem cut_trim {c : Char} (hc : isBlank c = false) {s before after : String}
    (h : cut c s = some (before, after)) :
    ∃ before' after', cut c (trim s) = some (before', after') ∧
      trimmed? before' = trimmed? before ∧ trimmed? after' = trimmed? after := by
  obtain ⟨left, right, hl, hr, hsplit⟩ := exists_padding s.toList
  have hleft : c ∉ left := fun hmem => by simp [hl c hmem] at hc
  have hright : c ∉ right := fun hmem => by simp [hr c hmem] at hc
  cases hcut : cut c (trim s) with
  | none =>
    have hnot := cut_eq_none_iff.1 hcut
    rw [toList_trim] at hnot
    have hs : c ∉ s.toList := by
      rw [hsplit]
      simp [hleft, hright, hnot]
    simp [cut_eq_none_iff.2 hs] at h
  | some parts =>
    obtain ⟨before', after'⟩ := parts
    obtain ⟨htrim, hnot⟩ := cut_eq_some_iff.1 hcut
    rw [toList_trim] at htrim
    -- the first occurrence in the text is the one in the trimmed text
    have hwhole : cut c s =
        some (String.ofList (left ++ before'.toList), String.ofList (after'.toList ++ right)) := by
      rw [cut_eq_some_iff, hsplit, htrim]
      simp [hleft, hnot]
    obtain ⟨rfl, rfl⟩ := Prod.mk.inj (Option.some.inj (h.symm.trans hwhole))
    refine ⟨before', after', rfl, trimmed?_congr ?_, trimmed?_congr ?_⟩
    · rw [String.toList_ofList, trimChars_append_left hl]
    · rw [String.toList_ofList, trimChars_append_right hr]

end FlowScript.Text
