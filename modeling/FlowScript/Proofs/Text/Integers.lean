import FlowScript.Proofs.Text.Trimming
import FlowScript.Text.Integer

/-!
# Counters can be read back

The text of a counter is its decimal (`write_eq_toString`) and is read as that counter
(`read?_write`).
-/

namespace FlowScript.Text.Integer

/-! ## Digits -/

theorem toNat_digit {n : Nat} (h : n < 10) : (digit n).toNat = 48 + n := by
  have hall : ∀ k < 10, (digit k).toNat = 48 + k := by decide
  exact hall n h

theorem isDigit_digit {n : Nat} (h : n < 10) : (digit n).isDigit = true := by
  have hall : ∀ k < 10, (digit k).isDigit = true := by decide
  exact hall n h

theorem isDigit_of_mem_digits {n : Nat} {c : Char} (h : c ∈ digits n) : c.isDigit = true := by
  induction n using digits.induct with
  | case1 n hn =>
    rw [digits, if_pos hn, List.mem_singleton] at h
    exact h ▸ isDigit_digit hn
  | case2 n hn ih =>
    rw [digits, if_neg hn, List.mem_append, List.mem_singleton] at h
    rcases h with h | rfl
    · exact ih h
    · exact isDigit_digit (Nat.mod_lt n (by decide))

theorem digits_ne_nil (n : Nat) : digits n ≠ [] := by
  rw [digits]
  split <;> simp

/-- Each digit adds its weight to what the digits before it write. -/
theorem foldl_digits (n : Nat) :
    (digits n).foldl (fun k c => 10 * k + (c.toNat - 48)) 0 = n := by
  induction n using digits.induct with
  | case1 n hn => simp [digits, hn, toNat_digit hn]
  | case2 n hn ih =>
    have hlast := toNat_digit (Nat.mod_lt n (by decide : 0 < 10))
    rw [digits, if_neg hn, List.foldl_append, ih]
    simp only [List.foldl_cons, List.foldl_nil, hlast]
    omega

theorem natOfDigits?_digits (n : Nat) : natOfDigits? (digits n) = some n := by
  have hdigits : (digits n).all Char.isDigit = true :=
    List.all_eq_true.2 fun _ => isDigit_of_mem_digits
  simp [natOfDigits?, digits_ne_nil, hdigits, foldl_digits]

theorem digit_eq_digitChar {n : Nat} (h : n < 10) : digit n = n.digitChar := by
  have hall : ∀ k < 10, digit k = k.digitChar := by decide
  exact hall n h

theorem digits_eq_toDigits (n : Nat) : digits n = Nat.toDigits 10 n := by
  induction n using digits.induct with
  | case1 n hn => rw [digits, if_pos hn, Nat.toDigits_of_lt_base hn, digit_eq_digitChar hn]
  | case2 n hn ih =>
    rw [digits, if_neg hn, Nat.toDigits_of_base_le (by decide) (Nat.le_of_not_lt hn), ih,
      digit_eq_digitChar (Nat.mod_lt n (by decide))]

/-! ## Signs -/

/-- The text of an integer is its decimal. -/
theorem write_eq_toString (n : Int) : write n = toString n := by
  have hrepr (k : Nat) : String.ofList (digits k) = k.repr := by
    rw [digits_eq_toDigits, ← Nat.toList_repr, String.ofList_toList]
  cases n with
  | ofNat k => exact hrepr k
  | negSucc k =>
    have hminus : String.ofList ('-' :: digits (k + 1)) = "-" ++ (k + 1).repr := by
      rw [← hrepr, ← String.toList_inj]
      simp
    rw [write, if_pos (Int.negSucc_lt_zero k)]
    exact hminus

theorem ofChars?_digits (n : Nat) : ofChars? (digits n) = some (n : Int) := by
  cases hcs : digits n with
  | nil => exact absurd hcs (digits_ne_nil n)
  | cons c rest =>
    have hc : c.isDigit = true := isDigit_of_mem_digits (hcs ▸ List.mem_cons_self)
    have hminus : c ≠ '-' := by rintro rfl; simp at hc
    have hplus : c ≠ '+' := by rintro rfl; simp at hc
    rw [ofChars?, ← hcs, natOfDigits?_digits]
    · rfl
    · simpa using hminus
    · simpa using hplus

theorem ofChars?_write (n : Int) : ofChars? (write n).toList = some n := by
  rw [write]
  split
  · have habs : -(n.natAbs : Int) = n := by omega
    rw [String.toList_ofList, ofChars?, natOfDigits?_digits]
    exact congrArg some habs
  · have habs : (n.natAbs : Int) = n := by omega
    rw [String.toList_ofList, ofChars?_digits, habs]

theorem isBlank_of_isDigit {c : Char} (h : c.isDigit = true) : isBlank c = false := by
  have hrange : 48 ≤ c.toNat ∧ c.toNat ≤ 57 := by
    simpa [Char.isDigit, UInt32.le_iff_toNat_le] using h
  simp only [isBlank, blankRanges, List.any_cons, List.any_nil, Bool.or_eq_false_iff,
    Bool.and_eq_false_iff, decide_eq_false_iff_not, and_true]
  omega

theorem isBlank_of_mem_write {n : Int} {c : Char} (h : c ∈ (write n).toList) :
    isBlank c = false := by
  rw [write] at h
  split at h
  · rw [String.toList_ofList, List.mem_cons] at h
    rcases h with rfl | h
    · decide
    · exact isBlank_of_isDigit (isDigit_of_mem_digits h)
  · rw [String.toList_ofList] at h
    exact isBlank_of_isDigit (isDigit_of_mem_digits h)

/-- The text of a counter is read as that counter. -/
theorem read?_write {n : Int} (h : fits n = true) : read? (write n) = some n := by
  rw [read?, trimChars_of_not_blank fun c hc => isBlank_of_mem_write hc, ofChars?_write]
  simp [h]

theorem fits_of_read? {s : String} {n : Int} (h : read? s = some n) : fits n = true := by
  rw [read?] at h
  exact (Option.filter_eq_some_iff.1 h).2

end FlowScript.Text.Integer
