import FlowScript.Proofs.Text.Encoding

/-!
# Order of texts and order of bytes

Texts are ordered by their characters. UTF-8 keeps this order: the encoding of a smaller character
has the smaller byte where it first differs from that of a greater one, whatever follows them
(`utf8EncodeChar_append_lt`), so the bytes of texts are ordered as the texts are (`bytes_lt_iff`).
-/

namespace FlowScript.Text

/-! ## Characters -/

theorem ofNat_eq_ofNat {m n : Nat} (hm : m < 256) (hn : n < 256) :
    UInt8.ofNat m = UInt8.ofNat n ↔ m = n := by
  rw [← UInt8.toNat_inj, UInt8.toNat_ofNat_of_lt' hm, UInt8.toNat_ofNat_of_lt' hn]

/-- Numbers differ before their last six bits or in them. -/
theorem lt_sixBits {m n : Nat} (h : m < n) :
    m / 64 < n / 64 ∨ m / 64 = n / 64 ∧ m % 64 < n % 64 := by
  omega

/-- One of the groups of six bits is the first to differ. -/
theorem lt_groups {m n : Nat} (h : m < n) :
    m / 262144 < n / 262144 ∨ m / 262144 = n / 262144 ∧
      (m / 4096 % 64 < n / 4096 % 64 ∨ m / 4096 % 64 = n / 4096 % 64 ∧
        (m / 64 % 64 < n / 64 % 64 ∨ m / 64 % 64 = n / 64 % 64 ∧ m % 64 < n % 64)) := by
  have hdiv (k : Nat) : k / 4096 = k / 64 / 64 ∧ k / 262144 = k / 64 / 64 / 64 := by
    simp only [Nat.div_div_eq_div_mul, and_self]
  rw [(hdiv m).1, (hdiv m).2, (hdiv n).1, (hdiv n).2]
  rcases lt_sixBits h with h1 | ⟨h1, h0⟩
  · rcases lt_sixBits h1 with h2 | ⟨h2, h1⟩
    · rcases lt_sixBits h2 with h3 | ⟨h3, h2⟩
      · exact .inl h3
      · exact .inr ⟨h3, .inl h2⟩
    · exact .inr ⟨by rw [h2], .inr ⟨by rw [h2], .inl h1⟩⟩
  · exact .inr ⟨by rw [h1], .inr ⟨by rw [h1], .inr ⟨by rw [h1], h0⟩⟩⟩

/-- Encodings are ordered as the characters are, whatever comes after them. -/
theorem utf8EncodeChar_append_lt {c d : Char} (h : c < d) (bs bs' : Bytes) :
    String.utf8EncodeChar c ++ bs < String.utf8EncodeChar d ++ bs' := by
  have hlt : c.val.toNat < d.val.toNat := h
  have hgroups := lt_groups hlt
  have hsize : UInt8.size = 256 := rfl
  have hbound : d.val.toNat < 1114112 := by rcases d.valid with h | ⟨-, h⟩ <;> omega
  simp only [String.utf8EncodeChar]
  generalize c.val.toNat = m, d.val.toNat = n at hlt hgroups hbound
  have hm : m / 262144 % 8 = m / 262144 := Nat.mod_eq_of_lt (by omega)
  have hn : n / 262144 % 8 = n / 262144 := Nat.mod_eq_of_lt (by omega)
  -- the first byte tells how long an encoding is, and longer ones are those of greater characters
  split_ifs <;> simp (disch := omega) only [List.cons_append, List.nil_append,
    List.cons_lt_cons_iff, UInt8.ofNat_lt_iff_lt, ofNat_eq_ofNat, hm, hn] <;> omega

/-! ## Texts -/

theorem flatMap_utf8EncodeChar_lt {cs ds : List Char} (h : cs < ds) :
    cs.flatMap String.utf8EncodeChar < ds.flatMap String.utf8EncodeChar := by
  induction cs generalizing ds with
  | nil =>
    cases ds with
    | nil => exact absurd h (List.lt_irrefl _)
    | cons d ds =>
      cases hd : String.utf8EncodeChar d with
      | nil => exact absurd hd String.utf8EncodeChar_ne_nil
      | cons b bs => simp [hd]
  | cons c cs ih =>
    cases ds with
    | nil => exact absurd h (List.not_lt_nil _)
    | cons d ds =>
      rw [List.flatMap_cons, List.flatMap_cons]
      rcases List.cons_lt_cons_iff.1 h with hlt | ⟨rfl, hlt⟩
      · exact utf8EncodeChar_append_lt hlt _ _
      · exact List.append_left_lt (ih hlt)

theorem bytes_lt {s t : String} (h : s < t) : bytes s < bytes t := by
  rw [bytes_eq_flatMap, bytes_eq_flatMap]
  exact flatMap_utf8EncodeChar_lt (String.lt_iff.1 h)

/-- Texts are ordered as their bytes. -/
theorem bytes_lt_iff {s t : String} : bytes s < bytes t ↔ s < t := by
  refine ⟨fun h => ?_, bytes_lt⟩
  apply Classical.byContradiction
  intro hnot
  by_cases heq : s = t
  · exact List.lt_irrefl _ (heq ▸ h)
  · have hlt : t < s := Std.lt_of_le_of_ne (String.not_lt.1 hnot) (Ne.symm heq)
    exact List.lt_asymm h (bytes_lt hlt)

end FlowScript.Text
