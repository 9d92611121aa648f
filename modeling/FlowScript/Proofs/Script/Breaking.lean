import FlowScript.Script.Sequence

/-!
# Breaking tokens

A token is read from left to right up to the first separator that is not shielded (`Reaches`). Where
no shield can lie across a cut, what was read up to the cut has nothing to be cut in it when it is
read alone (`Reaches.alone`). So breaking a list of tokens a second time changes nothing, and the
pieces of a token are never empty and together are the token (`normalize_normalize_and_lossless`).
-/

namespace FlowScript.Breaker

/-! ## Shields -/

/-- None of the shields holds the first character of a text. -/
def Clear (shields : List String) (cs : List Char) : Prop :=
  ∀ c ∈ cs.head?, ∀ s ∈ shields, c ∉ s.toList

theorem Clear.append {shields : List String} {cs : List Char} (h : Clear shields cs) (hne : cs ≠ [])
    (more : List Char) : Clear shields (cs ++ more) := by
  cases cs with
  | nil => exact absurd rfl hne
  | cons c cs => exact h

/-- There is a separator, and no shield can lie across it: none before a separator holds its last
character, and none after a separator its first. -/
structure Stable (b : Breaker) : Prop where
  sep_ne : b.sep ≠ ""
  clearBefore : Clear b.shieldsBefore b.sep.toList.reverse
  clearAfter : Clear b.shieldsAfter b.sep.toList

variable {b : Breaker}

/-- A run that does not hold the first character of what follows ends before it. -/
theorem prefix_of_prefix_append {s cs rest : List Char} (h : s <+: cs ++ rest)
    (hrest : ∀ c ∈ rest.head?, c ∉ s) : s <+: cs := by
  obtain ⟨tail, htail⟩ := h
  rcases List.append_eq_append_iff.1 htail with ⟨more, rfl, -⟩ | ⟨beyond, rfl, rfl⟩
  · exact List.prefix_append s more
  · cases beyond with
    | nil => simp
    | cons c more => exact absurd (by simp) (hrest c rfl)

/-- Text that no shield reaches into can be taken away on both sides. -/
theorem isShielded_of_clear {before outer after tail : List Char}
    (houter : Clear b.shieldsBefore outer) (htail : Clear b.shieldsAfter tail)
    (h : b.isShielded (before ++ outer) (after ++ tail) = true) :
    b.isShielded before after = true := by
  simp only [isShielded, Bool.or_eq_true, List.any_eq_true, List.isPrefixOf_iff_prefix] at h ⊢
  rcases h with ⟨s, hs, hpre⟩ | ⟨s, hs, hpre⟩
  · refine .inl ⟨s, hs, prefix_of_prefix_append hpre fun c hc => ?_⟩
    simpa using houter c hc s hs
  · exact .inr ⟨s, hs, prefix_of_prefix_append hpre fun c hc => htail c hc s hs⟩

/-! ## Up to a cut -/

/-- Nothing is to be cut in `piece` if it is read after `before`, which is given backwards, and
followed by `rest`. There is no `rest`, or it begins with a separator that is not shielded. -/
inductive Reaches (b : Breaker) : (before piece rest : List Char) → Prop
  | stop {before : List Char} : Reaches b before [] []
  | cut {before after : List Char} (h : b.isShielded before after = false) :
    Reaches b before [] (b.sep.toList ++ after)
  | pass {before piece rest : List Char} (h : b.isShielded before (piece ++ rest) = true)
      (hnext : Reaches b (b.sep.toList.reverse ++ before) piece rest) :
    Reaches b before (b.sep.toList ++ piece) rest
  | skip {before piece rest : List Char} {c : Char} (h : ¬ b.sep.toList <+: c :: (piece ++ rest))
      (hnext : Reaches b (c :: before) piece rest) :
    Reaches b before (c :: piece) rest

theorem exists_reaches (hsep : b.sep ≠ "") (before text : List Char) :
    ∃ piece rest, text = piece ++ rest ∧ b.Reaches before piece rest := by
  induction hlen : text.length using Nat.strongRecOn generalizing before text with
  | ind n ih =>
    subst hlen
    have hpos : 0 < b.sep.toList.length := List.length_pos_iff.2 (by simpa using hsep)
    cases text with
    | nil => exact ⟨[], [], rfl, .stop⟩
    | cons c cs =>
      by_cases hpre : b.sep.toList <+: c :: cs
      · obtain ⟨after, hafter⟩ := hpre
        rw [← hafter] at ih ⊢
        cases hshield : b.isShielded before after with
        | false => exact ⟨[], _, rfl, .cut hshield⟩
        | true =>
          obtain ⟨piece, rest, rfl, hreaches⟩ :=
            ih after.length (by simp; omega) (b.sep.toList.reverse ++ before) after rfl
          exact ⟨_, rest, (List.append_assoc ..).symm, .pass hshield hreaches⟩
      · obtain ⟨piece, rest, rfl, hreaches⟩ := ih cs.length (by simp) (c :: before) cs rfl
        exact ⟨c :: piece, rest, rfl, .skip hpre hreaches⟩

namespace Reaches

theorem rest_eq {before piece rest : List Char} (h : b.Reaches before piece rest) :
    rest = [] ∨ ∃ after, rest = b.sep.toList ++ after ∧
      b.isShielded (piece.reverse ++ before) after = false := by
  induction h with
  | stop => exact .inl rfl
  | cut h => exact .inr ⟨_, rfl, h⟩
  | pass _ _ ih => simpa using ih
  | skip _ _ ih => simpa using ih

/-- What stands around a piece can be taken away if no shield reaches into it, and with it an end of
the piece that no separator reaches into. -/
theorem alone {before outer piece right rest : List Char}
    (h : b.Reaches (before ++ outer) (piece ++ right) rest) (houter : Clear b.shieldsBefore outer)
    (hrest : Clear b.shieldsAfter (right ++ rest)) (hright : ∀ c ∈ right.head?, c ∉ b.sep.toList) :
    b.Reaches before piece [] := by
  generalize hfront : before ++ outer = front at h
  generalize hread : piece ++ right = read at h
  induction h generalizing before piece with
  | stop =>
    obtain ⟨rfl, -⟩ := List.append_eq_nil_iff.1 hread
    exact .stop
  | cut =>
    obtain ⟨rfl, -⟩ := List.append_eq_nil_iff.1 hread
    exact .stop
  | @pass _ read' rest hshield _ ih =>
    subst hfront
    -- the separator ends inside the piece
    obtain ⟨piece', rfl, rfl⟩ :
        ∃ piece', piece = b.sep.toList ++ piece' ∧ piece' ++ right = read' := by
      rcases List.append_eq_append_iff.1 hread with ⟨beyond, hsep, rfl⟩ | ⟨piece', rfl, rfl⟩
      · cases beyond with
        | nil => exact ⟨[], by simpa using hsep.symm, rfl⟩
        | cons c more => exact absurd (by simp [hsep]) (hright c rfl)
      · exact ⟨piece', rfl, rfl⟩
    rw [List.append_assoc] at hshield
    refine .pass ?_ (ih hrest (List.append_assoc ..) rfl)
    simpa using isShielded_of_clear houter hrest hshield
  | @skip _ read' rest c hpre _ ih =>
    subst hfront
    rcases List.append_eq_cons_iff.1 hread with ⟨rfl, -⟩ | ⟨piece', rfl, rfl⟩
    · exact .stop
    · refine .skip (fun hsep => hpre ?_) (ih hrest rfl rfl)
      rw [List.append_nil] at hsep
      exact hsep.trans ⟨right ++ rest, by simp⟩

end Reaches

/-! ## All cuts -/

/-- A text as a list of pieces: an empty text has none. -/
def asPieces (cs : List Char) : List (List Char) :=
  if cs.isEmpty then [] else [cs]

theorem mem_asPieces {cs p : List Char} : p ∈ asPieces cs ↔ p = cs ∧ cs ≠ [] := by
  cases cs <;> simp [asPieces]

theorem nil_not_mem_asPieces (cs : List Char) : [] ∉ asPieces cs := by
  cases cs <;> simp [asPieces]

theorem flatten_asPieces (cs : List Char) : (asPieces cs).flatten = cs := by
  cases cs <;> simp [asPieces]

section Rest

variable (before piece : List Char)

theorem cutRest_nil : b.cutRest before piece [] = asPieces piece.reverse := by
  simp [cutRest, asPieces]

theorem cutRest_sep (hsep : b.sep ≠ "") (after : List Char) :
    b.cutRest before piece (b.sep.toList ++ after) =
      if b.isShielded before after then
        b.cutRest (b.sep.toList.reverse ++ before) (b.sep.toList.reverse ++ piece) after
      else
        asPieces piece.reverse ++
          b.sep.toList :: b.cutRest (b.sep.toList.reverse ++ before) [] after := by
  obtain ⟨c, cs, hcs⟩ : ∃ c cs, b.sep.toList = c :: cs :=
    List.exists_cons_of_ne_nil (by simpa using hsep)
  have htext : b.sep.toList ++ after = c :: (cs ++ after) := by rw [hcs, List.cons_append]
  have hpre : b.sep.toList.isPrefixOf (c :: (cs ++ after)) = true := by
    simp [hcs, List.isPrefixOf_iff_prefix]
  have hafter : (cs ++ after).drop (b.sep.toList.length - 1) = after := by
    simp [hcs]
  rw [htext, cutRest]
  simp only [hpre, if_true, hafter]
  cases piece <;> simp [asPieces]

theorem cutRest_cons {c : Char} {cs : List Char} (h : ¬ b.sep.toList <+: c :: cs) :
    b.cutRest before piece (c :: cs) = b.cutRest (c :: before) (c :: piece) cs := by
  rw [← List.isPrefixOf_iff_prefix] at h
  rw [cutRest]
  simp only [h, Bool.false_eq_true, if_false]

end Rest

/-- Up to a cut everything goes to one piece. -/
theorem cutRest_append (hsep : b.sep ≠ "") {before read rest : List Char}
    (h : b.Reaches before read rest) (piece : List Char) :
    b.cutRest before piece (read ++ rest) =
      b.cutRest (read.reverse ++ before) (read.reverse ++ piece) rest := by
  induction h generalizing piece with
  | stop => rfl
  | cut => rfl
  | pass hshield _ ih => rw [List.append_assoc, cutRest_sep _ _ hsep, if_pos hshield, ih]; simp
  | skip hpre _ ih => rw [List.cons_append, cutRest_cons _ _ hpre, ih]; simp

/-- What is cut off first, and how the rest is cut. -/
theorem cutRest_cases (hsep : b.sep ≠ "") (before text : List Char) :
    ∃ read rest, text = read ++ rest ∧ b.Reaches before read rest ∧
      (rest = [] ∧ b.cutRest before [] text = asPieces read ∨
        ∃ after, rest = b.sep.toList ++ after ∧ after.length < text.length ∧
          b.cutRest before [] text = asPieces read ++ b.sep.toList ::
            b.cutRest (b.sep.toList.reverse ++ (read.reverse ++ before)) [] after) := by
  obtain ⟨read, rest, rfl, h⟩ := exists_reaches hsep before text
  refine ⟨read, rest, rfl, h, ?_⟩
  rw [cutRest_append hsep h]
  rcases h.rest_eq with rfl | ⟨after, rfl, hshield⟩
  · exact .inl ⟨rfl, by simp [cutRest_nil]⟩
  · have hpos : 0 < b.sep.toList.length := List.length_pos_iff.2 (by simpa using hsep)
    refine .inr ⟨after, rfl, ?_, by simp [cutRest_sep _ _ hsep, hshield]⟩
    simp only [List.length_append]
    omega

/-- Nothing is lost, and no piece is empty. -/
theorem cutRest_lossless (hsep : b.sep ≠ "") (before text : List Char) :
    (b.cutRest before [] text).flatten = text ∧ [] ∉ b.cutRest before [] text := by
  induction hlen : text.length using Nat.strongRecOn generalizing before text with
  | ind n ih =>
    subst hlen
    have hne : b.sep.toList ≠ [] := by simpa using hsep
    obtain ⟨read, rest, rfl, -, ⟨rfl, hcut⟩ | ⟨after, rfl, hshorter, hcut⟩⟩ :=
      cutRest_cases hsep before text
    · rw [hcut, flatten_asPieces, List.append_nil]
      exact ⟨rfl, nil_not_mem_asPieces read⟩
    · obtain ⟨hflatten, hempty⟩ := ih _ hshorter _ after rfl
      rw [hcut, List.flatten_append, flatten_asPieces, List.flatten_cons, hflatten]
      simpa [nil_not_mem_asPieces, hempty] using hne.symm

/-- A piece is a separator, or there is nothing to be cut in it. -/
theorem Stable.mem_cutRest (hb : b.Stable) {before text : List Char}
    (hbefore : Clear b.shieldsBefore before) {piece : List Char}
    (h : piece ∈ b.cutRest before [] text) :
    piece = b.sep.toList ∨ b.Reaches [] piece [] := by
  induction hlen : text.length using Nat.strongRecOn generalizing before text with
  | ind n ih =>
    subst hlen
    have hne : b.sep.toList ≠ [] := by simpa using hb.sep_ne
    obtain ⟨read, rest, rfl, hreaches, hcases⟩ := cutRest_cases hb.sep_ne before text
    -- what was read up to the cut is read alone in the same way
    have hread : b.Reaches ([] ++ before) (read ++ []) rest := by simpa using hreaches
    have halone (hclear : Clear b.shieldsAfter rest) : b.Reaches [] read [] :=
      hread.alone hbefore hclear (by simp)
    rcases hcases with ⟨rfl, hcut⟩ | ⟨after, rfl, hshorter, hcut⟩
    · rw [hcut, mem_asPieces] at h
      exact .inr (h.1 ▸ halone (by simp [Clear]))
    · rw [hcut, List.mem_append, List.mem_cons, mem_asPieces] at h
      rcases h with ⟨rfl, -⟩ | rfl | h
      · exact .inr (halone (hb.clearAfter.append hne _))
      · exact .inl rfl
      · exact ih _ hshorter (hb.clearBefore.append (by simpa using hne) _) h rfl

/-! ## Tokens -/

theorem cutToken_eq (hsep : b.sep ≠ "") (token : String) :
    b.cutToken token = (b.cutRest [] [] token.toList).map String.ofList := by
  rw [cutToken, if_neg (by simpa using hsep)]

/-- The pieces of a token are not empty, and one after the other they are the token. -/
theorem cutToken_lossless (b : Breaker) (token : String) :
    (∀ piece ∈ b.cutToken token, piece ≠ "") ∧ String.join (b.cutToken token) = token := by
  by_cases hsep : b.sep = ""
  · by_cases htoken : token = ""
    · simp [cutToken, hsep, htoken]
    · simp [cutToken, hsep, htoken]
  · obtain ⟨hflatten, hempty⟩ := cutRest_lossless hsep [] token.toList
    rw [cutToken_eq hsep]
    constructor
    · intro piece hpiece hnil
      obtain ⟨cs, hcs, rfl⟩ := List.mem_map.1 hpiece
      obtain rfl : cs = [] := by simpa using hnil
      exact hempty hcs
    · rw [← String.toList_inj, String.toList_join, List.flatMap_map]
      simpa [← List.flatten_eq_flatMap] using hflatten

/-- The separator stays whole, shielded or not. -/
theorem cutToken_sep (hsep : b.sep ≠ "") : b.cutToken b.sep = [b.sep] := by
  have hpieces : asPieces b.sep.toList = [b.sep.toList] := by simp [asPieces, hsep]
  have hcut := cutRest_sep (b := b) [] [] hsep []
  simp only [List.append_nil, cutRest_nil, List.reverse_reverse, hpieces] at hcut
  rw [cutToken_eq hsep, hcut]
  split <;> simp [asPieces]

theorem cutToken_of_reaches (hsep : b.sep ≠ "") {token : String} (hne : token ≠ "")
    (h : b.Reaches [] token.toList []) : b.cutToken token = [token] := by
  have hcut := cutRest_append hsep h []
  rw [List.append_nil, cutRest_nil, List.append_nil, List.reverse_reverse] at hcut
  rw [cutToken_eq hsep, hcut, asPieces, if_neg (by simpa using hne)]
  simp

theorem Stable.mem_cutToken (hb : b.Stable) {token piece : String} (h : piece ∈ b.cutToken token) :
    piece = b.sep ∨ b.Reaches [] piece.toList [] := by
  rw [cutToken_eq hb.sep_ne] at h
  obtain ⟨cs, hcs, rfl⟩ := List.mem_map.1 h
  rcases hb.mem_cutRest (by simp [Clear]) hcs with rfl | hreaches
  · exact .inl String.ofList_toList
  · exact .inr (by simpa using hreaches)

/-- A piece is not cut again. -/
theorem Stable.cutToken_piece (hb : b.Stable) {token piece : String}
    (h : piece ∈ b.cutToken token) : b.cutToken piece = [piece] := by
  rcases hb.mem_cutToken h with rfl | hreaches
  · exact cutToken_sep hb.sep_ne
  · exact cutToken_of_reaches hb.sep_ne ((b.cutToken_lossless token).1 piece h) hreaches

theorem normalize_eq_self {tokens : List String} (h : ∀ t ∈ tokens, b.cutToken t = [t]) :
    b.normalize tokens = tokens := by
  rw [normalize, List.flatMap_def, List.map_congr_left h, ← List.flatMap_def,
    List.flatMap_singleton']

theorem standard_stable : standard.Stable where
  sep_ne := by decide
  clearBefore := by simp [Clear, standard]
  clearAfter := by simp [Clear, standard]

/-- If no shield can lie across a separator, tokens that were broken are not broken any further; the
standard breaker is one where none can. Whatever the breaker, the pieces of a token are not empty
and concatenate to it. -/
theorem normalize_normalize_and_lossless (b : Breaker) :
    (b.Stable → ∀ tokens, b.normalize (b.normalize tokens) = b.normalize tokens) ∧
    standard.Stable ∧
    ∀ token, (∀ piece ∈ b.cutToken token, piece ≠ "") ∧
      String.join (b.cutToken token) = token := by
  refine ⟨fun hb tokens => normalize_eq_self fun piece hpiece => ?_, standard_stable,
    b.cutToken_lossless⟩
  obtain ⟨token, -, hcut⟩ := List.mem_flatMap.1 hpiece
  exact hb.cutToken_piece hcut

/-- A breaker with a separator of two characters. -/
def doubled : Breaker where
  sep := "::"
  shieldsBefore := ["std", "é"]
  shieldsAfter := ["/", "日本"]

/-- Occurrences that overlap, shields on both sides and an empty token. -/
theorem normalize_normalize_doubled :
    doubled.Stable ∧
    doubled.normalize ["std::é::b:::c", "", "::x::/y::日::日本"] =
      ["std::é::b", "::", ":c", "::", "x::/y", "::", "日::日本"] ∧
    doubled.normalize ["std::é::b", "::", ":c", "::", "x::/y", "::", "日::日本"] =
      ["std::é::b", "::", ":c", "::", "x::/y", "::", "日::日本"] := by
  have hstable : doubled.Stable :=
    ⟨by decide, by simp [Clear, doubled], by simp [Clear, doubled]⟩
  have honce : doubled.normalize ["std::é::b:::c", "", "::x::/y::日::日本"] =
      ["std::é::b", "::", ":c", "::", "x::/y", "::", "日::日本"] := by
    decide +kernel
  have htwice := (normalize_normalize_and_lossless doubled).1 hstable
    ["std::é::b:::c", "", "::x::/y::日::日本"]
  rw [honce] at htwice
  exact ⟨hstable, honce, htwice⟩

end FlowScript.Breaker
