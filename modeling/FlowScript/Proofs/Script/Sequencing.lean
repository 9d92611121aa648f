import FlowScript.Proofs.Script.Breaking
import FlowScript.Proofs.Text.Trimming
import Mathlib.Data.List.Basic

/-!
# The sequences of a script

A separator between two scripts keeps their sequences apart (`sequences_append`). Where neither the
separator nor a shield holds a blank, trimming a piece does not expose a separator in it
(`Reaches.trim`). So a script can be written from its sequences, with separators between
them, and falls into the same sequences again (`sequences_rejoined`).
-/

namespace FlowScript.Breaker

variable {b : Breaker}

/-! ## Grouping -/

theorem mem_splitOnP {p : String → Bool} {tokens group : List String} {token : String}
    (hgroup : group ∈ tokens.splitOnP p) (h : token ∈ group) :
    token ∈ tokens ∧ p token = false := by
  induction tokens generalizing group with
  | nil =>
    obtain rfl : group = [] := by simpa using hgroup
    simp at h
  | cons t rest ih =>
    obtain ⟨first, others, hsplit⟩ := List.exists_cons_of_ne_nil (List.splitOnP_ne_nil p rest)
    rw [List.splitOnP_cons_eq_if_modifyHead, hsplit] at hgroup
    rw [hsplit] at ih
    by_cases ht : p t = true
    · rw [if_pos ht, List.mem_cons] at hgroup
      rcases hgroup with rfl | hgroup
      · simp at h
      · exact (ih hgroup h).imp_left (List.mem_cons_of_mem t)
    · rw [if_neg ht, List.modifyHead_cons, List.mem_cons] at hgroup
      rcases hgroup with rfl | hgroup
      · rcases List.mem_cons.1 h with rfl | h
        · exact ⟨List.mem_cons_self, by simpa using ht⟩
        · exact (ih List.mem_cons_self h).imp_left (List.mem_cons_of_mem t)
      · exact (ih (List.mem_cons_of_mem _ hgroup) h).imp_left (List.mem_cons_of_mem t)

/-- The sequences in tokens that are broken already. -/
def group (b : Breaker) (normal : List String) : List (List String) :=
  ((normal.splitOnP (· == b.sep)).map (·.filterMap Text.trimmed?)).filter fun g => !g.isEmpty

theorem sequences_eq (tokens : List String) :
    b.sequences tokens =
      ⟨b.group (b.normalize tokens), decide ((b.normalize tokens).head? ≠ some b.sep)⟩ := rfl

theorem group_nil : b.group [] = [] := by
  simp [group]

theorem group_append (normal normal' : List String) :
    b.group (normal ++ b.sep :: normal') = b.group normal ++ b.group normal' := by
  rw [group, List.splitOnP_append_cons _ _ (by simp), List.map_append, List.filter_append]
  rfl

theorem normalize_append (hsep : b.sep ≠ "") (tokens tokens' : List String) :
    b.normalize (tokens ++ b.sep :: tokens') =
      b.normalize tokens ++ b.sep :: b.normalize tokens' := by
  rw [normalize, List.flatMap_append, List.flatMap_cons, cutToken_sep hsep]
  rfl

/-- With a separator between two scripts, each keeps its sequences. If the first script has one, it
has a first token, and what follows does not count for how the script opens. -/
theorem sequences_append (hsep : b.sep ≠ "") {tokens : List String}
    (h : (b.sequences tokens).groups ≠ []) (tokens' : List String) :
    b.sequences (tokens ++ b.sep :: tokens') =
      ⟨(b.sequences tokens).groups ++ (b.sequences tokens').groups,
        (b.sequences tokens).opensGlobal⟩ := by
  simp only [sequences_eq, normalize_append hsep, group_append] at h ⊢
  cases hnormal : b.normalize tokens with
  | nil => exact absurd (hnormal ▸ group_nil) h
  | cons t rest => rfl

/-- A separator at the start adds no sequence. -/
theorem sequences_sep_cons (hsep : b.sep ≠ "") (tokens : List String) :
    b.sequences (b.sep :: tokens) = ⟨(b.sequences tokens).groups, false⟩ := by
  have hnormal : b.normalize (b.sep :: tokens) = b.sep :: b.normalize tokens :=
    normalize_append hsep [] tokens
  have hgroup : b.group (b.sep :: b.normalize tokens) = b.group (b.normalize tokens) := by
    simpa [group_nil] using group_append (b := b) [] (b.normalize tokens)
  simp [sequences_eq, hnormal, hgroup]

/-! ## Trimming -/

/-- Neither the separator nor a shield holds a blank, and a separator that stands alone is not
shielded. -/
structure Solid (b : Breaker) : Prop extends b.Stable where
  sep_solid : ∀ c ∈ b.sep.toList, Text.isBlank c = false
  shields_solid : ∀ s ∈ b.shieldsBefore ++ b.shieldsAfter, ∀ c ∈ s.toList, Text.isBlank c = false
  exposed : b.isShielded [] [] = false

theorem standard_solid : standard.Solid where
  toStable := standard_stable
  sep_solid := List.forall_mem_singleton.2 (by decide)
  shields_solid := by
    have hsolid : (standard.shieldsBefore ++ standard.shieldsAfter).all
        (·.toList.all (!Text.isBlank ·)) = true := by
      decide +kernel
    simpa only [List.all_eq_true, Bool.not_eq_true'] using hsolid
  exposed := by decide

/-- No shield holds a blank. -/
theorem Solid.clear (hb : b.Solid) {shields : List String}
    (hshields : shields ⊆ b.shieldsBefore ++ b.shieldsAfter) {cs : List Char}
    (hcs : Text.Blanks cs) : Clear shields cs := by
  intro c hc s hs hmem
  have hblank := hcs c (List.mem_of_mem_head? hc)
  simp [hb.shields_solid s (hshields hs) c hmem] at hblank

namespace Reaches

/-- Blanks are read one by one. -/
theorem of_blanks (hsep : b.sep ≠ "") (hsolid : ∀ c ∈ b.sep.toList, Text.isBlank c = false)
    {left before piece rest : List Char} (hleft : Text.Blanks left)
    (h : b.Reaches before (left ++ piece) rest) :
    b.Reaches (left.reverse ++ before) piece rest := by
  induction left generalizing before with
  | nil => exact h
  | cons c left ih =>
    have hc := hleft c List.mem_cons_self
    have hnext : b.Reaches (c :: before) (left ++ piece) rest := by
      generalize hread : c :: left ++ piece = read at h
      cases h with
      | stop => cases hread
      | cut => cases hread
      | @pass _ piece' _ _ _ =>
        obtain ⟨d, sep, hd⟩ := List.exists_cons_of_ne_nil
          (show b.sep.toList ≠ [] by simpa using hsep)
        rw [hd] at hread
        obtain ⟨rfl, -⟩ := List.cons.inj hread
        simp [hsolid c (by simp [hd])] at hc
      | skip _ hnext =>
        obtain ⟨rfl, rfl⟩ := List.cons.inj hread
        exact hnext
    simpa using ih (fun d hd => hleft d (List.mem_cons_of_mem c hd)) hnext

/-- Trimming a piece leaves nothing to be cut in it. -/
theorem trim (hb : b.Solid) {piece : List Char} (h : b.Reaches [] piece []) :
    b.Reaches [] (Text.trimChars piece) [] := by
  obtain ⟨left, right, hleft, hright, hsplit⟩ := Text.exists_padding piece
  rw [hsplit, List.append_assoc] at h
  have hread : b.Reaches ([] ++ left.reverse) (Text.trimChars piece ++ right) [] := by
    simpa using h.of_blanks hb.sep_ne hb.sep_solid hleft
  refine hread.alone (hb.clear (by simp) ?_) (hb.clear (by simp) ?_) fun c hc hmem => ?_
  · exact fun c hc => hleft c (List.mem_reverse.1 hc)
  · simpa using hright
  · have hblank := hright c (List.mem_of_mem_head? hc)
    simp [hb.sep_solid c hmem] at hblank

/-- If there is nothing to be cut in a separator, it is shielded. -/
theorem isShielded_sep (hsep : b.sep ≠ "") {before rest : List Char}
    (h : b.Reaches before b.sep.toList rest) : b.isShielded before rest = true := by
  generalize hread : b.sep.toList = read at h
  cases h with
  | stop => exact absurd hread (by simpa using hsep)
  | cut => exact absurd hread (by simpa using hsep)
  | pass hshield _ =>
    obtain rfl := List.self_eq_append_right.1 hread
    exact hshield
  | skip hpre _ => exact absurd (by simp [hread]) hpre

end Reaches

/-! ## Writing a script from its sequences -/

/-- A token that is left as it is when a script is broken into sequences. -/
structure Settled (b : Breaker) (token : String) : Prop where
  ne_empty : token ≠ ""
  trimmed : Text.trim token = token
  ne_sep : token ≠ b.sep
  uncut : b.cutToken token = [token]

theorem Solid.settled (hb : b.Solid) {tokens : List String} {sequence : List String}
    (hsequence : sequence ∈ (b.sequences tokens).groups) :
    sequence ≠ [] ∧ ∀ token ∈ sequence, b.Settled token := by
  rw [sequences_eq, group, List.mem_filter] at hsequence
  obtain ⟨hmem, hne⟩ := hsequence
  refine ⟨by simpa using hne, fun token htoken => ?_⟩
  obtain ⟨pieces, hpieces, rfl⟩ := List.mem_map.1 hmem
  obtain ⟨piece, hpiece, htrimmed⟩ := List.mem_filterMap.1 htoken
  obtain ⟨hnormal, hsep⟩ := mem_splitOnP hpieces hpiece
  obtain ⟨raw, -, hcut⟩ := List.mem_flatMap.1 hnormal
  obtain rfl := Text.trimmed?_eq_some htrimmed
  have hnonempty : Text.trim piece ≠ "" := by
    intro hempty
    simp [Text.trimmed?, hempty] at htrimmed
  have hreaches : b.Reaches [] (Text.trim piece).toList [] := by
    rw [Text.toList_trim]
    exact ((hb.mem_cutToken hcut).resolve_left (by simpa using hsep)).trim hb
  refine ⟨hnonempty, ?_, fun heq => ?_, cutToken_of_reaches hb.sep_ne hnonempty hreaches⟩
  · exact (Text.trimmed?_eq_some ((Text.trimmed?_trim piece).trans htrimmed)).symm
  · rw [heq] at hreaches
    exact absurd (hreaches.isShielded_sep hb.sep_ne) (by simp [hb.exposed])

theorem Settled.trimmed? {token : String} (h : b.Settled token) :
    Text.trimmed? token = some token := by
  rw [Text.trimmed?, h.trimmed, if_neg (by simpa using h.ne_empty)]

/-- Settled tokens are one sequence. -/
theorem sequences_of_settled {sequence : List String} (hne : sequence ≠ [])
    (h : ∀ token ∈ sequence, b.Settled token) : b.sequences sequence = ⟨[sequence], true⟩ := by
  have hnormal : b.normalize sequence = sequence :=
    normalize_eq_self fun token htoken => (h token htoken).uncut
  have hsplit : sequence.splitOnP (· == b.sep) = [sequence] :=
    List.splitOnP_eq_singleton fun token htoken => by simpa using (h token htoken).ne_sep
  have htrimmed : sequence.filterMap Text.trimmed? = sequence := by
    rw [List.filterMap_congr fun token htoken => (h token htoken).trimmed?, List.filterMap_some]
  obtain ⟨token, rest, rfl⟩ := List.exists_cons_of_ne_nil hne
  have hfirst := (h token List.mem_cons_self).ne_sep
  simp [sequences_eq, hnormal, group, hsplit, htrimmed, hfirst]

/-- Sequences of settled tokens with separators between them are found again. -/
theorem sequences_intercalate (hsep : b.sep ≠ "") {groups : List (List String)}
    (h : ∀ sequence ∈ groups, sequence ≠ [] ∧ ∀ token ∈ sequence, b.Settled token) :
    b.sequences ([b.sep].intercalate groups) = ⟨groups, true⟩ := by
  induction groups with
  | nil => simp [sequences_eq, normalize, group_nil]
  | cons sequence rest ih =>
    obtain ⟨⟨hne, hsettled⟩, hrest⟩ := List.forall_mem_cons.1 h
    have hfirst := sequences_of_settled hne hsettled
    by_cases hnil : rest = []
    · subst hnil
      simpa using hfirst
    · have htokens : [b.sep].intercalate (sequence :: rest) =
          sequence ++ b.sep :: [b.sep].intercalate rest := by
        simp [List.intercalate_cons_of_ne_nil hnil]
      rw [htokens, sequences_append hsep (by rw [hfirst]; simp), hfirst, ih hrest]
      rfl

/-- Every sequence of a script holds a token, and its tokens are trimmed, not empty and not the
separator. Written with separators between them, the sequences are a script that falls into the same
sequences and does not begin with a separator. -/
theorem sequences_rejoined (tokens : List String) :
    (∀ sequence ∈ (standard.sequences tokens).groups, sequence ≠ [] ∧ ∀ token ∈ sequence,
      token ≠ "" ∧ Text.trim token = token ∧ token ≠ ":") ∧
    standard.sequences ([":"].intercalate (standard.sequences tokens).groups) =
      ⟨(standard.sequences tokens).groups, true⟩ := by
  refine ⟨fun sequence hsequence => ?_, ?_⟩
  · obtain ⟨hne, hsettled⟩ := standard_solid.settled hsequence
    exact ⟨hne, fun token htoken =>
      ⟨(hsettled token htoken).ne_empty, (hsettled token htoken).trimmed,
        (hsettled token htoken).ne_sep⟩⟩
  · exact sequences_intercalate standard_solid.sep_ne fun sequence => standard_solid.settled

/-- Shielded separators, blanks inside and around tokens, and separators with nothing between. -/
theorem sequences_rejoined_shielded :
    standard.sequences [":", " http://x :  : aa:/b b", "\u3000", "c:"] =
      ⟨[["http://x"], ["aa:/b b", "c"]], false⟩ ∧
    "aa:/b b" ∈ ["aa:/b b", "c"] ∧
    ("aa:/b b" ≠ "" ∧ Text.trim "aa:/b b" = "aa:/b b" ∧ "aa:/b b" ≠ ":") ∧
    standard.sequences ["http://x", ":", "aa:/b b", "c"] =
      ⟨[["http://x"], ["aa:/b b", "c"]], true⟩ := by
  have hsequences : standard.sequences [":", " http://x :  : aa:/b b", "\u3000", "c:"] =
      ⟨[["http://x"], ["aa:/b b", "c"]], false⟩ := by
    decide +kernel
  obtain ⟨htokens, hrejoined⟩ := sequences_rejoined [":", " http://x :  : aa:/b b", "\u3000", "c:"]
  rw [hsequences] at htokens hrejoined
  refine ⟨hsequences, by decide, ?_, hrejoined⟩
  exact (htokens ["aa:/b b", "c"] (by simp)).2 "aa:/b b" (by simp)

end FlowScript.Breaker
