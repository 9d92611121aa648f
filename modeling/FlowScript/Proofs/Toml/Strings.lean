import FlowScript.Toml.Reader
import FlowScript.Toml.Writer
import Mathlib.Tactic.SplitIfs

/-!
# Strings that are written and read again

Whatever quotes a text is written in, reading gives it back and stops right behind it
(`readString_writeValue`, `readKeyPart_writeKey`). Between double quotes each character has a form
that reads as that character (`Denotes`); between three quotes it matters besides that no three quotes
in a row end the text too early, and that up to two of them may stand before the end.
-/

namespace FlowScript.Toml

/-- The result of a reader with one more character in front of what was read. -/
def prepend (c : Char) (result : Option (List Char × List Char)) :
    Option (List Char × List Char) :=
  result.map fun (body, rest) => (c :: body, rest)

@[simp] theorem prepend_some (c : Char) (body rest : List Char) :
    prepend c (some (body, rest)) = some (c :: body, rest) := rfl

/-! ## Characters -/

theorem isControl_eq (c : Char) : isControl c = (isRawControl c || c == '\n') := by
  by_cases hn : c = '\n'
  · subst hn
    decide
  · by_cases ht : c = '\t'
    · subst ht
      decide
    · simp [isControl, isRawControl, hn, ht]

theorem hexValue?_hexDigit {n : Nat} (h : n < 16) :
    isDigitIn.hexValue? (hexDigit n) = some n := by
  have hall : ∀ n < 16, isDigitIn.hexValue? (hexDigit n) = some n := by decide
  exact hall n h

theorem natInBase_hexQuad {n : Nat} (h : n < 65536) : natInBase 16 (hexQuad n) = n := by
  have hdigit (m : Nat) : isDigitIn.hexValue? (hexDigit (m % 16)) = some (m % 16) :=
    hexValue?_hexDigit (Nat.mod_lt m (by decide))
  simp only [natInBase, hexQuad, List.foldl_cons, List.foldl_nil, hdigit, Option.getD_some]
  omega

/-- Four hexadecimal digits write any character that is not beyond them. -/
theorem charOfHex?_hexQuad {c : Char} (h : c.toNat < 65536) :
    charOfHex? (hexQuad c.toNat) = some c := by
  have hdigits : (hexQuad c.toNat).all (isDigitIn 16) = true := by
    have hdigit (m : Nat) : isDigitIn 16 (hexDigit (m % 16)) = true := by
      have hlt : m % 16 < 16 := Nat.mod_lt m (by decide)
      simp [isDigitIn, hexValue?_hexDigit hlt, hlt]
    simp [hexQuad, hdigit]
  have hvalid : c.toNat.isValidChar := c.valid
  simp [charOfHex?, hdigits, natInBase_hexQuad h, hvalid]

/-! ## Forms of a character -/

/-- A form of a character between double quotes: itself, a backslash and one more, or a backslash
and its digits. -/
inductive Denotes : List Char → Char → Prop
  | plain {c : Char} (hquote : c ≠ '"') (hslash : c ≠ '\\') (hcontrol : isControl c = false) :
      Denotes [c] c
  | simple {c d : Char} (h : simpleEscape? d = some c) : Denotes ['\\', d] c
  | hex {c d₁ d₂ d₃ d₄ : Char} (h : charOfHex? [d₁, d₂, d₃, d₄] = some c) :
      Denotes ['\\', 'u', d₁, d₂, d₃, d₄] c

theorem denotes_escapeChar {c : Char} (hquote : c ≠ '"') (hline : c ≠ '\n') :
    Denotes (escapeChar c) c := by
  by_cases hback : c = '\x08'
  · subst hback
    exact .simple (d := 'b') rfl
  by_cases htab : c = '\t'
  · subst htab
    exact .simple (d := 't') rfl
  by_cases hfeed : c = '\x0c'
  · subst hfeed
    exact .simple (d := 'f') rfl
  by_cases hreturn : c = '\r'
  · subst hreturn
    exact .simple (d := 'r') rfl
  by_cases hslash : c = '\\'
  · subst hslash
    exact .simple (d := '\\') rfl
  rw [escapeChar, if_neg hback, if_neg htab, if_neg hfeed, if_neg hreturn, if_neg hslash]
  split
  · rename_i hcontrol
    have hlt : c.toNat < 65536 := by
      simp only [isRawControl, Bool.and_eq_true, Bool.or_eq_true, decide_eq_true_eq] at hcontrol
      omega
    exact .hex (charOfHex?_hexQuad hlt)
  · exact .plain hquote hslash (by simp_all [isControl_eq])

theorem hexEscape?_of_simple {c d : Char} (h : simpleEscape? d = some c) : hexEscape? d = none := by
  unfold simpleEscape? at h
  split at h <;> first | rfl | cases h

/-- A backslash before a character of an escape is not at the end of its line. -/
theorem atLineEnd_of_simple {c d : Char} (h : simpleEscape? d = some c) (rest : List Char) :
    atLineEnd (d :: rest) = false := by
  unfold simpleEscape? at h
  split at h <;> first | rfl | cases h

theorem basicBody_denotes {form : List Char} {c : Char} (h : Denotes form c) (rest : List Char) :
    basicBody none (form ++ rest) = prepend c (basicBody none rest) := by
  cases h with
  | plain hquote hslash hcontrol =>
    rw [List.singleton_append, basicBody.eq_def]
    simp [hquote, hslash, hcontrol, prepend]
  | simple hd => simp [basicBody, hexEscape?_of_simple hd, hd, prepend]
  | hex hd =>
    cases hrest : basicBody none rest <;> simp [basicBody, hexEscape?, hd, hrest, prepend]

theorem Denotes.eq_cons {form : List Char} {c : Char} (h : Denotes form c) :
    ∃ d ds, form = d :: ds ∧ d ≠ '"' ∧ isControl d = false := by
  cases h with
  | plain hquote _ hcontrol => exact ⟨_, _, rfl, hquote, hcontrol⟩
  | simple => exact ⟨_, _, rfl, by decide, by decide⟩
  | hex => exact ⟨_, _, rfl, by decide, by decide⟩

/-! ## One line -/

theorem escapeLine_cons (c : Char) (cs : List Char) :
    ∃ form, Denotes form c ∧ escapeLine (c :: cs) = form ++ escapeLine cs := by
  refine ⟨_, ?_, List.flatMap_cons⟩
  split
  · exact .simple (by simp_all [simpleEscape?])
  · split
    · exact .simple (by simp_all [simpleEscape?])
    · exact denotes_escapeChar ‹_› ‹_›

/-- What stands between double quotes on one line reads as the text it was written for. -/
theorem basicBody_escapeLine (cs rest : List Char) :
    basicBody none (escapeLine cs ++ '"' :: rest) = some (cs, rest) := by
  induction cs with
  | nil => rw [escapeLine, List.flatMap_nil, List.nil_append, basicBody.eq_def]; rfl
  | cons c cs ih =>
    obtain ⟨form, hform, htext⟩ := escapeLine_cons c cs
    rw [htext, List.append_assoc, basicBody_denotes hform, ih, prepend_some]

theorem literalBody_append {cs : List Char} (hquote : '\'' ∉ cs)
    (hcontrol : ∀ c ∈ cs, isControl c = false) (rest : List Char) :
    literalBody (cs ++ '\'' :: rest) = some (cs, rest) := by
  induction cs with
  | nil => simp [literalBody]
  | cons c cs ih =>
    obtain ⟨hc, hcs⟩ := not_or.1 (mt List.mem_cons.2 hquote)
    obtain ⟨hplain, hrest⟩ := List.forall_mem_cons.1 hcontrol
    simp [literalBody, Ne.symm hc, hplain, ih hcs hrest]

/-! ## Runs of quotes -/

section Runs

variable {q : Char} {rest : List Char}

theorem takeWhile_replicate_append (k : Nat) (hrest : rest.head? ≠ some q) :
    (List.replicate k q ++ rest).takeWhile (· == q) = List.replicate k q := by
  have hstop : rest.takeWhile (· == q) = [] := by
    cases rest with
    | nil => rfl
    | cons c cs =>
      have hc : c ≠ q := by simpa using hrest
      simp [hc]
  rw [List.takeWhile_append_of_pos (by simp), hstop, List.append_nil]

/-- Fewer than three quotes do not end a text in three quotes. -/
theorem closing?_eq_none {k : Nat} (hk : k < 3) (hrest : rest.head? ≠ some q) :
    closing? q (List.replicate k q ++ rest) = none := by
  simp [closing?, takeWhile_replicate_append k hrest, hk]

/-- Of three to five quotes the last three end the text. -/
theorem closing?_replicate {k : Nat} (hk : k < 3) (hrest : rest.head? ≠ some q) :
    closing? q (List.replicate (k + 3) q ++ rest) = some (List.replicate k q, rest) := by
  have hmin : min (k + 3) 5 = k + 3 := by omega
  simp [closing?, takeWhile_replicate_append (k + 3) hrest, hmin]

/-- Where runs are short the text begins with at most two quotes and then something else. -/
theorem exists_of_runsAtMostTwo {run : Nat} (hrun : run < 3) {cs : List Char}
    (h : runsAtMostTwo q run cs = true) :
    ∃ k more, k + run < 3 ∧ cs = List.replicate k q ++ more ∧ more.head? ≠ some q := by
  induction cs generalizing run with
  | nil => exact ⟨0, [], by omega, rfl, by simp⟩
  | cons c cs ih =>
    rw [runsAtMostTwo] at h
    by_cases hc : c = q
    · subst hc
      simp only [if_true, Bool.and_eq_true, decide_eq_true_eq] at h
      obtain ⟨k, more, hk, rfl, hmore⟩ := ih (by omega) h.2
      exact ⟨k + 1, more, by omega, by simp [List.replicate_succ], hmore⟩
    · exact ⟨0, c :: cs, by omega, rfl, by simpa using hc⟩

/-- A run of quotes ends the text if nothing but the closing quotes comes after it. -/
theorem closing?_run {k : Nat} (hk : k + 1 < 3) {more : List Char} (hmore : more.head? ≠ some q)
    (hrest : rest.head? ≠ some q) :
    closing? q (q :: (List.replicate k q ++ more ++ q :: q :: q :: rest)) =
      if more.isEmpty then some (List.replicate (k + 1) q, rest) else none := by
  cases more with
  | nil =>
    have htext : q :: (List.replicate k q ++ [] ++ q :: q :: q :: rest) =
        List.replicate (k + 1 + 3) q ++ rest := by
      have hthree : q :: q :: q :: rest = List.replicate 3 q ++ rest := rfl
      rw [List.append_nil, hthree, ← List.append_assoc, List.replicate_append_replicate]
      rfl
    rw [htext, closing?_replicate hk hrest]
    rfl
  | cons c more =>
    have htext : q :: (List.replicate k q ++ c :: more ++ q :: q :: q :: rest) =
        List.replicate (k + 1) q ++ (c :: more ++ q :: q :: q :: rest) := by
      simp [List.replicate_succ]
    rw [htext, closing?_eq_none hk (by simpa using hmore)]
    rfl

/-- What does not begin with a quote does not end the text. -/
theorem closing?_cons {c : Char} (hc : c ≠ q) (rest : List Char) :
    closing? q (c :: rest) = none :=
  closing?_eq_none (k := 0) (by decide) (by simpa using hc)

end Runs

/-! ## Several lines -/

theorem isMultiChar_of_not_control {c : Char} (h : isControl c = false) (rest : List Char) :
    isMultiChar c rest = true := by
  have hreturn : c ≠ '\r' := by
    rintro rfl
    simp [isControl] at h
  simp [isMultiChar, hreturn, h]

/-- Any character but a backslash ends the text or belongs to it. -/
theorem multiBasicBody_cons {c : Char} {rest : List Char} (hc : isMultiChar c rest = true)
    (hslash : c ≠ '\\') :
    multiBasicBody .plain (c :: rest) =
      (closing? '"' (c :: rest)).or (prepend c (multiBasicBody .plain rest)) := by
  rw [multiBasicBody.eq_def]
  cases hend : closing? '"' (c :: rest) <;> simp [hc, MultiState.skips, hend, hslash, prepend]

theorem multiBasicBody_denotes {form : List Char} {c : Char} (h : Denotes form c)
    (rest : List Char) :
    multiBasicBody .plain (form ++ rest) = prepend c (multiBasicBody .plain rest) := by
  have hallowed (rest : List Char) : isMultiChar '\\' rest = true :=
    isMultiChar_of_not_control (by decide) rest
  have hopen (rest : List Char) : closing? '"' ('\\' :: rest) = none :=
    closing?_cons (by decide) rest
  cases h with
  | plain hquote hslash hcontrol =>
    have hc := isMultiChar_of_not_control hcontrol rest
    rw [List.singleton_append, multiBasicBody_cons hc hslash, closing?_cons hquote, Option.none_or]
  | simple hd =>
    rw [List.cons_append, List.singleton_append, multiBasicBody.eq_def]
    simp [hallowed, MultiState.skips, hopen, atLineEnd_of_simple hd, hexEscape?_of_simple hd, hd,
      prepend]
  | hex hd =>
    have hend (rest : List Char) : atLineEnd ('u' :: rest) = false := rfl
    cases hrest : multiBasicBody .plain rest <;>
      simp [multiBasicBody, hallowed, MultiState.skips, hopen, hend, hexEscape?, hd, hrest, prepend]

/-- A text that is escaped for three double quotes begins with at most two of them. -/
theorem escapeLines_eq_replicate {run : Nat} (hrun : run < 3) (cs : List Char) :
    ∃ k more, k + run < 3 ∧ escapeLines run cs = List.replicate k '"' ++ more ∧
      more.head? ≠ some '"' ∧ (more = [] → cs = List.replicate k '"') := by
  induction cs generalizing run with
  | nil => exact ⟨0, [], by omega, rfl, by simp, fun _ => rfl⟩
  | cons c cs ih =>
    rw [escapeLines]
    split
    · rename_i hc
      subst hc
      split
      · have hlt : run + 1 < 3 := by omega
        obtain ⟨k, more, hk, htext, hmore, hall⟩ := ih hlt
        refine ⟨k + 1, more, by omega, by simp [htext, List.replicate_succ], hmore, fun hnil => ?_⟩
        rw [hall hnil, List.replicate_succ]
      · exact ⟨0, _, by omega, rfl, by simp, by simp⟩
    · rename_i hc
      split
      · exact ⟨0, _, by omega, rfl, by simp, by simp⟩
      · obtain ⟨d, ds, hform, hd, -⟩ := (denotes_escapeChar hc ‹_›).eq_cons
        exact ⟨0, _, by omega, rfl, by simpa [hform] using hd, by simp [hform]⟩

/-- What stands between three double quotes reads as the text it was written for. -/
theorem multiBasicBody_escapeLines {rest : List Char} (hrest : rest.head? ≠ some '"') {run : Nat}
    (hrun : run < 3) (cs : List Char) :
    multiBasicBody .plain (escapeLines run cs ++ '"' :: '"' :: '"' :: rest) = some (cs, rest) := by
  have hquote (text : List Char) : multiBasicBody .plain ('"' :: text) =
      (closing? '"' ('"' :: text)).or (prepend '"' (multiBasicBody .plain text)) :=
    multiBasicBody_cons (isMultiChar_of_not_control (by decide) text) (by decide)
  induction cs generalizing run with
  | nil =>
    have hend : closing? '"' ('"' :: '"' :: '"' :: rest) = some ([], rest) :=
      closing?_replicate (k := 0) (by decide) hrest
    rw [escapeLines, List.nil_append, hquote, hend]
    rfl
  | cons c cs ih =>
    rw [escapeLines]
    split
    · rename_i hc
      subst hc
      split
      · -- the run may go on up to the closing quotes, which then end the text with it
        have hlt : run + 1 < 3 := by omega
        obtain ⟨k, more, hk, htext, hmore, hall⟩ := escapeLines_eq_replicate hlt cs
        rw [List.cons_append, hquote, ih hlt, htext, closing?_run (by omega) hmore hrest]
        cases more with
        | nil => simp [hall rfl, List.replicate_succ]
        | cons d more => rfl
      · have hform : Denotes ['\\', '"'] '"' := .simple rfl
        have htail := ih (show 0 < 3 by decide)
        have hstep := multiBasicBody_denotes hform (escapeLines 0 cs ++ '"' :: '"' :: '"' :: rest)
        rw [htail, prepend_some] at hstep
        exact hstep
    · have htail := ih (show 0 < 3 by decide)
      split
      · rename_i hc
        subst hc
        rw [List.cons_append, multiBasicBody_cons rfl (by decide), closing?_cons (by decide), htail]
        rfl
      · have hform := denotes_escapeChar ‹_› ‹_›
        rw [List.append_assoc, multiBasicBody_denotes hform, htail, prepend_some]

theorem isMultiChar_of_not_rawControl {c : Char} (h : isRawControl c = false) (rest : List Char) :
    isMultiChar c rest = true := by
  by_cases hline : c = '\n'
  · subst hline
    rfl
  · exact isMultiChar_of_not_control (by simp [isControl_eq, h, hline]) rest

/-- Between three single quotes a text stands as it is if its runs of them are short. -/
theorem multiLiteralBody_append {rest : List Char} (hrest : rest.head? ≠ some '\'') {run : Nat}
    (hrun : run < 3) {cs : List Char} (hruns : runsAtMostTwo '\'' run cs = true)
    (hplain : ∀ c ∈ cs, isRawControl c = false) :
    multiLiteralBody (cs ++ '\'' :: '\'' :: '\'' :: rest) = some (cs, rest) := by
  have hstep {c : Char} (hc : isRawControl c = false) (text : List Char) :
      multiLiteralBody (c :: text) =
        (closing? '\'' (c :: text)).or (prepend c (multiLiteralBody text)) := by
    rw [multiLiteralBody]
    cases hend : closing? '\'' (c :: text) <;>
      simp [isMultiChar_of_not_rawControl hc, prepend]
  induction cs generalizing run with
  | nil =>
    have hend : closing? '\'' ('\'' :: '\'' :: '\'' :: rest) = some ([], rest) :=
      closing?_replicate (k := 0) (by decide) hrest
    rw [List.nil_append, hstep (by decide), hend]
    rfl
  | cons c cs ih =>
    obtain ⟨hc, hcs⟩ := List.forall_mem_cons.1 hplain
    rw [runsAtMostTwo] at hruns
    rw [List.cons_append, hstep hc]
    by_cases hquote : c = '\''
    · subst hquote
      simp only [if_true, Bool.and_eq_true, decide_eq_true_eq] at hruns
      obtain ⟨hlt, hruns⟩ := hruns
      rw [ih (by omega) hruns hcs]
      obtain ⟨k, more, hk, rfl, hmore⟩ := exists_of_runsAtMostTwo (by omega) hruns
      rw [closing?_run (by omega) hmore hrest]
      cases more with
      | nil => simp [List.replicate_succ]
      | cons d more => rfl
    · rw [if_neg hquote] at hruns
      rw [closing?_cons hquote, ih (by decide) hruns hcs]
      rfl

/-! ## Values -/

section Values

variable {cs rest : List Char}

theorem readString_basic {text : List Char} (h : text.take 2 ≠ ['"', '"']) :
    readString ('"' :: text) = basicBody none text := by
  unfold readString
  split <;> simp_all

theorem readString_literal {text : List Char} (h : text.take 2 ≠ ['\'', '\'']) :
    readString ('\'' :: text) = literalBody text := by
  unfold readString
  split <;> simp_all

theorem readString_escapeLine (hrest : rest.head? ≠ some '"') :
    readString (enclose ['"'] (escapeLine cs) ++ rest) = some (cs, rest) := by
  have htext : enclose ['"'] (escapeLine cs) ++ rest = '"' :: (escapeLine cs ++ '"' :: rest) := by
    simp [enclose]
  rw [htext, readString_basic, basicBody_escapeLine]
  cases cs with
  | nil =>
    cases rest with
    | nil => decide
    | cons d rest => simpa [escapeLine] using hrest
  | cons c cs =>
    obtain ⟨form, hform, hline⟩ := escapeLine_cons c cs
    obtain ⟨d, ds, rfl, hd, -⟩ := hform.eq_cons
    simp [hline, hd]

theorem readString_enclose (hquote : '\'' ∉ cs) (hcontrol : ∀ c ∈ cs, isControl c = false)
    (hrest : rest.head? ≠ some '\'') :
    readString (enclose ['\''] cs ++ rest) = some (cs, rest) := by
  have htext : enclose ['\''] cs ++ rest = '\'' :: (cs ++ '\'' :: rest) := by
    simp [enclose]
  rw [htext, readString_literal, literalBody_append hquote hcontrol]
  cases cs with
  | nil =>
    cases rest with
    | nil => decide
    | cons d rest => simpa using hrest
  | cons c cs =>
    have hc : c ≠ '\'' := fun h => hquote (h ▸ List.mem_cons_self)
    simp [hc]

/-- The line end after the opening quotes is dropped, and nothing else. -/
theorem dropNewline_body {q : Char} (hq : isControl q = false) {body : List Char}
    (h : '\n' ∉ cs → ∀ c ∈ body.head?, isControl c = false) :
    dropNewline ((if cs.contains '\n' then '\n' :: body else body) ++ q :: rest) =
      body ++ q :: rest := by
  have hkeep {c : Char} (hc : isControl c = false) (text : List Char) :
      dropNewline (c :: text) = c :: text := by
    have hline : c ≠ '\n' := by rintro rfl; simp [isControl] at hc
    have hreturn : c ≠ '\r' := by rintro rfl; simp [isControl] at hc
    unfold dropNewline takeNewline?
    split <;> simp_all
  by_cases hline : '\n' ∈ cs
  · simp [hline, dropNewline, takeNewline?]
  · simp only [List.contains_iff_mem, hline, if_false]
    cases body with
    | nil => exact hkeep hq rest
    | cons c body => exact hkeep (h hline c rfl) _

theorem readString_escapeLines (hrest : rest.head? ≠ some '"') :
    readString (encloseLines '"' cs (escapeLines 0 cs) ++ rest) = some (cs, rest) := by
  have hhead : '\n' ∉ cs → ∀ c ∈ (escapeLines 0 cs).head?, isControl c = false := by
    intro hline
    cases cs with
    | nil => simp [escapeLines]
    | cons c cs =>
      have hc : c ≠ '\n' := fun h => hline (h ▸ List.mem_cons_self)
      by_cases hquote : c = '"'
      · simp [escapeLines, hquote, isControl]
      · obtain ⟨d, ds, hform, -, hd⟩ := (denotes_escapeChar hquote hc).eq_cons
        simpa [escapeLines, hquote, hc, hform] using hd
  have htext : encloseLines '"' cs (escapeLines 0 cs) ++ rest = '"' :: '"' :: '"' ::
      ((if cs.contains '\n' then '\n' :: escapeLines 0 cs else escapeLines 0 cs) ++
        '"' :: '"' :: '"' :: rest) := by
    simp [encloseLines, enclose]
  rw [htext, readString, dropNewline_body (by decide) hhead,
    multiBasicBody_escapeLines hrest (by decide)]

theorem readString_encloseLines (hruns : runsAtMostTwo '\'' 0 cs = true)
    (hplain : ∀ c ∈ cs, isRawControl c = false) (hrest : rest.head? ≠ some '\'') :
    readString (encloseLines '\'' cs cs ++ rest) = some (cs, rest) := by
  have hhead : '\n' ∉ cs → ∀ c ∈ cs.head?, isControl c = false := by
    intro hline c hc
    have hmem := List.mem_of_mem_head? hc
    have hne : c ≠ '\n' := fun h => hline (h ▸ hmem)
    simp [isControl_eq, hplain c hmem, hne]
  have htext : encloseLines '\'' cs cs ++ rest = '\'' :: '\'' :: '\'' ::
      ((if cs.contains '\n' then '\n' :: cs else cs) ++ '\'' :: '\'' :: '\'' :: rest) := by
    simp [encloseLines, enclose]
  rw [htext, readString, dropNewline_body (by decide) hhead,
    multiLiteralBody_append hrest (by decide) hruns hplain]

/-- Texts without characters that have to be escaped and without line ends hold nothing that may
not stand on a line. -/
theorem isControl_of_plain (hplain : cs.any isRawControl = false) (hline : cs.contains '\n' = false) :
    ∀ c ∈ cs, isControl c = false := by
  intro c hc
  have hne : c ≠ '\n' := by
    rintro rfl
    simp [hc] at hline
  simp [isControl_eq, List.any_eq_false.1 hplain c hc, hne]

/-- The quotes that a value may be written in; only a text that they hold is not escaped. -/
theorem writeValue_cases (cs : List Char) :
    writeValue cs = enclose ['"'] (escapeLine cs) ∨
    writeValue cs = encloseLines '"' cs (escapeLines 0 cs) ∨
    (writeValue cs = enclose ['\''] cs ∧ '\'' ∉ cs ∧ ∀ c ∈ cs, isControl c = false) ∨
    writeValue cs = encloseLines '\'' cs cs ∧ runsAtMostTwo '\'' 0 cs = true ∧
      ∀ c ∈ cs, isRawControl c = false := by
  unfold writeValue
  extract_lets isPlain isOneLine
  split_ifs with hbasic hliteral hlines hliterals hone
  · exact .inl rfl
  · simp only [isPlain, isOneLine, Bool.and_eq_true, Bool.not_eq_true'] at hliteral
    obtain ⟨⟨hplain, hline⟩, hquote⟩ := hliteral
    exact .inr (.inr (.inl ⟨rfl, by simpa using hquote, isControl_of_plain hplain hline⟩))
  · exact .inr (.inl rfl)
  · simp only [isPlain, Bool.and_eq_true, Bool.not_eq_true'] at hliterals
    exact .inr (.inr (.inr ⟨rfl, hliterals.2, by simpa using hliterals.1⟩))
  · exact .inl rfl
  · exact .inr (.inl rfl)

theorem writeValue_eq_cons (cs : List Char) :
    ∃ q text, writeValue cs = q :: text ∧ isQuote q = true := by
  rcases writeValue_cases cs with h | h | ⟨h, -⟩ | ⟨h, -⟩ <;> rw [h]
  · exact ⟨'"', _, rfl, rfl⟩
  · exact ⟨'"', _, rfl, rfl⟩
  · exact ⟨'\'', _, rfl, rfl⟩
  · exact ⟨'\'', _, rfl, rfl⟩

/-- A value is read back, whichever quotes it was written in. -/
theorem readString_writeValue (cs rest : List Char) (hrest : ∀ c ∈ rest.head?, isQuote c = false) :
    readString (writeValue cs ++ rest) = some (cs, rest) := by
  have hdouble : rest.head? ≠ some '"' := fun h => by simpa [isQuote] using hrest _ h
  have hsingle : rest.head? ≠ some '\'' := fun h => by simpa [isQuote] using hrest _ h
  rcases writeValue_cases cs with h | h | ⟨h, hquote, hcontrol⟩ | ⟨h, hruns, hplain⟩ <;> rw [h]
  · exact readString_escapeLine hdouble
  · exact readString_escapeLines hdouble
  · exact readString_enclose hquote hcontrol hsingle
  · exact readString_encloseLines hruns hplain hsingle

end Values

/-! ## Keys -/

/-- The forms that a key may be written in. -/
theorem writeKey_cases (cs : List Char) :
    (writeKey cs = cs ∧ cs ≠ [] ∧ ∀ c ∈ cs, isBare c = true) ∨
    writeKey cs = enclose ['"'] (escapeLine cs) ∨
    (writeKey cs = enclose ['\''] cs ∧ '\'' ∉ cs ∧ ∀ c ∈ cs, isControl c = false) := by
  unfold writeKey
  extract_lets bare isPlain
  split_ifs with hbare hbasic hliteral
  · simp only [Bool.and_eq_true, Bool.not_eq_true', List.isEmpty_eq_false_iff,
      List.all_eq_true] at hbare
    exact .inl ⟨rfl, hbare⟩
  · exact .inr (.inl rfl)
  · simp only [isPlain, Bool.and_eq_true, Bool.not_eq_true', List.any_eq_false] at hliteral
    refine .inr (.inr ⟨rfl, by simpa using hliteral.2, fun c hc => ?_⟩)
    simpa [isControl_eq] using hliteral.1 c hc
  · exact .inr (.inl rfl)

theorem not_quote_of_isBare {c : Char} (h : isBare c = true) : c ≠ '"' ∧ c ≠ '\'' := by
  constructor <;> (rintro rfl; simp [isBare] at h)

/-- A key is read back, and nothing behind it. -/
theorem readKeyPart_writeKey (cs rest : List Char) (hrest : ∀ c ∈ rest.head?, isBare c = false) :
    readKeyPart (writeKey cs ++ rest) = some (String.ofList cs, rest) := by
  rcases writeKey_cases cs with ⟨h, hne, hbare⟩ | h | ⟨h, hquote, hcontrol⟩ <;> rw [h]
  · have hstop : rest.takeWhile isBare = [] ∧ rest.dropWhile isBare = rest := by
      cases rest with
      | nil => exact ⟨rfl, rfl⟩
      | cons c rest => simp [hrest c rfl]
    have htake : (cs ++ rest).takeWhile isBare = cs := by
      rw [List.takeWhile_append_of_pos hbare, hstop.1, List.append_nil]
    have hdrop : (cs ++ rest).dropWhile isBare = rest := by
      rw [List.dropWhile_append_of_pos hbare, hstop.2]
    have hhead : ∀ c ∈ (cs ++ rest).head?, c ≠ '"' ∧ c ≠ '\'' := by
      cases cs with
      | nil => exact absurd rfl hne
      | cons c cs => simpa using not_quote_of_isBare (hbare c List.mem_cons_self)
    unfold readKeyPart
    split
    · simp_all
    · simp_all
    · simp [htake, hdrop, hne]
  · have htext : enclose ['"'] (escapeLine cs) ++ rest = '"' :: (escapeLine cs ++ '"' :: rest) := by
      simp [enclose]
    rw [htext, readKeyPart, basicBody_escapeLine]
    rfl
  · have htext : enclose ['\''] cs ++ rest = '\'' :: (cs ++ '\'' :: rest) := by
      simp [enclose]
    rw [htext, readKeyPart, literalBody_append hquote hcontrol]
    rfl

/-- A key begins with a quote or a character that needs none. -/
theorem writeKey_eq_cons (cs : List Char) :
    ∃ c text, writeKey cs = c :: text ∧ (isQuote c || isBare c) = true := by
  rcases writeKey_cases cs with ⟨h, hne, hbare⟩ | h | ⟨h, -⟩ <;> rw [h]
  · cases cs with
    | nil => exact absurd rfl hne
    | cons c cs => exact ⟨c, cs, rfl, by simp [hbare c List.mem_cons_self]⟩
  · exact ⟨'"', _, rfl, rfl⟩
  · exact ⟨'\'', _, rfl, rfl⟩

end FlowScript.Toml
