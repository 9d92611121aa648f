import FlowScript.Proofs.Text.Trimming
import FlowScript.Text.Bytes

/-!
# Lines of text and lines of bytes

Lines can be cut from bytes or from characters. `LinesOf` says what the lines are in both cases, and
there is one way to cut them (`LinesOf.unique`). A line feed is the only character whose encoding
holds the byte that ends a line, so the lines of an encoded text are the encoded lines of the text
(`LinesOf.encode`), and the lines that a text is read as are these without their ends
(`LinesOf.lines_eq`).
-/

namespace FlowScript.Text

/-! ## Encoding -/

theorem bytes_eq_flatMap (s : String) : bytes s = s.toList.flatMap String.utf8EncodeChar := by
  rw [bytes, String.toUTF8_eq_toByteArray, ← String.utf8Encode_toList, List.utf8Encode,
    List.data_toByteArray]

/-- The encoding of a text is read as that text. -/
@[simp] theorem ofBytes?_bytes (s : String) : ofBytes? (bytes s) = some s := by
  have harray : (⟨(bytes s).toArray⟩ : ByteArray) = s.toByteArray := rfl
  rw [ofBytes?, harray, String.fromUTF8?, dif_pos s.isValidUTF8]
  rfl

theorem bytes_of_ofBytes? {bs : Bytes} {s : String} (h : ofBytes? bs = some s) : bs = bytes s := by
  rw [ofBytes?, String.fromUTF8?] at h
  split at h
  · obtain rfl := Option.some.inj h
    rfl
  · cases h

/-- Only the encoding of a line feed holds the byte that ends a line. -/
theorem lineFeed_mem_utf8EncodeChar {c : Char} :
    lineFeed ∈ String.utf8EncodeChar c ↔ c = '\n' := by
  have hten (n : Nat) (hn : n < 256) : lineFeed = UInt8.ofNat n ↔ n = 10 := by
    rw [lineFeed, ← UInt8.toNat_inj, UInt8.toNat_ofNat_of_lt' hn]
    exact eq_comm
  have hchar : c.val.toNat = 10 ↔ c = '\n' := by
    rw [← Char.toNat_inj]
    rfl
  rw [← hchar]
  -- bytes of longer encodings have their highest bit set
  fun_cases String.utf8EncodeChar c <;>
    simp (disch := omega) only [List.mem_cons, List.not_mem_nil, or_false, hten] <;> omega

theorem lineFeed_mem_flatMap {cs : List Char} :
    lineFeed ∈ cs.flatMap String.utf8EncodeChar ↔ '\n' ∈ cs := by
  simp [lineFeed_mem_utf8EncodeChar]

/-! ## Lines -/

section LinesOf

variable {β : Type} {e b : β} {xs : List β} {lines lines' : List (List β)}

/-- Puts an element in front of the first line; without a line it becomes one. -/
def consFirst (b : β) : List (List β) → List (List β)
  | [] => [[b]]
  | first :: others => (b :: first) :: others

/-- The lines of a list. Each ends with the first terminator in it; the last may lack one, but then it
is not empty. -/
inductive LinesOf (e : β) : List β → List (List β) → Prop
  | nil : LinesOf e [] []
  | last {line : List β} (hne : line ≠ []) (hline : e ∉ line) : LinesOf e line [line]
  | line {line rest : List β} {lines : List (List β)} (hline : e ∉ line)
      (hrest : LinesOf e rest lines) : LinesOf e (line ++ e :: rest) ((line ++ [e]) :: lines)

namespace LinesOf

theorem unique (h : LinesOf e xs lines) (h' : LinesOf e xs lines') : lines = lines' := by
  classical
  induction h generalizing lines' with
  | nil =>
    cases hxs : lines' with
    | nil => rfl
    | cons line rest =>
      subst hxs
      generalize hnil : ([] : List β) = ys at h'
      cases h' with
      | last hne => exact absurd hnil.symm hne
      | line => simp at hnil
  | @last line hne hline =>
    cases h' with
    | nil => exact absurd rfl hne
    | last => rfl
    | line => simp at hline
  | @line line rest lines hline _ ih =>
    generalize hxs : line ++ e :: rest = ys at h'
    cases h' with
    | nil => simp at hxs
    | last _ hline' => exact absurd (by simp) (hxs ▸ hline')
    | @line line' rest' _ hline' hrest' =>
      have hsplit := congrArg (List.splitOn e) hxs
      rw [List.splitOn_append_cons_self_of_not_mem hline,
        List.splitOn_append_cons_self_of_not_mem hline'] at hsplit
      obtain rfl : line = line' := (List.cons.inj hsplit).1
      obtain rfl : rest = rest' := by simpa using hxs
      rw [ih hrest']

theorem cons_self (h : LinesOf e xs lines) : LinesOf e (e :: xs) ([e] :: lines) :=
  line List.not_mem_nil h

theorem cons_of_ne (hb : b ≠ e) (h : LinesOf e xs lines) :
    LinesOf e (b :: xs) (consFirst b lines) := by
  cases h with
  | nil =>
    have hline : e ∉ [b] := by simpa using hb.symm
    exact last (List.cons_ne_nil b []) hline
  | last _ hline =>
    have hline : e ∉ b :: xs := by simp [hb.symm, hline]
    exact last (List.cons_ne_nil b xs) hline
  | @line first rest _ hline hrest =>
    have hline : e ∉ b :: first := by simp [hb.symm, hline]
    exact line hline hrest

end LinesOf

theorem exists_linesOf [DecidableEq β] (e : β) (xs : List β) : ∃ lines, LinesOf e xs lines := by
  induction xs with
  | nil => exact ⟨[], .nil⟩
  | cons b xs ih =>
    obtain ⟨lines, h⟩ := ih
    by_cases hb : b = e
    · subst hb
      exact ⟨_, h.cons_self⟩
    · exact ⟨_, h.cons_of_ne hb⟩

end LinesOf

theorem linesOf_byteLines (bs : Bytes) : LinesOf lineFeed bs (byteLines bs) := by
  induction bs with
  | nil => exact .nil
  | cons b rest ih =>
    rw [byteLines]
    split
    · rename_i hb
      subst hb
      exact ih.cons_self
    · rename_i hb
      have hfirst := ih.cons_of_ne hb
      cases hlines : byteLines rest <;> simpa [hlines, consFirst] using hfirst

/-- The lines of an encoded text are the encoded lines of the text. -/
theorem LinesOf.encode {cs : List Char} {lines : List (List Char)} (h : LinesOf '\n' cs lines) :
    LinesOf lineFeed (cs.flatMap String.utf8EncodeChar)
      (lines.map (·.flatMap String.utf8EncodeChar)) := by
  induction h with
  | nil => exact .nil
  | last hne hline =>
    refine .last ?_ (lineFeed_mem_flatMap.not.2 hline)
    obtain ⟨c, cs, rfl⟩ := List.exists_cons_of_ne_nil hne
    simp
  | line hline _ ih =>
    have hfeed : String.utf8EncodeChar '\n' = [lineFeed] := rfl
    have hstep := LinesOf.line (lineFeed_mem_flatMap.not.2 hline) ih
    simpa [hfeed] using hstep

/-! ## Lines without their ends -/

/-- The characters of a line without the line feed, or the carriage return and the line feed, at its
end. -/
def withoutEnd (cs : List Char) : List Char :=
  match cs.reverse with
  | '\n' :: '\r' :: rest => rest.reverse
  | '\n' :: rest => rest.reverse
  | _ => cs

theorem withoutEnd_last {line : List Char} (h : '\n' ∉ line) : withoutEnd line = line := by
  unfold withoutEnd
  split
  · rename_i hrev
    exact absurd (by rw [← List.mem_reverse, hrev]; simp) h
  · rename_i hrev
    exact absurd (by rw [← List.mem_reverse, hrev]; simp) h
  · rfl

theorem withoutEnd_line (line : List Char) : withoutEnd (line ++ ['\n']) = dropReturn line := by
  rw [withoutEnd, dropReturn, List.reverse_append, List.getLast?_eq_head?_reverse]
  cases hrev : line.reverse with
  | nil => simp [List.reverse_eq_nil_iff.1 hrev]
  | cons c rest =>
    obtain rfl : line = rest.reverse ++ [c] := by rw [← List.reverse_reverse line, hrev]; simp
    by_cases hc : c = '\r' <;> simp [hc]

/-- What is cut off from a line are characters that end lines. -/
theorem exists_withoutEnd (cs : List Char) :
    ∃ tail, (∀ c ∈ tail, endsLine c = true) ∧ cs = withoutEnd cs ++ tail := by
  unfold withoutEnd
  split
  · rename_i rest hrev
    refine ⟨['\r', '\n'], by simp [endsLine], ?_⟩
    rw [← List.reverse_reverse cs, hrev]
    simp
  · rename_i rest _ hrev
    refine ⟨['\n'], by simp [endsLine], ?_⟩
    rw [← List.reverse_reverse cs, hrev]
    simp
  · exact ⟨[], by simp, by simp⟩

/-- The lines that a text is read as are its lines without their ends. -/
theorem LinesOf.lines_eq {s : String} {ls : List (List Char)} (h : LinesOf '\n' s.toList ls) :
    lines s = ls.map fun line => String.ofList (withoutEnd line) := by
  have hchars {cs : List Char} {ls : List (List Char)} (h : LinesOf '\n' cs ls) :
      lines (String.ofList cs) = ls.map fun line => String.ofList (withoutEnd line) := by
    induction h with
    | nil => rfl
    | last hne hline =>
      rw [lines, String.toList_ofList, List.splitOnP_eq_singleton fun c hc => by
        simpa using fun heq : c = '\n' => hline (heq ▸ hc)]
      simp [hne, withoutEnd_last hline]
    | @line line rest ls hline _ ih =>
      rw [List.map_cons, ← ih, withoutEnd_line, lines, lines, String.toList_ofList,
        String.toList_ofList, List.splitOnP_append_cons_of_forall_mem (fun c hc => by
          simpa using fun heq : c = '\n' => hline (heq ▸ hc)) '\n' rfl]
      obtain ⟨first, others, hrest⟩ := List.exists_cons_of_ne_nil
        (List.splitOnP_ne_nil (· == '\n') rest)
      rw [hrest]
      by_cases hlast : (first :: others).getLast?.getD [] = [] <;> simp [hlast]
  simpa using hchars h

end FlowScript.Text
