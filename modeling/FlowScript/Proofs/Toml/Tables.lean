import FlowScript.Host.Saved
import FlowScript.Proofs.Dict
import FlowScript.Proofs.Toml.Strings

/-!
# Tables that are written and read again

A table of texts is written as a header and a line for each pair. Reading the line of a pair adds the
pair to the current table (`readLines_pair`), so reading all of them gives a table with the same
texts (`read?_writeTable`), whatever characters the keys and the texts hold.
-/

namespace FlowScript.Toml

/-! ## Tables -/

theorem Table.get?_append (t : Table) (key : String) (v : Node) (q : String) :
    Table.get? (t ++ [(key, v)]) q = (t.get? q).or (if key = q then some v else none) := by
  induction t with
  | nil => simp [Table.get?]
  | cons entry t ih =>
    obtain ⟨k, old⟩ := entry
    rw [List.cons_append, Table.get?, Table.get?]
    split
    · rfl
    · exact ih

/-- A document whose only table is under a header and is the current one. -/
def Progress.under (header : String) (t : Table) : Progress :=
  ⟨[(header, .table .header t)], [header]⟩

theorem Progress.addPair_under (header : String) {t : Table} {key : String} (v : Node)
    (h : t.get? key = none) :
    (under header t).addPair [] key v = some (under header (t ++ [(key, v)])) := by
  simp [addPair, under, Table.change, Table.get?, Table.mayEnter, Table.addDotted, Table.add, h,
    Table.replace]

theorem Progress.moveTo_start (header : String) :
    (⟨[], []⟩ : Progress).moveTo [] header Table.openTable = some (under header []) := rfl

/-! ## Lines -/

/-- A key with one part ends before anything but a dot. -/
theorem readKey_of_part {cs rest : List Char} {part : String}
    (h : readKeyPart cs = some (part, rest)) (hdot : (skipWs rest).head? ≠ some '.') :
    readKey cs = some (([], part), skipWs rest) := by
  rw [readKey, depthLimit, readParts]
  simp only [h, Option.bind_eq_bind, Option.bind_some]
  split
  · simp_all
  · rfl

theorem toList_writePair (key value : String) :
    (writePair key value).toList =
      writeKey key.toList ++ ' ' :: '=' :: ' ' :: (writeValue value.toList ++ ['\n']) := by
  simp [writePair]

theorem readKey_writeKey (key : String) (rest : List Char) :
    readKey (writeKey key.toList ++ ' ' :: '=' :: rest) = some (([], key), '=' :: rest) := by
  have hpart := readKeyPart_writeKey key.toList (' ' :: '=' :: rest)
    (by simp [isBare])
  rw [String.ofList_toList] at hpart
  exact readKey_of_part hpart (by simp [skipWs, isWs])

theorem readValue_writeValue (value : String) {fuel : Nat} (hfuel : 0 < fuel) (depth : Nat)
    (rest : List Char) :
    readValue fuel depth (writeValue value.toList ++ '\n' :: rest) =
      some (.string value, '\n' :: rest) := by
  obtain ⟨fuel, rfl⟩ := Nat.exists_eq_succ_of_ne_zero (Nat.ne_of_gt hfuel)
  obtain ⟨q, text, htext, hq⟩ := writeValue_eq_cons value.toList
  have hread := readString_writeValue value.toList ('\n' :: rest)
    (by simp [isQuote])
  rw [htext, List.cons_append] at hread ⊢
  simp [readValue.eq_def, hq, hread]

/-- What begins like a key is neither blank nor a header. -/
theorem ne_of_key {c d : Char} (h : (isQuote c || isBare c) = true)
    (hd : (isQuote d || isBare d) = false) : c ≠ d := by
  rintro rfl
  simp [hd] at h

theorem skipWs_of_key {c : Char} (h : (isQuote c || isBare c) = true) (text : List Char) :
    skipWs (c :: text) = c :: text := by
  simp [skipWs, isWs, ne_of_key h (d := ' ') (by decide), ne_of_key h (d := '\t') (by decide)]

theorem readStatement_of_key (p : Progress) {c : Char} (h : (isQuote c || isBare c) = true)
    (text : List Char) :
    readStatement p (c :: text) = (do
      let ((path, key), rest) ← readKey (c :: text)
      let rest ← readEqual (fun cs => some (skipWs cs)) rest
      let (v, rest) ← readValue (2 * (c :: text).length) depthLimit rest
      let p ← p.addPair path key v
      some (p, rest)) := by
  have hheader : c ≠ '[' := ne_of_key h (by decide)
  have hblank : isBlankLine (c :: text) = false := by
    simp [isBlankLine, ne_of_key h (d := '\n') (by decide), ne_of_key h (d := '\r') (by decide),
      ne_of_key h (d := '#') (by decide)]
  rw [readStatement.eq_def]
  split
  · simp_all
  · simp_all
  · rw [if_neg (by simp [hblank])]

/-- The line of a pair adds the pair to the current table. -/
theorem readStatement_pair (p : Progress) (key value : String) (rest : List Char) :
    readStatement p ((writePair key value).toList ++ rest) =
      (p.addPair [] key (.string value)).map fun p => (p, '\n' :: rest) := by
  have hline : (writePair key value).toList ++ rest =
      writeKey key.toList ++ ' ' :: '=' :: ' ' :: (writeValue value.toList ++ '\n' :: rest) := by
    simp [toList_writePair]
  have hequal : readEqual (fun cs => some (skipWs cs))
      ('=' :: ' ' :: (writeValue value.toList ++ '\n' :: rest)) =
        some (writeValue value.toList ++ '\n' :: rest) := by
    obtain ⟨q, text, htext, hq⟩ := writeValue_eq_cons value.toList
    have hskip := skipWs_of_key (c := q) (by simp [hq]) (text ++ '\n' :: rest)
    simpa [readEqual, takeChar?, skipWs, isWs, htext] using hskip
  have hkey := readKey_writeKey key (' ' :: (writeValue value.toList ++ '\n' :: rest))
  obtain ⟨c, text, htext, hc⟩ := writeKey_eq_cons key.toList
  rw [htext, List.cons_append] at hline hkey
  rw [hline, readStatement_of_key p hc, hkey]
  simp only [Option.bind_eq_bind, Option.bind_some, hequal]
  rw [readValue_writeValue value]
  · simp only [Option.bind_some]
    cases p.addPair [] key (.string value) <;> rfl
  · simp

/-- A line of a pair adds the pair, and reading goes on behind it. -/
theorem readLines_pair (p : Progress) (key value : String) (rest : List Char) (fuel : Nat) :
    readLines (fuel + 1) p ((writePair key value).toList ++ rest) =
      (p.addPair [] key (.string value)).bind fun p => readLines fuel p rest := by
  have hskip : skipWs ((writePair key value).toList ++ rest) =
      (writePair key value).toList ++ rest := by
    obtain ⟨c, text, htext, hc⟩ := writeKey_eq_cons key.toList
    rw [toList_writePair, htext]
    exact skipWs_of_key hc _
  have hne : ((writePair key value).toList ++ rest).isEmpty = false := by
    simp [toList_writePair]
  rw [readLines, hne, hskip, readStatement_pair]
  cases p.addPair [] key (.string value) <;> simp [endLine]

/-- Lines of pairs with different keys add all of them. -/
theorem readLines_pairs (header : String) {entries : List (String × String)}
    (hentries : entries.Pairwise fun a b => a.1 ≠ b.1) {t : Table}
    (ht : ∀ e ∈ entries, t.get? e.1 = none) {fuel : Nat} (hfuel : entries.length < fuel) :
    readLines fuel (.under header t) (entries.flatMap fun e => (writePair e.1 e.2).toList) =
      some [(header, .table .header (t ++ entries.map fun e => (e.1, .string e.2)))] := by
  induction entries generalizing t fuel with
  | nil =>
    obtain ⟨fuel, rfl⟩ := Nat.exists_eq_succ_of_ne_zero (Nat.ne_of_gt hfuel)
    simp [readLines, Progress.under]
  | cons e entries ih =>
    obtain ⟨fuel, rfl⟩ := Nat.exists_eq_succ_of_ne_zero (Nat.ne_of_gt (Nat.zero_lt_of_lt hfuel))
    obtain ⟨hne, hrest⟩ := List.pairwise_cons.1 hentries
    obtain ⟨hnone, hnones⟩ := List.forall_mem_cons.1 ht
    rw [List.flatMap_cons, readLines_pair, Progress.addPair_under header _ hnone, Option.bind_some]
    have hlater : ∀ d ∈ entries, Table.get? (t ++ [(e.1, .string e.2)]) d.1 = none := by
      intro d hd
      rw [Table.get?_append, hnones d hd, if_neg (hne d hd), Option.none_or]
    rw [ih hrest hlater (by simpa using hfuel)]
    simp

/-! ## Documents -/

/-- A header that needs no quotes opens its table. -/
theorem readLines_header {header : String} (hheader : writeKey header.toList = header.toList)
    (rest : List Char) (fuel : Nat) :
    readLines (fuel + 1) ⟨[], []⟩ ('[' :: (header.toList ++ ']' :: '\n' :: rest)) =
      readLines fuel (.under header []) rest := by
  have hpart := readKeyPart_writeKey header.toList (']' :: '\n' :: rest)
    (by simp [isBare])
  rw [hheader, String.ofList_toList] at hpart
  have hclose : skipWs (']' :: '\n' :: rest) = ']' :: '\n' :: rest := by simp [skipWs, isWs]
  have hkey := readKey_of_part hpart (by simp [hclose])
  obtain ⟨c, text, htext, hc⟩ := writeKey_eq_cons header.toList
  rw [hheader] at htext
  have hopen : c ≠ '[' := ne_of_key hc (by decide)
  have hstatement : readStatement ⟨[], []⟩ ('[' :: (header.toList ++ ']' :: '\n' :: rest)) =
      some (.under header [], '\n' :: rest) := by
    have hskip := skipWs_of_key hc (text ++ ']' :: '\n' :: rest)
    rw [htext, List.cons_append] at hkey ⊢
    rw [readStatement.eq_def]
    split
    · simp_all
    · rename_i hcs
      obtain ⟨-, rfl⟩ := List.cons.inj hcs
      simp [hskip, hkey, hclose, takeChar?, Progress.moveTo_start]
    · simp_all
  simp [readLines, skipWs, isWs, hstatement, endLine]

/-- A table of texts is read back. -/
theorem read?_writeTable (header : String) (hheader : writeKey header.toList = header.toList)
    (d : Dict String) :
    read? (writeTable header d) =
      some [(header, .table .header (d.entries.map fun e => (e.1, .string e.2)))] := by
  have htext : (writeTable header d).toList = '[' :: (header.toList ++ ']' :: '\n' ::
      d.entries.flatMap fun e => (writePair e.1 e.2).toList) := by
    simp [writeTable, List.flatMap_map]
  have hlength : d.entries.length ≤
      (d.entries.flatMap fun e => (writePair e.1 e.2).toList).length := by
    induction d.entries with
    | nil => simp
    | cons e entries ih =>
      simp only [List.flatMap_cons, List.length_append, List.length_cons, toList_writePair] at ih ⊢
      omega
  rw [read?, htext, dropMark, if_neg (by decide), List.length_cons, readLines_header hheader,
    readLines_pairs header d.entries_pairwise_ne]
  · rfl
  · simp [Table.get?]
  · simp only [List.length_append, List.length_cons]
    omega

theorem Table.strings?_map (entries : List (String × String)) :
    Table.strings? (entries.map fun e => (e.1, .string e.2)) = some entries := by
  induction entries with
  | nil => rfl
  | cons e entries ih => simp [Table.strings?, ih]

end FlowScript.Toml

namespace FlowScript.Saved

/-- Saved values are read back, whatever their keys and texts are. -/
theorem read?_write (d : Dict String) : read? (write d) = some d := by
  have htable := Toml.read?_writeTable header (by decide) d
  simp [read?, write, htable, Toml.Table.field, Toml.Table.get?, Toml.Node.strings?,
    Toml.Table.strings?_map]

end FlowScript.Saved
