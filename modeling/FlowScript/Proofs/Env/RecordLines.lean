import FlowScript.Env.Record
import FlowScript.Proofs.Text.Trimming

/-!
# Records on a line

A record is read back from its line exactly if it fits one (`FitsLine`): nothing is escaped, so a tab
in the key or the value would be read as the end of a field, and a line end after the last field
would be dropped. What is read from any line fits one (`fitsLine_of_parse?`), though the line may
have had line ends after it or blanks around the layer.
-/

namespace FlowScript

open Text (endsLine)

theorem LayerKind.ofText_word (kind : LayerKind) : ofText kind.word = .ok kind := by
  cases kind <;> rfl

namespace EnvRecord

/-- A record that a line can carry. -/
structure FitsLine (r : EnvRecord) : Prop where
  key_ne : r.key ≠ ""
  key_tab : '\t' ∉ r.key.toList
  value_tab : '\t' ∉ r.value.toList
  /-- Without a layer the value comes last. -/
  ending : r.layer.isSome ∨ ∀ c, r.value.toList.getLast? = some c → endsLine c = false

/-! ## Fields -/

/-- The fields of the line of a record. -/
def fields (r : EnvRecord) : List String :=
  mark :: r.key :: r.value :: r.layer.toList.map LayerKind.word

theorem format_eq_join (r : EnvRecord) : r.format = Text.join "\t" r.fields := by
  obtain ⟨key, value, layer⟩ := r
  have htab : String.singleton fieldSep = "\t" := by decide
  cases layer <;> simp [format, fields, Text.join, htab, String.append_assoc]

theorem ofFields?_eq_some {texts : List String} {r : EnvRecord} (h : ofFields? texts = some r) :
    r.key ≠ "" ∧ ∃ tags, texts = r.key :: r.value :: tags ∧ (r.layer.isSome ∨ tags = []) := by
  unfold ofFields? at h
  split at h
  · split at h
    · cases h
    · rename_i hkey
      cases h
      exact ⟨by simpa using hkey, [], rfl, .inr rfl⟩
  · split at h
    · cases h
    · rename_i hkey
      split at h
      · cases h
        exact ⟨by simpa using hkey, [_], rfl, .inl rfl⟩
      · cases h
  · cases h

theorem ofFields?_fields {r : EnvRecord} (hkey : r.key ≠ "") :
    ofFields? r.fields.tail = some r := by
  obtain ⟨key, value, layer⟩ := r
  cases layer <;> simp_all [fields, ofFields?, LayerKind.ofText_word]

theorem FitsLine.not_mem_fields {r : EnvRecord} (h : r.FitsLine) :
    ∀ s ∈ r.fields, '\t' ∉ s.toList := by
  have hwords (kind : LayerKind) : '\t' ∉ kind.word.toList := by cases kind <;> decide
  have hmark : '\t' ∉ mark.toList := by decide
  simp only [fields, List.mem_cons, List.mem_map]
  rintro s (rfl | rfl | rfl | ⟨kind, -, rfl⟩)
  · exact hmark
  · exact h.key_tab
  · exact h.value_tab
  · exact hwords kind

/-! ## The end of the line -/

/-- The characters of a line end with those of the last field, and a tab stands before them. -/
theorem toList_format (r : EnvRecord) :
    ∃ front, r.format.toList =
      front ++ '\t' :: ((r.layer.map LayerKind.word).getD r.value).toList := by
  obtain ⟨key, value, layer⟩ := r
  cases layer with
  | none => exact ⟨(mark ++ "\t" ++ key).toList, by simp [format, fieldSep]⟩
  | some kind => exact ⟨(mark ++ "\t" ++ key ++ "\t" ++ value).toList, by simp [format, fieldSep]⟩

theorem FitsLine.trimLineEnd_format {r : EnvRecord} (h : r.FitsLine) :
    Text.trimLineEnd r.format = r.format := by
  obtain ⟨front, hformat⟩ := toList_format r
  have hwords (kind : LayerKind) : endsLine (kind.word.toList.getLast?.getD '\t') = false := by
    cases kind <;> decide
  have hlast : ∀ c, r.format.toList.getLast? = some c → endsLine c = false := by
    intro c hc
    rw [hformat, List.getLast?_append, List.getLast?_cons, Option.some_or, Option.some.injEq] at hc
    subst hc
    cases hlayer : r.layer with
    | some kind => exact hwords kind
    | none =>
      have hvalue := h.ending.resolve_left (by simp [hlayer])
      cases hv : r.value.toList.getLast? with
      | none => simp [hv, endsLine]
      | some c => simpa [hv] using hvalue c hv
  rw [← String.toList_inj, Text.toList_trimLineEnd, Text.dropTail_eq_self hlast]

/-! ## Reading back -/

theorem FitsLine.parse?_format {r : EnvRecord} (h : r.FitsLine) : parse? r.format = some r := by
  have hsplit : Text.splitAt fieldSep r.format = r.fields := by
    rw [format_eq_join]
    exact Text.splitAt_join (by simp [fields]) h.not_mem_fields
  have hread := ofFields?_fields h.key_ne
  rw [parse?, h.trimLineEnd_format, hsplit]
  simpa [fields] using hread

theorem fitsLine_of_parse? {line : String} {r : EnvRecord} (h : parse? line = some r) :
    r.FitsLine := by
  rw [parse?] at h
  split at h
  · cases h
  · rename_i first texts hsplit
    split at h
    · obtain ⟨hkey, tags, rfl, htags⟩ := ofFields?_eq_some h
      have hpiece : ∀ s ∈ first :: r.key :: r.value :: tags, '\t' ∉ s.toList := by
        rw [← hsplit]
        exact fun s => Text.not_mem_of_mem_splitAt
      refine ⟨hkey, hpiece _ (by simp), hpiece _ (by simp), htags.imp_right ?_⟩
      rintro rfl c hc
      -- the value comes last on the trimmed line
      have hline := Text.join_splitAt fieldSep (Text.trimLineEnd line)
      rw [hsplit] at hline
      have hlast : (Text.dropTail endsLine line.toList).getLast? = some c := by
        rw [← Text.toList_trimLineEnd, ← hline]
        simp [Text.join, List.getLast?_append, List.getLast?_cons, hc]
      exact Text.getLast?_dropTail hlast
    · cases h

/-- A record is read back from its line exactly if a line can carry it, and every record that was read
from a line is read back from its own. -/
theorem parse?_format_iff :
    (∀ (key value : String) (layer : Option LayerKind),
      parse? (format ⟨key, value, layer⟩) = some ⟨key, value, layer⟩ ↔
        key ≠ "" ∧ '\t' ∉ key.toList ∧ '\t' ∉ value.toList ∧
        (layer.isSome ∨ value.toList.getLast? ≠ some '\r' ∧ value.toList.getLast? ≠ some '\n')) ∧
    ∀ (line : String) (r : EnvRecord), parse? line = some r → parse? r.format = some r := by
  refine ⟨fun key value layer => ?_, fun line r h => (fitsLine_of_parse? h).parse?_format⟩
  have hending : (∀ c, value.toList.getLast? = some c → endsLine c = false) ↔
      value.toList.getLast? ≠ some '\r' ∧ value.toList.getLast? ≠ some '\n' := by
    cases value.toList.getLast? <;> simp [endsLine]
  rw [← hending]
  constructor
  · intro h
    obtain ⟨hkey, hkeyTab, hvalueTab, hlast⟩ := fitsLine_of_parse? h
    exact ⟨hkey, hkeyTab, hvalueTab, hlast⟩
  · rintro ⟨hkey, hkeyTab, hvalueTab, hlast⟩
    exact FitsLine.parse?_format ⟨hkey, hkeyTab, hvalueTab, hlast⟩

/-- Blanks around the layer and line ends after it are not part of the record, but a line feed at the
end of the value before it is. -/
theorem parse?_format_padded :
    parse? "CMDFLOW_ENV\tk\tv\n\t session \r\r\n" = some ⟨"k", "v\n", some .session⟩ ∧
    parse? (format ⟨"k", "v\n", some .session⟩) = some ⟨"k", "v\n", some .session⟩ := by
  have hread : parse? "CMDFLOW_ENV\tk\tv\n\t session \r\r\n" = some ⟨"k", "v\n", some .session⟩ := by
    decide +kernel
  exact ⟨hread, parse?_format_iff.2 _ _ hread⟩

end EnvRecord

end FlowScript
