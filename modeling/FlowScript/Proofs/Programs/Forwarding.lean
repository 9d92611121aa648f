import FlowScript.Programs.Line
import FlowScript.Proofs.Text.Encoding

/-!
# The output of programs

Output is taken line by line as bytes while the program runs, but it could as well be taken as one
text afterwards and cut into lines there. Both find the same records and copy the same lines: a line
carries the same record with its end and without (`parse?_withoutEnd`), and the lines of an encoded
text are its encoded lines.
-/

namespace FlowScript

namespace EnvRecord

/-- The end of a line is no part of the record on it. -/
theorem parse?_withoutEnd (cs : List Char) :
    parse? (String.ofList (Text.withoutEnd cs)) = parse? (String.ofList cs) := by
  obtain ⟨tail, htail, hcs⟩ := Text.exists_withoutEnd cs
  have htrim : Text.trimLineEnd (String.ofList (Text.withoutEnd cs)) =
      Text.trimLineEnd (String.ofList cs) := by
    rw [← String.toList_inj, Text.toList_trimLineEnd, Text.toList_trimLineEnd, String.toList_ofList,
      String.toList_ofList]
    conv_rhs => rw [hcs, Text.dropTail_append htail]
  rw [parse?, parse?, htrim]

theorem partition_eq (lines : List String) :
    partition lines = (lines.filterMap parse?, lines.filter fun line => (parse? line).isNone) := by
  induction lines with
  | nil => rfl
  | cons line rest ih =>
    rw [partition, ih]
    cases h : parse? line <;> simp [h]

end EnvRecord

namespace Programs

/-- The record that a line of output carries. -/
def recordOf? (line : Text.Bytes) : Option EnvRecord :=
  (Text.ofBytes? line).bind EnvRecord.parse?

/-- Whether a line of output is copied. -/
def isCopied (line : Text.Bytes) : Bool :=
  (recordOf? line).isNone

/-- A line of text carries the same record as bytes with its end and as text without. -/
theorem recordOf?_line (line : List Char) :
    recordOf? (Text.bytes (String.ofList line)) =
      EnvRecord.parse? (String.ofList (Text.withoutEnd line)) := by
  rw [recordOf?, Text.ofBytes?_bytes, Option.bind_some, EnvRecord.parse?_withoutEnd]

/-! ## Taking lines -/

theorem forward_cons (line : Text.Bytes) (rest : List Text.Bytes) (e : Env) (w : World) :
    forward (line :: rest) (e, w) =
      match recordOf? line with
      | some r => forward rest (r.apply e, w)
      | none => forward rest (e, w.putBytes line) := by
  have hline : forwardLine line (e, w) =
      match recordOf? line with
      | some r => (r.apply e, w)
      | none => (e, w.putBytes line) := rfl
  rw [forward, List.foldl_cons, hline]
  cases recordOf? line <;> rfl

theorem forward_env (lines : List Text.Bytes) (e : Env) (w : World) :
    (forward lines (e, w)).1 = EnvRecord.applyAll (lines.filterMap recordOf?) e := by
  induction lines generalizing e w with
  | nil => rfl
  | cons line rest ih =>
    rw [forward_cons, List.filterMap_cons]
    cases recordOf? line <;> exact ih _ _

theorem forward_world (lines : List Text.Bytes) (e : Env) (w : World) :
    (forward lines (e, w)).2 =
      { w with emitted := ((lines.filter isCopied).map .out).reverse ++ w.emitted } := by
  induction lines generalizing e w with
  | nil => rfl
  | cons line rest ih =>
    rw [forward_cons]
    cases h : recordOf? line <;> simp [ih, isCopied, h, World.putBytes, World.emit]

/-! ## Taking text -/

/-- The records on the lines of an encoded text are those on the lines of the text. -/
theorem records_of_text {text : String} {lines : List (List Char)}
    (h : Text.LinesOf '\n' text.toList lines) :
    (lines.map fun l => Text.bytes (String.ofList l)).filterMap recordOf? =
      (Text.lines text).filterMap EnvRecord.parse? := by
  have hrecord : (recordOf? ∘ fun l => Text.bytes (String.ofList l)) =
      EnvRecord.parse? ∘ fun line => String.ofList (Text.withoutEnd line) := by
    funext line
    simp [recordOf?_line]
  rw [h.lines_eq, List.filterMap_map, List.filterMap_map, hrecord]

/-- The copied lines of an encoded text are those lines of the text that carry no record. -/
theorem copied_of_text {text : String} {lines : List (List Char)}
    (h : Text.LinesOf '\n' text.toList lines) :
    ((lines.map fun l => Text.bytes (String.ofList l)).filter isCopied).map
        (fun line => (Text.ofBytes? line).map fun s => String.ofList (Text.withoutEnd s.toList)) =
      ((Text.lines text).filter fun line => (EnvRecord.parse? line).isNone).map some := by
  have hcopied : (isCopied ∘ fun l => Text.bytes (String.ofList l)) =
      (fun line => (EnvRecord.parse? line).isNone) ∘
        fun line => String.ofList (Text.withoutEnd line) := by
    funext line
    simp [isCopied, recordOf?_line]
  rw [h.lines_eq, List.filter_map, List.filter_map, hcopied, List.map_map, List.map_map]
  apply List.map_congr_left
  intro line _
  simp

/-- What becomes of the output of a program that is taken as the lines `lines`. -/
structure Forwarded (bs : Text.Bytes) (lines : List Text.Bytes) (before after : Env × World) :
    Prop where
  cut : Text.LinesOf Text.lineFeed bs lines
  /-- No byte is lost or added. -/
  whole : lines.flatten = bs
  /-- Lines that carry no record are shown as they are, with their ends. -/
  output : after.2.output = before.2.output ++ (lines.filter isCopied).flatten
  complaints : after.2.complaints = before.2.complaints
  /-- Nothing else in the world is touched. -/
  world : { after.2 with emitted := before.2.emitted } = before.2
  /-- Records are written in the order of their lines. -/
  env : after.1 = EnvRecord.applyAll (lines.filterMap recordOf?) before.1
  /-- If the output is text, the records are those on its lines. -/
  textEnv : ∀ text, Text.ofBytes? bs = some text →
    after.1 = EnvRecord.applyAll (EnvRecord.partition (Text.lines text)).1 before.1
  /-- If the output is text, the copied lines are its other lines with their ends. -/
  textLines : ∀ text, Text.ofBytes? bs = some text →
    (lines.filter isCopied).map
        (fun line => (Text.ofBytes? line).map fun s => String.ofList (Text.withoutEnd s.toList)) =
      (EnvRecord.partition (Text.lines text)).2.map some

/-- Output that is taken line by line is copied but for its records, and comes to the same as its
text taken as a whole. -/
theorem forward_byteLines (bs : Text.Bytes) (e : Env) (w : World) :
    Forwarded bs (Text.byteLines bs) (e, w) (forward (Text.byteLines bs) (e, w)) := by
  have hlines := Text.linesOf_byteLines bs
  have hworld := forward_world (Text.byteLines bs) e w
  have henv := forward_env (Text.byteLines bs) e w
  have htext {text : String} (h : Text.ofBytes? bs = some text) :
      ∃ ls, Text.LinesOf '\n' text.toList ls ∧
        Text.byteLines bs = ls.map fun l => Text.bytes (String.ofList l) := by
    obtain ⟨ls, hls⟩ := Text.exists_linesOf '\n' text.toList
    have hencoded := hls.encode
    rw [← Text.bytes_eq_flatMap, ← Text.bytes_of_ofBytes? h] at hencoded
    refine ⟨ls, hls, hlines.unique ?_⟩
    simpa [Text.bytes_eq_flatMap] using hencoded
  refine ⟨hlines, Text.flatten_byteLines bs, ?_, ?_, ?_, henv, fun text h => ?_, fun text h => ?_⟩
  · simp [hworld, World.output, World.effects, List.flatMap_map]
  · simp [hworld, World.complaints, World.effects, List.flatMap_map]
  · rw [hworld]
  · obtain ⟨ls, hls, heq⟩ := htext h
    rw [henv, heq, records_of_text hls, EnvRecord.partition_eq]
  · obtain ⟨ls, hls, heq⟩ := htext h
    rw [heq, copied_of_text hls, EnvRecord.partition_eq]

/-- Two records, one of them on a line with a carriage return before its end, among other lines. -/
def recordingText : String :=
  "CMDFLOW_ENV\tmode\tfast\r\nplain\r\nCMDFLOW_ENV\tmode\tslow\tpersisted\nend\r"

/-- The text and after it a line that is no text. -/
def recordingOutput : Text.Bytes :=
  Text.bytes recordingText ++ [10, 255, 10]

/-- The records are written to their layers, and all other bytes are copied. -/
theorem forward_byteLines_recording :
    let e := Env.newSession.push .command
    let w : World := ⟨.empty, ∅, "/", false, []⟩
    let taken (bs : Text.Bytes) := forward (Text.byteLines bs) (e, w)
    (Forwarded recordingOutput (Text.byteLines recordingOutput) (e, w) (taken recordingOutput) ∧
      (taken recordingOutput).1.layers.map (·.texts.get? "mode") =
        [none, some "fast", some "slow", none] ∧
      (taken recordingOutput).2.output = Text.bytes "plain\r\nend\r" ++ [10, 255, 10]) ∧
    (taken (Text.bytes recordingText)).1 =
      EnvRecord.applyAll [⟨"mode", "fast", none⟩, ⟨"mode", "slow", some .persisted⟩] e ∧
    (EnvRecord.partition (Text.lines recordingText)).2 = ["plain", "end\r"] := by
  intro e w taken
  have hrecords : EnvRecord.partition (Text.lines recordingText) =
      ([⟨"mode", "fast", none⟩, ⟨"mode", "slow", some .persisted⟩], ["plain", "end\r"]) := by
    decide +kernel
  have htext := (forward_byteLines (Text.bytes recordingText) e w).textEnv recordingText
    (Text.ofBytes?_bytes recordingText)
  rw [hrecords] at htext
  refine ⟨⟨forward_byteLines recordingOutput e w, ?_, ?_⟩, htext, congrArg Prod.snd hrecords⟩
  · decide +kernel
  · decide +kernel

end Programs

end FlowScript
