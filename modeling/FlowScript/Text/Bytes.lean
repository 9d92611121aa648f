/-!
# Text and bytes

Programs write bytes; the library works on text. Text is encoded as UTF-8, and bytes that are no
such encoding are no text.
-/

namespace FlowScript.Text

/-- A run of bytes. -/
abbrev Bytes := List UInt8

/-- The encoding of a text. -/
def bytes (s : String) : Bytes :=
  s.toUTF8.data.toList

/-- The text that some bytes encode. -/
def ofBytes? (bs : Bytes) : Option String :=
  String.fromUTF8? ⟨bs.toArray⟩

/-! ## Raw text

Programs look at text byte by byte. In raw text each byte is the character with its number. -/

/-- The raw text of some bytes. -/
def spread (bs : Bytes) : String :=
  String.ofList (bs.map fun b => Char.ofNat b.toNat)

/-- The bytes of a raw text. -/
def gather (raw : String) : Bytes :=
  raw.toList.map fun c => UInt8.ofNat c.toNat

/-- The raw text of the encoding of a text. -/
def toRaw (s : String) : String :=
  if s.toList.all (·.toNat < 128) then s else spread (bytes s)

/-- The text of which a raw text is the encoding; a raw text that is no encoding stays as it is. -/
def ofRaw (raw : String) : String :=
  if raw.toList.all (·.toNat < 128) then raw else (ofBytes? (gather raw)).getD raw

/-- How many bytes the encoding of a character takes that begins with a byte. -/
def encodedLength (first : Char) : Nat :=
  if first.toNat < 192 then 1 else if first.toNat < 224 then 2 else if first.toNat < 240 then 3
  else 4

/-- The character whose encoding a raw text begins with, and the number of its bytes. -/
def firstChar? : List Char → Option (Char × Nat)
  | [] => none
  | c :: cs =>
    let n := encodedLength c
    let bs := (c :: cs).take n
    match (ofBytes? (bs.map fun c => UInt8.ofNat c.toNat)).map String.toList with
    | some [d] => some (d, n)
    | _ => none

/-! ## Lines -/

/-- The byte that ends a line. -/
def lineFeed : UInt8 := 10

/-- The lines of some bytes, each with the byte that ends it; the last may lack it. -/
def byteLines : Bytes → List Bytes
  | [] => []
  | b :: rest =>
    if b = lineFeed then [b] :: byteLines rest
    else match byteLines rest with
      | [] => [[b]]
      | line :: lines => (b :: line) :: lines

/-- Nothing is lost when bytes are cut into lines. -/
theorem flatten_byteLines (bs : Bytes) : (byteLines bs).flatten = bs := by
  induction bs with
  | nil => rfl
  | cons b rest ih =>
    rw [byteLines]
    split
    · simp [ih]
    · split
      · next h => rw [h] at ih; simp at ih; simp [← ih]
      · next h => rw [h] at ih; simpa using ih

end FlowScript.Text
