/-!
# Blank characters and trimming

Tokens, keys and values are compared after the blanks around them are gone. A blank is any
character with the Unicode property White_Space. All functions on `String` here are functions on
the list of characters, so that a statement about them is a statement about lists.
-/

namespace FlowScript.Text

/-! ## The property -/

/-- The ranges of code points with the property White_Space, in ascending order. -/
def blankRanges : List (Nat × Nat) :=
  [(0x9, 0xD), (0x20, 0x20), (0x85, 0x85), (0xA0, 0xA0), (0x1680, 0x1680), (0x2000, 0x200A),
   (0x2028, 0x2029), (0x202F, 0x202F), (0x205F, 0x205F), (0x3000, 0x3000)]

/-- Whether a character is blank. -/
def isBlank (c : Char) : Bool :=
  blankRanges.any fun r => r.1 ≤ c.toNat && c.toNat ≤ r.2

/-- Whether a text holds blanks only; the empty text does. -/
def isBlankText (s : String) : Bool :=
  s.toList.all isBlank

/-! ## Trimming -/

/-- The characters without the trailing run that satisfies `p`. -/
def dropTail (p : Char → Bool) (cs : List Char) : List Char :=
  (cs.reverse.dropWhile p).reverse

/-- The characters without the blanks at either end. -/
def trimChars (cs : List Char) : List Char :=
  dropTail isBlank (cs.dropWhile isBlank)

/-- The text without the blanks at either end. -/
def trim (s : String) : String :=
  String.ofList (trimChars s.toList)

/-- The text without the line terminators at its end. -/
def trimLineEnd (s : String) : String :=
  String.ofList (dropTail (fun c => c == '\r' || c == '\n') s.toList)

/-- The trimmed text, unless nothing is left of it. -/
def trimmed? (s : String) : Option String :=
  let t := trim s
  if t.isEmpty then none else some t

/-! ## Lengths -/

theorem length_dropTail_le (p : Char → Bool) (cs : List Char) :
    (dropTail p cs).length ≤ cs.length := by
  have h := (List.dropWhile_sublist p (l := cs.reverse)).length_le
  simpa [dropTail] using h

theorem length_trimChars_le (cs : List Char) : (trimChars cs).length ≤ cs.length :=
  Nat.le_trans (length_dropTail_le _ _) (List.dropWhile_sublist isBlank).length_le

@[simp] theorem toList_trim (s : String) : (trim s).toList = trimChars s.toList := by
  simp [trim]

/-- Trimming never lengthens a text. -/
theorem length_trim_le (s : String) : (trim s).length ≤ s.length := by
  simpa [trim, ← String.length_toList] using length_trimChars_le s.toList

end FlowScript.Text
