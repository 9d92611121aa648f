import FlowScript.Programs.Shell.Arithmetic
import FlowScript.Programs.Shell.Fields
import FlowScript.Programs.Shell.Pattern

/-!
# Expansion

The pieces of a word stand for text: parameters for their values, expressions for numbers, scripts
for their output. What came out unquoted is cut into fields, and a field that is a pattern stands
for the files that it matches.
-/

namespace FlowScript.Programs.Shell

/-- Where pieces stand. -/
structure Place where
  /-- Whether fields are wanted. -/
  fields : Bool
  quoted : Bool := false
  /-- Whether plain text is cut like that of parameters. -/
  inside : Bool := false

/-- How text that comes out of a piece is cut. -/
def Place.kind (p : Place) : RunKind := if p.quoted then .fixed else .separated

/-! ## Home directories -/

/-- The home directory of a user. -/
def homeOf? (s : State) (user : String) : Option String :=
  if user.isEmpty then s.value? "HOME"
  else if user = "root" then some "/root" else none

/-- The home directory at the front of plain text and what follows it. The name of the user ends at
a slash, in an assignment also at a colon, or with the word. -/
def home? (s : State) (inAssignment last : Bool) (cs : List Char) : Option (String × List Char) :=
  match cs with
  | '~' :: rest => do
    let user := rest.takeWhile fun c => c ≠ '/' && !(inAssignment && c = ':')
    let rest := rest.drop user.length
    if rest.isEmpty && !last then none
    else some (← homeOf? s (String.ofList user), rest)
  | _ => none

/-- Plain text cut after its colons. -/
def afterColons : List Char → List (List Char)
  | [] => []
  | c :: cs =>
    if c = ':' then [c] :: afterColons cs
    else match afterColons cs with
      | [] => [[c]]
      | part :: parts => (c :: part) :: parts

/-- The runs of plain text. `front` says whether it may begin with a home directory, and `last`
whether the word ends with it. -/
def plainRuns (s : State) (p : Place) (front inAssignment last : Bool) (cs : List Char) :
    List Run :=
  let kind : RunKind := if p.inside && !p.quoted then .separated else .fixed
  let plain (cs : List Char) : List Run :=
    if cs.isEmpty then [] else [⟨kind, cs.map (.char · p.quoted)⟩]
  match (if front && !p.quoted then home? s inAssignment last cs else none) with
  | some (home, rest) => ⟨.fixed, glyphs true home⟩ :: plain rest
  | none => plain cs

/-! ## Parameters -/

/-- The letters of the options that are on. -/
def optionLetters (s : State) : String :=
  String.ofList (optionNames.reverse.filterMap fun (_, letter) =>
    if s.has letter then some letter else none)

/-- All parameters in one, with edges or the first separator between them. -/
def allParams (s : State) (p : Place) (apart : Bool) : List Glyph :=
  let joint : List Glyph :=
    if p.fields && (apart || !p.quoted) then [.edge]
    else match s.vars.get? "IFS" with
      | some ⟨some value, _, _⟩ => (value.toList.take 1).map (.char · p.quoted)
      | _ => [.char ' ' p.quoted]
  List.flatten ((s.params.map (glyphs p.quoted)).intersperse joint)

/-- The value of a parameter, if it has one. -/
def paramValue? (s : State) (p : Place) (name : String) : Option (List Glyph) :=
  let text (t : String) : Option (List Glyph) := some (glyphs p.quoted t)
  match name with
  | "@" => some (allParams s p true)
  | "*" => some (allParams s p false)
  | "#" => text (toString s.params.length)
  | "?" => text (toString s.status)
  | "$" => text (toString s.shell)
  | "!" => s.job.bind fun n => text (toString n)
  | "-" => text (optionLetters s)
  | name =>
    match Text.Integer.natOfDigits? name.toList with
    | some 0 => text s.name
    | some (n + 1) => s.params[n]?.bind text
    | none => (s.value? name).bind text

/-- The runs of the value of a parameter. -/
def paramRuns (s : State) (p : Place) (name : String) (gs : List Glyph) : List Run :=
  let kind : RunKind := if p.quoted then if name = "@" && !s.params.isEmpty then .edged else .fixed
    else .separated
  [⟨kind, gs⟩]

/-- The glyphs of some runs. -/
def runGlyphs (runs : List Run) : List Glyph := runs.flatMap (·.glyphs)

/-- Whether a word is all parameters in double quotes and nothing else. -/
def isAllParams : List Piece → Bool
  | [.param name .value] => name = "@"
  | _ => false

mutual

/-- The runs of a word. `output` runs a script and yields what it shows, `front` says whether the
word may begin with a home directory. -/
def expandPieces (output : Option Command → Act String) : (fuel : Nat) → (p : Place) →
    (front assigns : Bool) → List Piece → Act (List Run)
  | 0, _, _, _, _ => return []
  | _, _, _, _, [] => return []
  | fuel + 1, p, front, assigns, piece :: rest => do
    let first ← match piece with
      | .plain s => do
        let st ← get
        let last := rest.isEmpty
        if assigns then
          let parts := afterColons s.toList
          pure (parts.zipIdx.flatMap fun (part, i) =>
            plainRuns st p (front || i > 0) true (last || i + 1 < parts.length) part)
        else pure (plainRuns st p front false last s.toList)
      | .escaped c => pure [⟨.fixed, [.char c true]⟩]
      | .single s => pure [⟨.fixed, .quote :: glyphs true s ++ [.quote]⟩]
      | .double body => do
        let inner := { p with quoted := true, inside := false }
        if isAllParams body then expandPieces output fuel inner false false body
        else
          let runs ← expandPieces output fuel inner false false body
          pure (⟨.fixed, [.quote]⟩ :: runs ++ [⟨.fixed, [.quote]⟩])
      | .param name form => expandParam output fuel p name form
      | .sum expression => do
        let runs ← expandPieces output fuel ⟨false, true, false⟩ false false expression
        let n ← Arithmetic.eval (plainText (runGlyphs runs))
        pure [⟨p.kind, glyphs p.quoted (Text.Integer.write n)⟩]
      | .output body => do
        let text ← output body
        let cs := (text.toList.filter (· ≠ '\x00')).reverse.dropWhile (· == '\n')
        pure [⟨p.kind, glyphs p.quoted (String.ofList cs.reverse)⟩]
    let more ← expandPieces output fuel p false assigns rest
    return first ++ more

/-- The runs of a parameter. -/
def expandParam (output : Option Command → Act String) : (fuel : Nat) → (p : Place) →
    (name : String) → Form → Act (List Run)
  | 0, _, _, _ => return []
  | fuel + 1, p, name, form => do
    let s ← get
    let value? := paramValue? s p name
    let isUnset (colon : Bool) : Bool :=
      match value? with
      | none => true
      | some gs => colon && gs.isEmpty
    let mustBeSet : Act Unit := do
      if value?.isNone && s.has 'u' then fail (name ++ ": parameter not set")
    let inner := { p with inside := true }
    match form with
    | .senseless => fail "Bad substitution"
    | .value =>
      mustBeSet
      match value? with
      | some gs => return paramRuns s p name gs
      | none => return []
    | .length =>
      mustBeSet
      let n := ((paramValue? s { p with fields := false } name).getD []).length
      return [⟨p.kind, glyphs p.quoted (toString n)⟩]
    | .fallback colon word =>
      if isUnset colon then expandPieces output fuel inner true false word
      else return paramRuns s p name (value?.getD [])
    | .alternative colon word =>
      if isUnset colon then return [] else expandPieces output fuel inner true false word
    | .assign colon word =>
      if isUnset colon then
        let runs ← expandPieces output fuel ⟨false, p.quoted, false⟩ true false word
        assign name (plainText (runGlyphs runs))
        let s ← get
        return paramRuns s p name ((paramValue? s p name).getD [])
      else return paramRuns s p name (value?.getD [])
    | .demand colon word =>
      if isUnset colon then
        let runs ← expandPieces output fuel ⟨false, p.quoted, false⟩ true false word
        let usual := if colon then "parameter not set or null" else "parameter not set"
        fail (name ++ ": " ++ (if word.isEmpty then usual else plainText (runGlyphs runs)))
      else return paramRuns s p name (value?.getD [])
    | .trim atEnd longest pattern =>
      mustBeSet
      match value? with
      | none => return []
      | some gs =>
        let runs ← expandPieces output fuel ⟨false, false, false⟩ true false pattern
        let rest := Pattern.trim atEnd longest (patternText (runGlyphs runs)) (edgedChars gs)
        return paramRuns s p name (ofEdgedChars p.quoted rest)

end

/-! ## Files -/

/-- The paths that match the parts of a pattern between slashes. `front` is the path so far, and
`matched` says whether any part was a pattern. -/
def matchPaths (files : Files) : (matched : Bool) → (front : String) → List (List Char) →
    List String
  | matched, front, [] => if matched && files.contains (Text.ofRaw front) then [front] else []
  | matched, front, part :: rest =>
    let ps := Pattern.ofChars part
    let slash := if rest.isEmpty then "" else "/"
    let isPlain := ps.all fun
      | .exactly _ => true
      | _ => false
    if isPlain then
      let text := String.ofList (ps.filterMap fun
        | .exactly c => some c
        | _ => none)
      matchPaths files matched (front ++ text ++ slash) rest
    else
      let dotted := match ps with
        | .exactly '.' :: _ => true
        | _ => false
      let dir := if front.isEmpty then "." else Text.ofRaw front
      match files.place dir with
      | .error _ => []
      | .ok place =>
        if files.entryAt? place ≠ some .directory then []
        else
          let names := (if dotted then [".", ".."] else []) ++ (files.names place).map Text.toRaw
          let names := names.filter fun name =>
            (dotted || name.toList.head? ≠ some '.') && Pattern.fits ps name.toList
          names.flatMap fun name => matchPaths files true (front ++ name ++ slash) rest

/-- The parts of a pattern between slashes. -/
def patternParts : List Char → List (List Char)
  | [] => [[]]
  | '/' :: rest => [] :: patternParts rest
  | '\\' :: '/' :: rest => [] :: patternParts rest
  | c :: rest =>
    match patternParts rest with
    | [] => [[c]]
    | part :: parts => (c :: part) :: parts

/-- The texts that a field stands for. -/
def fieldTexts (s : State) (gs : List Glyph) : List String :=
  let plain := plainText gs
  let cs := patternText gs
  if s.has 'f' || !Pattern.isPattern plain.toList then [plain]
  else
    let found := matchPaths s.streams.files false "" (patternParts cs)
    if found.isEmpty then [plain] else found.mergeSort (fun a b => a < b || a = b)

/-! ## Words -/

/-- The limit on how deep a word is nested and how many pieces it has. -/
def pieceLimit : Nat := 1000000000

/-- The fields of a word. -/
def expandFields (output : Option Command → Act String) (w : Word) : Act (List String) := do
  let runs ← expandPieces output pieceLimit ⟨true, false, false⟩ true false w
  let s ← get
  return (fieldsOf s.separators runs).flatMap (fieldTexts s)

/-- The text of a word. -/
def expandText (output : Option Command → Act String) (w : Word) : Act String := do
  let runs ← expandPieces output pieceLimit ⟨false, false, false⟩ true false w
  return plainText (runGlyphs runs)

/-- The text of the value in an assignment. -/
def expandAssigned (output : Option Command → Act String) (w : Word) : Act String := do
  let runs ← expandPieces output pieceLimit ⟨false, false, false⟩ true true w
  return plainText (runGlyphs runs)

/-- The pattern that a word writes. -/
def expandPattern (output : Option Command → Act String) (w : Word) : Act (List Char) := do
  let runs ← expandPieces output pieceLimit ⟨false, false, false⟩ true false w
  return patternText (runGlyphs runs)

/-- The text of a document. -/
def expandDocument (output : Option Command → Act String) (w : Word) : Act String := do
  let runs ← expandPieces output pieceLimit ⟨false, true, false⟩ false false w
  return plainText (runGlyphs runs)

end FlowScript.Programs.Shell
