import FlowScript.Programs.Shell.Token

/-!
# Reading shell scripts

A script is read one line of commands at a time, so that what stands on a line is run before the
next is looked at. Reading follows the grammar directly: a token is read when it is wanted, and one
that does not fit is left for whoever asked.
-/

namespace FlowScript.Programs.Shell

mutual

/-- Reads unquoted pieces: up to the end of a word, or up to a closing brace. `text` is the plain
text before, backwards. -/
def readPlain : (fuel : Nat) → (brace : Bool) → (text : List Char) → Parse Word
  | 0, _, _ => fault "Unterminated quoted string"
  | fuel + 1, brace, text => do
    match ← peekChar with
    | none => if brace then fault "Missing '\x7d'" else return flushPlain text []
    | some c =>
      if c = '\x7d' && brace then
        dropChar
        return flushPlain text []
      else if endsWord c && !brace then return flushPlain text []
      else
        dropChar
        if c = '\\' then
          markQuoted
          match ← takeRaw with
          | none => return flushPlain text (.escaped '\\' :: (← readPlain fuel brace []))
          | some d => return flushPlain text (.escaped d :: (← readPlain fuel brace []))
        else if c = '\'' then
          markQuoted
          let s ← takeSingle fuel
          return flushPlain text (.single (String.ofList s) :: (← readPlain fuel brace []))
        else if c = '"' then
          markQuoted
          let body ← readDouble fuel false false false []
          return flushPlain text (.double body :: (← readPlain fuel brace []))
        else if c = '$' then
          match ← readDollar fuel false with
          | some p => return flushPlain text (p :: (← readPlain fuel brace []))
          | none => readPlain fuel brace ('$' :: text)
        else if c = backquote then
          let p ← readBackquoted fuel false
          return flushPlain text (p :: (← readPlain fuel brace []))
        else readPlain fuel brace (c :: text)

/-- Reads pieces in double quotes: up to the closing quote, to a closing brace, or all there is of a
document. `inner` says whether quotes are open inside braces. -/
def readDouble : (fuel : Nat) → (brace document inner : Bool) → (text : List Char) → Parse Word
  | 0, _, _, _, _ => fault "Unterminated quoted string"
  | fuel + 1, brace, document, inner, text => do
    match ← takeChar with
    | none =>
      if !document && !(← get).inDocument then fault "Unterminated quoted string"
      else if brace then fault "Missing '\x7d'"
      else return flushPlain text []
    | some c =>
      if c = '"' then
        if brace then readDouble fuel brace document (!inner) text
        else if document then readDouble fuel brace document inner (c :: text)
        else return flushPlain text []
      else if c = '\x7d' && brace && !inner then return flushPlain text []
      else if c = '\\' then
        match ← takeRaw with
        | none => readDouble fuel brace document inner ('\\' :: text)
        | some d =>
          let plain := d = '\\' || d = '$' || d = backquote || (d = '\x7d' && brace) ||
            (d = '"' && (!document || brace))
          readDouble fuel brace document inner (if plain then d :: text else d :: '\\' :: text)
      else if c = '$' then
        match ← readDollar fuel true with
        | some p => return flushPlain text (p :: (← readDouble fuel brace document inner []))
        | none => readDouble fuel brace document inner ('$' :: text)
      else if c = backquote then
        let p ← readBackquoted fuel true
        return flushPlain text (p :: (← readDouble fuel brace document inner []))
      else readDouble fuel brace document inner (c :: text)

/-- Reads what follows a dollar sign, if it is not plain text. -/
def readDollar : (fuel : Nat) → (double : Bool) → Parse (Option Piece)
  | 0, _ => return none
  | fuel + 1, double => do
    match ← peekChar with
    | none => return none
    | some c =>
      if c = '(' then
        dropChar
        if ← takeIf '(' then
          return some (.sum (← readSum fuel 0 []))
        else
          return some (.output (← readOutput fuel))
      else if c = '\x7b' then
        dropChar
        return some (← readBraces fuel double)
      else if isNameStart c then
        let name ← takeWhileChar isNamePart fuel
        return some (.param (String.ofList name) .value)
      else if isSpecial c then
        dropChar
        return some (.param (String.singleton c) .value)
      else return none

/-- Reads a parameter in braces after the opening one. -/
def readBraces : (fuel : Nat) → (double : Bool) → Parse Piece
  | 0, _ => fault "Missing '\x7d'"
  | fuel + 1, double => do
    match ← peekChar with
    | none => readForm fuel double "" true
    | some c =>
      if isNameStart c then
        let name ← takeWhileChar isNamePart fuel
        readForm fuel double (String.ofList name) false
      else if c.isDigit then
        let name ← takeWhileChar Char.isDigit fuel
        readForm fuel double (String.ofList name) false
      else if c = '\x7d' then readForm fuel double "" true
      else
        let _ ← takeUncounted
        if c = '#' then
          match ← peekChar with
          | none => readForm fuel double "#" false
          | some d =>
            if isNamePart d then
              let name ← takeWhileChar (if d.isDigit then Char.isDigit else isNamePart) fuel
              readLength fuel double (String.ofList name)
            else
              let r ← get
              let after := (dropJoins r.chars.tail).1
              if d ≠ '\x7d' && after.head? = some '\x7d' then
                dropChar
                if isSpecial d then readLength fuel double (String.singleton d)
                else readForm fuel double "" true
              else readForm fuel double "#" false
        else readForm fuel double (String.singleton c) (!isSpecial c)

/-- Reads the end of a parameter of which the length is wanted. -/
def readLength : (fuel : Nat) → (double : Bool) → (name : String) → Parse Piece
  | 0, _, _ => fault "Missing '\x7d'"
  | fuel + 1, double, name => do
    if ← takeIf '\x7d' then return .param name .length
    else
      let _ ← readBody fuel double
      return .param name .senseless

/-- Reads what is wanted of a parameter in braces, up to the closing one. -/
def readForm : (fuel : Nat) → (double : Bool) → (name : String) → (bad : Bool) → Parse Piece
  | 0, _, _, _ => fault "Missing '\x7d'"
  | fuel + 1, double, name, bad => do
    if bad then
      let _ ← readBody fuel double
      return .param name .senseless
    else
      let colon ← takeIf ':'
      match ← takeUncounted with
      | some '\x7d' =>
        if colon then
          let _ ← readBody fuel double
          return .param name .value
        else return .param name .value
      | some '-' => return .param name (.fallback colon (← readBody fuel double))
      | some '+' => return .param name (.alternative colon (← readBody fuel double))
      | some '=' => return .param name (.assign colon (← readBody fuel double))
      | some '?' => return .param name (.demand colon (← readBody fuel double))
      | some c =>
        if (c = '%' || c = '#') && !colon then
          let longest ← takeIf c
          return .param name (.trim (c = '%') longest (← readPlain fuel true []))
        else
          let _ ← readBody fuel double
          return .param name .senseless
      | none =>
        let _ ← readBody fuel double
        return .param name .senseless

/-- Reads the word inside braces. -/
def readBody : (fuel : Nat) → (double : Bool) → Parse Word
  | 0, _ => fault "Missing '\x7d'"
  | fuel + 1, double =>
    if double then readDouble fuel true false false [] else readPlain fuel true []

/-- Reads an expression up to two closing parentheses; `depth` are open in it. -/
def readSum : (fuel : Nat) → (depth : Nat) → (text : List Char) → Parse Word
  | 0, _, _ => fault "Missing '))'"
  | fuel + 1, depth, text => do
    match ← takeChar with
    | none => fault "Missing '))'"
    | some c =>
      if c = '(' then readSum fuel (depth + 1) (c :: text)
      else if c = ')' then
        if depth > 0 then readSum fuel (depth - 1) (c :: text)
        else if ← takeIf ')' then return flushPlain text []
        else readSum fuel depth (c :: text)
      else if c = '\\' then
        match ← takeRaw with
        | none => readSum fuel depth ('\\' :: text)
        | some d =>
          let plain := d = '\\' || d = '$' || d = backquote || d = '"'
          readSum fuel depth (if plain then d :: text else d :: '\\' :: text)
      else if c = '$' then
        match ← readDollar fuel true with
        | some p => return flushPlain text (p :: (← readSum fuel depth []))
        | none => readSum fuel depth ('$' :: text)
      else if c = backquote then
        let p ← readBackquoted fuel true
        return flushPlain text (p :: (← readSum fuel depth []))
      else readSum fuel depth (c :: text)

/-- Reads commands up to a closing parenthesis. -/
def readOutput : (fuel : Nat) → Parse (Option Command)
  | 0 => unexpectedFor .closing
  | fuel + 1 => do
    let before ← get
    set { before with pending := [], inDocument := false }
    let body ← readList fuel true none
    let t ← readToken fuel {}
    if t ≠ .closing then unexpectedFor .closing
    else
      -- a document that has not come by now is empty
      modify fun r => { r with
        again := false, pending := before.pending, quoted := before.quoted
        inDocument := before.inDocument
        documents := r.pending.map (fun d => (d.number, [])) ++ r.documents }
      return body

/-- Reads commands in quotes for them. -/
def readBackquoted : (fuel : Nat) → (double : Bool) → Parse Piece
  | 0, _ => fault "EOF in backquote substitution"
  | fuel + 1, double => do
    let script ← takeBackquoted double fuel
    let before ← get
    set { before with chars := script, line := 1, pending := [], inDocument := false }
    let body ← readList fuel true none
    readDocuments fuel
    modify fun r => { r with
      chars := before.chars, line := before.line, again := false
      inDocument := before.inDocument, pending := before.pending, quoted := before.quoted }
    return .output body

/-- Reads the documents that were announced on the line before. -/
def readDocuments : (fuel : Nat) → Parse Unit
  | 0 => return ()
  | fuel + 1 => do
    let r ← get
    match r.pending with
    | [] => return ()
    | d :: more =>
      if d.raw then
        let (text, rest, lines) := documentText d fuel false r.chars
        set { r with
          chars := rest, line := r.line + lines, pending := more
          documents := (d.number, [.single (String.ofList text)]) :: r.documents }
      else
        let (body, rest, lines) ← readDocument fuel d [] r.chars
        modify fun after => { after with
          inDocument := r.inDocument, chars := rest, line := r.line + lines, pending := more
          again := r.again, quoted := r.quoted
          documents := (d.number, body) :: after.documents }
      readDocuments fuel

/-- Reads a document of which the front has been looked at: its pieces, what follows it, and how
many more lines it took. A line that would end it does not as long as commands in it are not closed. -/
def readDocument : (fuel : Nat) → Pending → (front rest : List Char) →
    Parse (Word × List Char × Nat)
  | 0, _, _, _ => fault "Unterminated quoted string"
  | fuel + 1, d, front, cs => do
    let r ← get
    let attempt (text : List Char) : Parse Word := do
      set { r with chars := text, again := false, pending := [], inDocument := true }
      readDouble fuel false true false []
    let (text, rest, lines) := documentText d fuel false cs
    tryCatch (do return (← attempt (front ++ text), rest, lines)) fun e => do
      -- the line that ends the document has been read by then
      if e.isOpen then throw { e with line := e.line + (lines - text.count '\n') }
      else if rest.isEmpty then return (← attempt (front ++ cs), [], lines)
      else
        set r
        let (body, rest, more) ← readDocument fuel d (front ++ (text ++ d.delimiter ++ ['\n'])) rest
        return (body, rest, lines + more)

/-- Reads a token. -/
def readToken : (fuel : Nat) → Wanted → Parse Token
  | 0, _ => fault "Unterminated quoted string"
  | fuel + 1, wanted => do
    let r ← get
    let t ← if r.again then
        set { r with again := false }
        pure r.last
      else readRawToken fuel
    match t with
    | .newline =>
      if wanted.lines then
        readDocuments fuel
        readToken fuel wanted
      else return t
    | .word =>
      let start := r
      let r ← get
      let followsAlias := !start.again && !r.busy.isEmpty && r.hasPassed start.chars.length
      let name := if r.quoted then none else literal? r.word
      match name with
      | none => return t
      | some name =>
        if wanted.keywords && keywords.contains name then noteToken (.keyword name)
        else match (if wanted.aliases || followsAlias then r.alias? else none) with
          | none => return t
          | some (name, value) =>
            set (r.expandAlias name value)
            readToken fuel { wanted with aliases := true }
    | t => return t

/-- Reads a token as it stands. -/
def readRawToken : (fuel : Nat) → Parse Token
  | 0 => fault "Unterminated quoted string"
  | fuel + 1 => do
    match ← peekChar with
    | none => noteToken .ending
    | some c =>
      if c = ' ' || c = '\t' then
        dropChar
        readRawToken fuel
      else if c = '#' then
        dropComment
        readRawToken fuel
      else match operator? c with
        | some (t, longer) =>
          dropChar
          match longer with
          | none => noteToken t
          | some (d, t') => if ← takeIf d then noteToken t' else noteToken t
        | none =>
          match ← redirectAhead with
          | some fd => readRedirect fd
          | none =>
            modify fun r => { r with quoted := false }
            let w ← readPlain fuel false []
            modify fun r => { r with word := w }
            noteToken .word

/-- Reads a list of commands after one. `started` says whether a token that ends the list may
come. -/
def readList : (fuel : Nat) → (started : Bool) → Option Command → Parse (Option Command)
  | 0, _, _ => unexpected
  | fuel + 1, started, first => do
    let t ← readToken fuel .command
    if t = .ending then
      readDocuments fuel
      pushBack
      return first
    else
      pushBack
      if started && t.endsList then return first
      else
        let c ← readAndOr fuel {}
        let t ← readToken fuel {}
        let c := if t = .ampersand then .background c else c
        let all := match first with
          | none => c
          | some a => .sequence a c
        match t with
        | .ending =>
          readDocuments fuel
          pushBack
          return some all
        | .newline =>
          pushBack
          readList fuel true (some all)
        | .ampersand | .semicolon => readList fuel true (some all)
        | _ =>
          pushBack
          return some all

/-- Reads the commands on one line after some. The script is at its end if there is nothing. -/
def readLine : (fuel : Nat) → Option Command → Parse (Option (Option Command))
  | 0, _ => unexpected
  | fuel + 1, first => do
    let t ← readToken fuel { keywords := true, aliases := true }
    match t with
    | .newline =>
      readDocuments fuel
      return some first
    | .ending =>
      readDocuments fuel
      pushBack
      return first.map some
    | _ =>
      pushBack
      let c ← readAndOr fuel {}
      let t ← readToken fuel {}
      let c := if t = .ampersand then .background c else c
      let all := match first with
        | none => c
        | some a => .sequence a c
      match t with
      | .ending =>
        readDocuments fuel
        pushBack
        return some (some all)
      | .newline =>
        pushBack
        readLine fuel (some all)
      | .ampersand | .semicolon => readLine fuel (some all)
      | _ => unexpected

/-- Reads commands joined by `&&` and `||`. -/
def readAndOr : (fuel : Nat) → Wanted → Parse Command
  | 0, _ => unexpected
  | fuel + 1, wanted => do
    let c ← readPipeline fuel wanted
    continueAndOr fuel c

/-- Goes on with commands joined to one. -/
def continueAndOr : (fuel : Nat) → Command → Parse Command
  | 0, _ => unexpected
  | fuel + 1, c => do
    match ← readToken fuel {} with
    | .both => continueAndOr fuel (.both c (← readPipeline fuel .command))
    | .either => continueAndOr fuel (.either c (← readPipeline fuel .command))
    | _ =>
      pushBack
      return c

/-- Reads commands joined by `|`. -/
def readPipeline : (fuel : Nat) → Wanted → Parse Command
  | 0, _ => unexpected
  | fuel + 1, wanted => do
    if (← readToken fuel wanted) = .keyword "!" then
      return .negate (← continuePipe fuel { keywords := true, aliases := true })
    else
      pushBack
      continuePipe fuel {}

/-- Reads a command and those that its output goes through. -/
def continuePipe : (fuel : Nat) → Wanted → Parse Command
  | 0, _ => unexpected
  | fuel + 1, wanted => do
    let c ← readCommand fuel wanted
    if (← readToken fuel {}) = .pipe then
      return .pipe c (← continuePipe fuel .command)
    else
      pushBack
      return c

/-- Reads one command. -/
def readCommand : (fuel : Nat) → Wanted → Parse Command
  | 0, _ => unexpected
  | fuel + 1, wanted => do
    let line := (← get).line
    match ← readToken fuel wanted with
    | .keyword "if" =>
      let c ← readChoice fuel
      closeWith fuel line (.keyword "fi") c
    | .keyword "while" =>
      let c ← readLoop fuel false
      closeWith fuel line (.keyword "done") c
    | .keyword "until" =>
      let c ← readLoop fuel true
      closeWith fuel line (.keyword "done") c
    | .keyword "for" =>
      let c ← readEach fuel line
      closeWith fuel line (.keyword "done") c
    | .keyword "case" =>
      let c ← readSelect fuel line
      readAround fuel line c []
    | .opening =>
      let c := .nested line (← readBlock fuel) []
      closeWith fuel line .closing c
    | .keyword "\x7b" =>
      let c ← readBlock fuel
      closeWith fuel line (.keyword "\x7d") c
    | .word | .redirect =>
      pushBack
      readSimple fuel (← get).line [] [] []
    | _ => unexpected

/-- Reads a list of commands that is not empty. -/
def readBlock : (fuel : Nat) → Parse Command
  | 0 => unexpected
  | fuel + 1 => do
    match ← readList fuel false none with
    | some c => return c
    -- only at the end of the script, where what was wanted is missing anyhow
    | none => return .simple 0 [] [] []

/-- Reads the token that ends a command, and the redirections after it. -/
def closeWith : (fuel : Nat) → (line : Nat) → Token → Command → Parse Command
  | 0, _, _, _ => unexpected
  | fuel + 1, line, t, c => do
    if (← readToken fuel {}) ≠ t then unexpectedFor t
    else readAround fuel line c []

/-- Reads the redirections after a command. -/
def readAround : (fuel : Nat) → (line : Nat) → Command → List Redirect → Parse Command
  | 0, _, _, _ => unexpected
  | fuel + 1, line, c, redirects => do
    if (← readToken fuel { keywords := true, aliases := true }) = .redirect then
      readAround fuel line c (redirects ++ [← readTarget fuel])
    else
      pushBack
      match redirects, c with
      | [], c => return c
      | redirects, .nested line body _ => return .nested line body redirects
      | redirects, c => return .redirected line c redirects

/-- Reads the word after a redirection. -/
def readTarget : (fuel : Nat) → Parse Redirect
  | 0 => unexpected
  | fuel + 1 => do
    let (fd, kind) := (← get).redirect
    match kind with
    | .document strip =>
      let blank (c : Char) : Bool := c = ' ' || c = '\t'
      let _ ← takeWhileChar blank fuel
      match ← peekChar with
      | none =>
        let _ ← readRawToken fuel
        unexpected
      | some c =>
        if endsWord c || c = '#' then
          let _ ← readRawToken fuel
          unexpected
        else
          modify fun r => { r with quoted := false }
          let delimiter ← takeDelimiter fuel
          modify fun r => { r with
            pending := r.pending ++ [⟨r.next, delimiter, r.quoted, strip⟩], next := r.next + 1 }
          return .document fd ((← get).next - 1)
    | kind =>
      if (← readToken fuel {}) ≠ .word then unexpected
      else
        let w := (← get).word
        match kind with
        | .file mode => return .file fd mode w
        | _ => return .duplicate fd w

/-- Reads the rest of a choice. -/
def readChoice : (fuel : Nat) → Parse Command
  | 0 => unexpected
  | fuel + 1 => do
    let condition ← readBlock fuel
    if (← readToken fuel {}) ≠ .keyword "then" then unexpectedFor (.keyword "then")
    else
      let yes ← readBlock fuel
      match ← readToken fuel {} with
      | .keyword "elif" => return .choice condition yes (some (← readChoice fuel))
      | .keyword "else" => return .choice condition yes (some (← readBlock fuel))
      | _ =>
        pushBack
        return .choice condition yes none

/-- Reads the rest of a loop under a condition. -/
def readLoop : (fuel : Nat) → Bool → Parse Command
  | 0, _ => unexpected
  | fuel + 1, onFailure => do
    let condition ← readBlock fuel
    if (← readToken fuel {}) ≠ .keyword "do" then unexpectedFor (.keyword "do")
    else return .loop onFailure condition (← readBlock fuel)

/-- Reads words as long as there are any. -/
def readWords : (fuel : Nat) → Parse (List Word)
  | 0 => return []
  | fuel + 1 => do
    if (← readToken fuel {}) = .word then
      let w := (← get).word
      return w :: (← readWords fuel)
    else return []

/-- Reads the rest of a loop over words. -/
def readEach : (fuel : Nat) → (line : Nat) → Parse Command
  | 0, _ => unexpected
  | fuel + 1, line => do
    let t ← readToken fuel {}
    let r ← get
    let name := if t = .word && !r.quoted then (literal? r.word).getD "" else ""
    if !isVariableName name.toList then fault "Bad for loop variable"
    else
      let words ← if (← readToken fuel .command) = .keyword "in" then
          let words ← readWords fuel
          let last := (← get).last
          if last ≠ .newline && last ≠ .semicolon then unexpected
          else
            -- a line end may announce documents
            if last = .newline then readDocuments fuel
            pure words
        else
          if (← get).last ≠ .semicolon then pushBack
          pure [[.double [.param "@" .value]]]
      if (← readToken fuel .command) ≠ .keyword "do" then unexpectedFor (.keyword "do")
      else return .each line name words (← readBlock fuel)

/-- Reads the rest of a choice between patterns. -/
def readSelect : (fuel : Nat) → (line : Nat) → Parse Command
  | 0, _ => unexpected
  | fuel + 1, line => do
    if (← readToken fuel {}) ≠ .word then unexpectedFor .word
    else
      let subject := (← get).word
      if (← readToken fuel .command) ≠ .keyword "in" then unexpectedFor (.keyword "in")
      else return .select line subject (← readArms fuel)

/-- Reads the arms of a choice between patterns. -/
def readArms : (fuel : Nat) → Parse (List (List Word × Option Command))
  | 0 => unexpected
  | fuel + 1 => do
    match ← readToken fuel { lines := true, keywords := true } with
    | .keyword "esac" => return []
    | t =>
      if t = .opening then
        let _ ← readToken fuel {}
      let patterns ← readPatterns fuel
      let body ← readList fuel true none
      match ← readToken fuel { lines := true, keywords := true } with
      | .keyword "esac" => return [(patterns, body)]
      | .endArm => return (patterns, body) :: (← readArms fuel)
      | _ => unexpectedFor .endArm

/-- Reads the patterns of an arm, of which the first has been read. -/
def readPatterns : (fuel : Nat) → Parse (List Word)
  | 0 => unexpected
  | fuel + 1 => do
    let w := (← get).word
    match ← readToken fuel {} with
    | .pipe =>
      let _ ← readToken fuel {}
      return w :: (← readPatterns fuel)
    | .closing => return [w]
    | _ => unexpectedFor .closing

/-- Reads the assignments, words and redirections of a simple command, or the definition of a
function. Those read so far are given backwards. -/
def readSimple : (fuel : Nat) → (line : Nat) → List (String × Word) → List Word → List Redirect →
    Parse Command
  | 0, _, _, _, _ => unexpected
  | fuel + 1, line, assigns, words, redirects => do
    match ← readToken fuel { aliases := words.isEmpty } with
    | .word =>
      let w := (← get).word
      match (if words.isEmpty then assignment? w else none) with
      | some a => readSimple fuel line (a :: assigns) words redirects
      | none => readSimple fuel line assigns (w :: words) redirects
    | .redirect =>
      let r ← readTarget fuel
      readSimple fuel line assigns words (r :: redirects)
    | .opening =>
      match assigns, words, redirects with
      | [], [w], [] => readFunction fuel w
      | _, _, _ =>
        pushBack
        return .simple line assigns.reverse words.reverse redirects.reverse
    | _ =>
      pushBack
      return .simple line assigns.reverse words.reverse redirects.reverse

/-- Reads the rest of the definition of a function. -/
def readFunction : (fuel : Nat) → Word → Parse Command
  | 0, _ => unexpected
  | fuel + 1, w => do
    if (← readToken fuel {}) ≠ .closing then unexpectedFor .closing
    else
      let name := (literal? w).getD ""
      if !isVariableName name.toList || isSpecialBuiltin name then fault "Bad function name"
      else return .define name (← readCommand fuel .command)
where
  /-- Whether a command of the shell cannot be given another meaning. -/
  isSpecialBuiltin (name : String) : Bool :=
    ["break", "continue", "eval", "exec", "exit", "export", "local", "readonly", "return", "set",
      "shift", "times", "trap", "unset"].contains name

end

/-! ## Scripts -/

/-- The reader of a text. -/
def Reader.ofText (text : String) (visible : Bool) : Reader :=
  { chars := text.toList, line := 1, next := 0, aliases := ∅, visible := visible }

/-- How far a line of commands may be read. Aliases make it longer than it looks. -/
def lineLimit : Nat := 1000000000

/-- Reads the next line of commands. -/
def Reader.advance (r : Reader) : Except Fault (Option (Option Command) × Reader) :=
  let r := { r with again := false, pending := [], documents := [] }
  (readLine lineLimit none).run r

/-- Whether the end of the script was met, and is met again. -/
def Reader.hasEnded (r : Reader) : Bool := r.again && r.last = .ending

/-- The pieces of a text that stands before something that is shown. `ended` says that the end of
the script was met before. -/
def promptWord (text : String) (ended : Bool) : Except Fault (Word × Reader) :=
  (readDouble lineLimit false true false []).run
    { Reader.ofText text false with last := .ending, again := ended, inDocument := true }

end FlowScript.Programs.Shell
