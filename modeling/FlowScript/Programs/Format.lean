import FlowScript.Programs.Basic
import FlowScript.Programs.Real

/-!
# Formatted output

The program `printf` shows a format in which escapes stand for characters and conversions for its
arguments. The format is gone through again as long as arguments are left. A shell has a `printf` of
its own that differs in small things, which makes for two dialects.
-/

namespace FlowScript.Programs

/-- Whose rules are followed: those of the program, which may take text as UTF-8 and may keep
strictly to the standard, or those inside a shell. -/
inductive Dialect where
  | program (utf8 strict : Bool)
  | shell
deriving DecidableEq

/-- Whether text is taken as UTF-8. -/
def Dialect.utf8 : Dialect → Bool
  | program utf8 _ => utf8
  | shell => false

/-- The numbers that are computed with. -/
def Dialect.numbers : Dialect → Real.Format
  | program _ _ => Real.extended
  | shell => Real.double

/-! ## Escapes -/

/-- The character that a letter after a backslash stands for. -/
def letterEscape? (c : Char) : Option Char :=
  match c with
  | '\\' => some '\\'
  | '"' => some '"'
  | 'a' => some '\x07'
  | 'b' => some '\x08'
  | 'e' => some '\x1b'
  | 'f' => some '\x0c'
  | 'n' => some '\n'
  | 'r' => some '\r'
  | 't' => some '\t'
  | 'v' => some '\x0b'
  | _ => none

/-- Whether a character is an octal digit. -/
def isOctal (c : Char) : Bool := '0' ≤ c && c ≤ '7'

/-- The byte with a number, which is reduced to eight bits. -/
def byteChar (n : Nat) : Char := Char.ofNat (n % 256)

/-- The byte that up to three octal digits write, and what follows them. -/
def octalByte (cs : List Char) : Char × List Char :=
  let ds := (cs.take 3).takeWhile isOctal
  (byteChar (Real.natIn 8 ds), cs.drop ds.length)

/-- The byte that up to two hexadecimal digits write, and what follows them. -/
def hexByte (cs : List Char) : Char × List Char :=
  let ds := (cs.take 2).takeWhile Real.isHexDigit
  (byteChar (Real.natIn 16 ds), cs.drop ds.length)

/-- What an escape stands for, or why it stands for nothing. -/
inductive Escape where
  | text (s : String)
  /-- Output ends here. -/
  | stop
  | fault (message : String)

/-- A character of any number. Where only bytes can be shown, its number stands for it. -/
def universal (utf8 : Bool) (letter : Char) (count : Nat) (cs : List Char) : Escape × List Char :=
  let ds := cs.take count
  if ds.length < count || !ds.all Real.isHexDigit then
    (.fault "missing hexadecimal number in escape", cs)
  else
    let n := Real.natIn 16 ds
    let hex := String.ofList (ds.map Char.toLower)
    let upper := ds.map Char.toUpper
    if 55296 ≤ n && n ≤ 57343 then
      (.fault ("invalid universal character name \\" ++ String.singleton letter ++ hex), cs)
    else if n < 128 then (.text (String.singleton (Char.ofNat n)), cs.drop count)
    else if utf8 && n < 1114112 then
      (.text (Text.toRaw (String.singleton (Char.ofNat n))), cs.drop count)
    else if n < 65536 then
      (.text ("\\u" ++ String.ofList (upper.drop (count - 4))), cs.drop count)
    else (.text ("\\U" ++ String.ofList (List.replicate (8 - count) '0' ++ upper)),
      cs.drop count)

/-- Reads an escape of the program after its backslash. In an argument the octal digits may come
after a zero. -/
def programEscape (utf8 inArgument : Bool) : List Char → Escape × List Char
  | [] => (.text "\\", [])
  | 'c' :: rest => (.stop, rest)
  | 'u' :: rest => universal utf8 'u' 4 rest
  | 'U' :: rest => universal utf8 'U' 8 rest
  | 'x' :: rest =>
    if rest.head?.any Real.isHexDigit then
      let (c, rest) := hexByte rest
      (.text (String.singleton c), rest)
    else (.fault "missing hexadecimal number in escape", rest)
  | c :: rest =>
    if isOctal c then
      let (c, rest) := octalByte (if inArgument && c = '0' then rest else c :: rest)
      (.text (String.singleton c), rest)
    else match letterEscape? c with
      | some d => (.text (String.singleton d), rest)
      | none => (.text (String.ofList ['\\', c]), rest)

/-- Reads an escape inside a shell after its backslash. What is no escape keeps the backslash. -/
def shellEscape (inArgument : Bool) : List Char → Escape × List Char
  | [] => (.text "\\", [])
  | c :: rest =>
    if c = 'c' && inArgument then (.stop, rest)
    else if isOctal c then
      let after := inArgument && c = '0' && rest.head?.any isOctal
      let (c, rest) := octalByte (if after then rest else c :: rest)
      (.text (String.singleton c), rest)
    else match (if c = '"' then none else letterEscape? c) with
      | some d => (.text (String.singleton d), rest)
      | none => (.text "\\", c :: rest)

/-- Reads an escape after its backslash. -/
def readEscape : Dialect → (inArgument : Bool) → List Char → Escape × List Char
  | .program utf8 _ => programEscape utf8
  | .shell => shellEscape

/-- A text with its escapes taken as in an argument, and whether output goes on after it. -/
def unescape (d : Dialect) : (fuel : Nat) → List Char → String × Escape
  | 0, _ => ("", .text "")
  | _, [] => ("", .text "")
  | fuel + 1, '\\' :: rest =>
    match readEscape d true rest with
    | (.text s, rest) =>
      let (out, more) := unescape d fuel rest
      (s ++ out, more)
    | (e, _) => ("", e)
  | fuel + 1, c :: rest =>
    let (out, more) := unescape d fuel rest
    (String.singleton c ++ out, more)

/-! ## Conversions -/

/-- How an argument is shown. -/
structure Conversion where
  flags : List Char
  width : Nat
  precision : Option Nat
  letter : Char

namespace Conversion

/-- Fills a text up to a width. -/
def pad (c : Conversion) (cs : List Char) : String :=
  let fill := List.replicate (c.width - cs.length) ' '
  String.ofList (if c.flags.contains '-' then cs ++ fill else fill ++ cs)

/-- Shows a text. -/
def text (c : Conversion) (s : String) : String :=
  c.pad (match c.precision with
    | some p => s.toList.take p
    | none => s.toList)

/-- The sign in front of a number. -/
def sign (c : Conversion) (negative : Bool) : List Char :=
  if negative then ['-'] else if c.flags.contains '+' then ['+']
  else if c.flags.contains ' ' then [' '] else []

/-- Shows digits behind a sign, with zeros up to the width if that is asked for. -/
def digits (c : Conversion) (zeros : Bool) (sign ds : List Char) : String :=
  let fill := if zeros && c.flags.contains '0' && !c.flags.contains '-' then
      c.width - sign.length - ds.length else 0
  c.pad (sign ++ List.replicate fill '0' ++ ds)

/-- Digits with zeros in front up to the precision. A zero without precision has no digits. -/
def precise (c : Conversion) (ds : List Char) : List Char :=
  match c.precision with
  | some p => if p = 0 && ds = ['0'] then [] else List.replicate (p - ds.length) '0' ++ ds
  | none => ds

/-- Shows an integer with its sign. -/
def signed (c : Conversion) (n : Int) : String :=
  c.digits c.precision.isNone (c.sign (n < 0)) (c.precise (Nat.toDigits 10 n.natAbs))

/-- Shows an integer without a sign. -/
def unsigned (c : Conversion) (n : Nat) : String :=
  let alternate := c.flags.contains '#'
  let ds := c.precise (match c.letter with
    | 'o' => Nat.toDigits 8 n
    | 'x' => Nat.toDigits 16 n
    | 'X' => (Nat.toDigits 16 n).map Char.toUpper
    | _ => Nat.toDigits 10 n)
  let mark := if c.letter = 'o' && alternate && ds.head? ≠ some '0' then ['0']
    else if c.letter = 'x' && alternate && n ≠ 0 then ['0', 'x']
    else if c.letter = 'X' && alternate && n ≠ 0 then ['0', 'X'] else []
  c.digits c.precision.isNone mark ds

/-- Shows a real number. -/
def real (c : Conversion) (f : Real.Format) (r : Real) : String :=
  let mark := if !r.isFinite then [] else match c.letter with
    | 'a' => ['0', 'x']
    | 'A' => ['0', 'X']
    | _ => []
  c.digits r.isFinite (c.sign r.isNegative ++ mark)
    (r.text f c.letter (c.flags.contains '#') c.precision)

/-- Shows a real number without its digits, which take room nevertheless. -/
def digitless (c : Conversion) (f : Real.Format) (r : Real) : String :=
  let ds := r.text f c.letter (c.flags.contains '#') c.precision
  let blanked := ds.map fun d => if d.isDigit then '\x00' else d
  String.ofList ((c.digits r.isFinite (c.sign r.isNegative) blanked).toList.filter (· ≠ '\x00'))

end Conversion

/-! ## Numbers in arguments -/

/-- How far an argument is a number. -/
inductive Reading where
  | whole
  | missing
  | partly
  | outOfRange
deriving DecidableEq

/-- The size that digits at the front of a text write, and what follows: a leading zero makes it
octal, one with an `x` hexadecimal, and one with a `b` binary. -/
def sizeAt? (cs : List Char) : Option (Nat × List Char) :=
  let inBase (base : Nat) (isDigit : Char → Bool) (cs : List Char) : Nat × List Char :=
    (Real.natIn base (cs.takeWhile isDigit), cs.dropWhile isDigit)
  match cs with
  | '0' :: rest =>
    match rest with
    | x :: d :: _ =>
      let isBit (c : Char) : Bool := c = '0' || c = '1'
      if (x = 'x' || x = 'X') && Real.isHexDigit d then some (inBase 16 Real.isHexDigit rest.tail)
      else if (x = 'b' || x = 'B') && isBit d then some (inBase 2 isBit rest.tail)
      else some (inBase 8 isOctal cs)
    | _ => some (inBase 8 isOctal cs)
  | c :: _ => if c.isDigit then some (inBase 10 Char.isDigit cs) else none
  | [] => none

/-- The integer that an argument writes, and how far it does. Integers lie between two bounds;
`wraps` says that those below zero count from the upper one. -/
def integerOf (wraps : Bool) (s : String) : Int × Reading :=
  let blank (c : Char) : Bool := [' ', '\t', '\n', '\x0b', '\x0c', '\r'].contains c
  let cs := s.toList.dropWhile blank
  let (negative, cs) := match cs with
    | '-' :: rest => (true, rest)
    | '+' :: rest => (false, rest)
    | cs => (false, cs)
  match sizeAt? cs with
  | none => (0, if s.isEmpty then .whole else .missing)
  | some (n, rest) =>
    let n : Int := n
    let bounded : Int × Bool :=
      if wraps then
        if n > 18446744073709551615 then (18446744073709551615, false)
        else if negative && n > 0 then (18446744073709551616 - n, true) else (n, true)
      else if negative then
        if n > 9223372036854775808 then (-9223372036854775808, false) else (-n, true)
      else if n > 9223372036854775807 then (9223372036854775807, false) else (n, true)
    (bounded.1, if !bounded.2 then .outOfRange else if rest.isEmpty then .whole else .partly)

/-! ## Printing -/

/-- What has been shown, the latest first, and what is left to be shown. A complaint is without the
name of whoever complains. -/
structure Printing where
  shown : Shown := []
  args : List String
  /-- Whether a conversion took an argument. -/
  used : Bool := false
  status : Nat := 0
  /-- Whether something was too long to be shown. -/
  lost : Bool := false

/-- A part of printing; it may end all of it. -/
abbrev Print (β : Type) := ExceptT Unit (StateM Printing) β

namespace Print

/-- Shows a text. -/
def put (s : String) : Print Unit :=
  modify fun p => { p with shown := (.out, s) :: p.shown }

/-- Complains and goes on. -/
def warn (text : String) : Print Unit :=
  modify fun p => { p with shown := (.err, text) :: p.shown }

/-- Ends with a status. -/
def stop {β : Type} (status : Nat) : Print β := do
  modify fun p => { p with status := status }
  throw ()

/-- Complains and ends. -/
def fail {β : Type} (d : Dialect) (text : String) : Print β := do
  warn text
  stop (if d = .shell then 2 else 1)

/-- Shows what a conversion makes of an argument, unless it would be too long. -/
def emit (d : Dialect) (c : Conversion) (text : Unit → String) : Print Unit := do
  let most := Nat.max c.width (c.precision.getD 0)
  if d = .shell && most > 2147483647 then fail d "xvsnprintf failed"
  else if d ≠ .shell && most ≥ 2147483647 then modify fun p => { p with lost := true }
  else put (text ())

/-- Takes the next argument. -/
def next? : Print (Option String) := do
  let p ← get
  match p.args with
  | [] => return none
  | arg :: rest =>
    set { p with args := rest, used := true }
    return some arg

/-- Takes note of how far an argument was a number. -/
def judge (d : Dialect) (arg : String) (r : Reading) : Print Unit := do
  let name := if d = .shell then arg else Quoting.argument d.utf8 arg
  let complain (text : String) : Print Unit := do
    warn (name ++ ": " ++ text)
    modify fun p => { p with status := 1 }
  match r with
  | .whole => return ()
  | .missing =>
    complain (if d = .shell then "expected numeric value" else "expected a numeric value")
  | .partly =>
    complain (if d = .shell then "not completely converted" else "value not completely converted")
  | .outOfRange => complain "Numerical result out of range"

/-- The number of the character that an argument quotes, if it does. -/
def quoted? (d : Dialect) (arg : String) : Print (Option Nat) :=
  match arg.toList with
  | q :: rest =>
    if q = '\'' || q = '"' then
      match d, rest with
      | .shell, rest => return some ((rest.head?.map Char.toNat).getD 0)
      | .program _ _, [] => return none
      | .program utf8 strict, c :: rest => do
        let (n, rest) := match (if utf8 then Text.firstChar? (c :: rest) else none) with
          | some (d, count) => (d.toNat, (c :: rest).drop count)
          | none => (c.toNat, rest)
        if !rest.isEmpty && !strict then
          warn ("warning: " ++ String.ofList rest ++
            ": character(s) following character constant have been ignored")
        return some n
    else return none
  | [] => return none

/-- The integer in the next argument; none is zero. -/
def integer (d : Dialect) (wraps : Bool) : Print Int := do
  match ← next? with
  | none => return 0
  | some arg =>
    match ← quoted? d arg with
    | some n => return (n : Int)
    | none =>
      let (n, r) := integerOf wraps arg
      judge d arg r
      return n

/-- The real number in the next argument; none is zero. -/
def real (d : Dialect) : Print Real := do
  let zero : Real := .finite false 0 0
  match ← next? with
  | none => return zero
  | some arg =>
    match ← quoted? d arg with
    | some n => return (Real.ofDecimal d.numbers false n 0).1
    | none =>
      match Real.read? d.numbers arg.toList with
      | none =>
        judge d arg (if arg.isEmpty then .whole else .missing)
        return zero
      | some (r, inRange, rest) =>
        judge d arg (if !inRange then .outOfRange else if rest.isEmpty then .whole else .partly)
        return r

/-- A width or a precision that an argument gives; `what` says which. A shell takes as much of it as
fits in 32 bits. -/
def star (d : Dialect) (what : String) : Print Int := do
  let arg := (← get).args.head?.getD ""
  let n ← integer d false
  if d = .shell then
    let r := n % 4294967296
    return if r ≥ 2147483648 then r - 4294967296 else r
  else if n > 2147483647 || (what = "field width" && n < -2147483648) then
    fail d ("invalid " ++ what ++ ": " ++ Quoting.argument d.utf8 arg)
  else return n

/-- Shows one argument; `spec` is the conversion as it is written. -/
def convert (d : Dialect) (c : Conversion) (spec : String) : Print Unit := do
  match c.letter with
  | 's' =>
    let s := (← next?).getD ""
    emit d c fun _ => c.text s
  | 'c' =>
    let s := (← next?).getD ""
    emit d c fun _ => c.pad [s.toList.head?.getD '\x00']
  | 'b' =>
    let s := (← next?).getD ""
    let (out, more) := unescape d s.length s.toList
    emit d c fun _ => c.text out
    match more with
    | .text _ => return ()
    | .stop => throw ()
    | .fault message => fail d message
  | 'd' | 'i' =>
    let n ← integer d false
    emit d c fun _ => c.signed n
  | 'o' | 'u' | 'x' | 'X' =>
    let n ← integer d true
    emit d c fun _ => c.unsigned n.toNat
  | 'a' | 'A' | 'e' | 'E' | 'f' | 'F' | 'g' | 'G' =>
    let r ← real d
    -- digits of the locale are asked for, and there are none where text is just bytes
    let hidden := c.flags.contains 'I' && !d.utf8
    emit d c fun _ => if hidden then c.digitless d.numbers r else c.real d.numbers r
  | _ => fail d (spec ++ ": invalid directive")

/-- Whether the flags of a conversion go with its letter in the program. -/
def agree (c : Conversion) (dotted : Bool) : Bool :=
  let grouped := c.flags.contains '\'' || c.flags.contains 'I'
  let clash := (if grouped then ['a', 'A', 'c', 'e', 'E', 'o', 's', 'x', 'X'] else []) ++
    (if c.flags.contains '#' then ['c', 'd', 'i', 's', 'u'] else []) ++
    (if c.flags.contains '0' then ['c', 's'] else []) ++ (if dotted then ['c'] else [])
  !clash.contains c.letter

/-- Reads a conversion after its percent sign and shows what it asks for. -/
def conversion (d : Dialect) (cs : List Char) : Print (List Char) := do
  let isFlag (c : Char) : Bool :=
    ['-', '+', ' ', '0', '#'].contains c || (d ≠ .shell && (c = '\'' || c = 'I'))
  let number (ds : List Char) : Nat := (Text.Integer.natOfDigits? ds).getD 0
  let flags := cs.takeWhile isFlag
  let rest := cs.dropWhile isFlag
  let (width, rest) ← match rest with
    | '*' :: rest => do pure (← star d "field width", rest)
    | rest => pure ((number (rest.takeWhile Char.isDigit) : Int), rest.dropWhile Char.isDigit)
  let (precision, dotted, rest) ← match rest with
    | '.' :: '*' :: rest => do
      let p ← star d "precision"
      pure (if p < 0 then none else some p.toNat, true, rest)
    | '.' :: rest => pure (some (number (rest.takeWhile Char.isDigit)), true,
        rest.dropWhile Char.isDigit)
    | rest => pure (none, false, rest)
  let isLength (c : Char) : Bool := ['l', 'L', 'h', 'j', 't', 'z'].contains c
  let rest := if d = .shell then rest else rest.dropWhile isLength
  let flags := if width < 0 then '-' :: flags else flags
  let spec := String.ofList ('%' :: cs.take (cs.length - rest.length + 1))
  match rest with
  | [] =>
    if d = .shell then fail d "missing format character"
    else fail d (spec ++ ": invalid conversion specification")
  | letter :: rest =>
    let c : Conversion := ⟨flags, width.natAbs, precision, letter⟩
    if d = .shell then convert d c spec
    else if spec = "%b" then
      if !(← get).args.isEmpty then convert d c spec
    else if spec = "%q" then
      if let some arg ← next? then put (Quoting.word d.utf8 arg)
    else if agree c dotted &&
        "aAcdeEfFgGiosuxX".toList.contains letter then
      convert d c spec
    else fail d (spec ++ ": invalid conversion specification")
    return rest

/-- Goes through a format once. -/
def pass (d : Dialect) : (fuel : Nat) → List Char → Print Unit
  | 0, _ => return ()
  | _, [] => return ()
  | fuel + 1, '\\' :: rest => do
    match readEscape d false rest with
    | (.text s, rest) =>
      put s
      pass d fuel rest
    | (.stop, _) => stop 0
    | (.fault message, _) => fail d message
  | fuel + 1, '%' :: '%' :: rest => do
    put "%"
    pass d fuel rest
  | fuel + 1, '%' :: rest => do
    let rest ← conversion d rest
    pass d fuel rest
  | fuel + 1, c :: rest => do
    put (String.singleton c)
    pass d fuel rest

/-- Goes through a format until no argument is left. Every pass but the last takes one. -/
def passes (d : Dialect) (format : List Char) : (fuel : Nat) → Print Unit
  | 0 => return ()
  | fuel + 1 => do
    modify fun p => { p with used := false }
    pass d format.length format
    let p ← get
    if p.used && !p.args.isEmpty then passes d format fuel

/-- Shows arguments as a format asks: the status, and what is shown. -/
def run (d : Dialect) (format : String) (args : List String) : Nat × Shown :=
  let (ended, p) := (ExceptT.run (passes d format.toList (args.length + 1))).run { args := args }
  let warning := match d, ended, p.args with
    | .program utf8 _, .ok (), arg :: _ =>
      [(Channel.err, "warning: ignoring excess arguments, starting with " ++
        Quoting.argument utf8 arg)]
    | _, _, _ => []
  let loss := if p.lost then [(Channel.err, "write error")] else []
  (if p.lost then 1 else p.status, p.shown.reverse ++ warning ++ loss)

end Print

/-- Whether arguments do nothing but ask for help. -/
def asksForHelp (args : List String) : Bool :=
  args = ["--help"] || args = ["--version"]

/-- Shows its arguments as a format asks. -/
def printf : Program := fun s =>
  let args := match s.args with
    | "--" :: rest => rest
    | args => args
  if asksForHelp s.args then ⟨0, [], false⟩
  else match args with
    | [] => s.misuse "missing operand"
    | format :: args =>
      let (status, shown) := Print.run (.program s.utf8 s.isStrict) format args
      ⟨status, shown.map fun (c, text) => if c = .err then s.complaint text else (c, text), false⟩

/-! ## Plain output -/

/-- The options in front of what is to be shown: whether the line is ended, whether escapes are
taken, and the other arguments. -/
def echoOptions (ends escapes : Bool) : List String → Bool × Bool × List String
  | [] => (ends, escapes, [])
  | arg :: rest =>
    match arg.toList with
    | '-' :: c :: cs =>
      if (c :: cs).all (['n', 'e', 'E'].contains ·) then
        let escapes := (c :: cs).foldl (fun b c => if c = 'n' then b else decide (c = 'e')) escapes
        echoOptions (ends && !(c :: cs).contains 'n') escapes rest
      else (ends, escapes, arg :: rest)
    | _ => (ends, escapes, arg :: rest)

/-- A text with the escapes of `echo` taken, and whether output goes on after it. -/
def echoText : (fuel : Nat) → List Char → String × Bool
  | 0, _ => ("", true)
  | _, [] => ("", true)
  | fuel + 1, '\\' :: c :: rest =>
    let go (s : String) (rest : List Char) : String × Bool :=
      let (out, more) := echoText fuel rest
      (s ++ out, more)
    if c = 'c' then ("", false)
    else if c = 'x' && rest.head?.any Real.isHexDigit then
      let (b, rest) := hexByte rest
      go (String.singleton b) rest
    else if isOctal c then
      let (b, rest) := octalByte (if c = '0' then rest else c :: rest)
      go (String.singleton b) rest
    else match (if c = '"' then none else letterEscape? c) with
      | some d => go (String.singleton d) rest
      | none => go (String.ofList ['\\', c]) rest
  | fuel + 1, c :: rest =>
    let (out, more) := echoText fuel rest
    (String.singleton c ++ out, more)

/-- Shows its arguments with blanks between and ends the line, unless an option says otherwise. By
the standard there are no options, but escapes are always taken. -/
def echo : Program := fun s =>
  let hasOptions := !s.isStrict || s.args.head? = some "-n"
  if hasOptions && asksForHelp s.args then ⟨0, [], false⟩
  else
    let (ends, escapes, args) :=
      if hasOptions then echoOptions true false s.args else (true, false, s.args)
    let text := Text.join " " args
    let (out, more) :=
      if escapes || s.isStrict then echoText text.length text.toList else (text, true)
    Start.print (if more && ends then out ++ "\n" else out)

/-- What a shell shows for arguments with blanks between: escapes are taken, and the line is ended
unless the first argument says otherwise. -/
def shellEcho (args : List String) : String :=
  let (args, ending) := match args with
    | "-n" :: rest => (rest, "")
    | args => (args, "\n")
  let text := Text.join " " args
  match unescape .shell text.length text.toList with
  | (out, .stop) => out
  | (out, _) => out ++ ending

end FlowScript.Programs
