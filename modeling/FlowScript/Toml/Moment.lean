/-!
# Moments

Dates, times of day, and both together, with the distance from universal time. A moment has one
usual way to be written (`Moment.text`), whatever it was read from.
-/

namespace FlowScript.Toml

/-! ## Parts -/

/-- A day of the calendar. -/
structure Date where
  year : Nat
  month : Nat
  day : Nat
deriving DecidableEq

/-- A time of day. -/
structure Clock where
  hour : Nat
  minute : Nat
  second : Nat
  /-- The digits of the part of a second, up to billionths. -/
  fraction : List Char
deriving DecidableEq

/-- The distance from universal time. -/
inductive Offset where
  | universal
  | shifted (west : Bool) (hours minutes : Nat)
deriving DecidableEq

/-- A date, a time of day, or both. -/
structure Moment where
  date : Option Date
  clock : Option Clock
  offset : Option Offset
deriving DecidableEq

/-! ## Writing -/

/-- A number in decimal digits, with zeros in front up to a width. -/
def padded (width n : Nat) : List Char :=
  let ds := Nat.toDigits 10 n
  List.replicate (width - ds.length) '0' ++ ds

/-- A date as it is written. -/
def Date.text (d : Date) : List Char :=
  padded 4 d.year ++ '-' :: padded 2 d.month ++ '-' :: padded 2 d.day

/-- Digits without the zeros at their end. -/
def dropZeros (ds : List Char) : List Char :=
  (ds.reverse.dropWhile (· == '0')).reverse

/-- A time of day as it is written: always with seconds, and without needless digits after them. -/
def Clock.text (c : Clock) : List Char :=
  let fraction := dropZeros (c.fraction.take 9)
  padded 2 c.hour ++ ':' :: padded 2 c.minute ++ ':' :: padded 2 c.second ++
    (if fraction.isEmpty then [] else '.' :: fraction)

/-- A distance as it is written. No distance has no direction. -/
def Offset.text : Offset → List Char
  | .universal => ['Z']
  | .shifted west hours minutes =>
    (if west && (hours ≠ 0 || minutes ≠ 0) then '-' else '+') ::
      padded 2 hours ++ ':' :: padded 2 minutes

/-- A moment as it is usually written. -/
def Moment.text (m : Moment) : String :=
  let between := if m.date.isSome && m.clock.isSome then ['T'] else []
  String.ofList ((m.date.map Date.text).getD [] ++ between ++ (m.clock.map Clock.text).getD [] ++
    (m.offset.map Offset.text).getD [])

/-! ## Reading -/

/-- Takes a number of exactly `n` digits. -/
def takeDigits? (n : Nat) (cs : List Char) : Option (Nat × List Char) :=
  let ds := cs.take n
  if ds.length = n && ds.all Char.isDigit then
    some (ds.foldl (fun n c => 10 * n + (c.toNat - 48)) 0, cs.drop n)
  else none

/-- Takes one given character. -/
def takeChar? (c : Char) : List Char → Option (List Char)
  | [] => none
  | d :: rest => if d = c then some rest else none

/-- The number of days of a month. -/
def daysIn (year month : Nat) : Nat :=
  if month = 2 then
    if year % 4 = 0 && (year % 100 ≠ 0 || year % 400 = 0) then 29 else 28
  else if [4, 6, 9, 11].contains month then 30
  else 31

/-- Takes a date from the front of a text. -/
def takeDate? (cs : List Char) : Option (Date × List Char) := do
  let (year, cs) ← takeDigits? 4 cs
  let cs ← takeChar? '-' cs
  let (month, cs) ← takeDigits? 2 cs
  let cs ← takeChar? '-' cs
  let (day, cs) ← takeDigits? 2 cs
  if 1 ≤ month && month ≤ 12 && 1 ≤ day && day ≤ daysIn year month then
    some (⟨year, month, day⟩, cs)
  else none

/-- Takes hours and minutes. -/
def takeMinutes? (cs : List Char) : Option ((Nat × Nat) × List Char) := do
  let (hour, cs) ← takeDigits? 2 cs
  let cs ← takeChar? ':' cs
  let (minute, cs) ← takeDigits? 2 cs
  if hour ≤ 23 && minute ≤ 59 then some ((hour, minute), cs) else none

/-- Takes a time of day; seconds and parts of a second may be missing. A minute may have one second
more than sixty. -/
def takeClock? (cs : List Char) : Option (Clock × List Char) := do
  let ((hour, minute), cs) ← takeMinutes? cs
  match takeChar? ':' cs with
  | none => some (⟨hour, minute, 0, []⟩, cs)
  | some cs =>
    let (second, cs) ← takeDigits? 2 cs
    if second > 60 then none
    else match takeChar? '.' cs with
      | none => some (⟨hour, minute, second, []⟩, cs)
      | some cs =>
        let ds := cs.takeWhile Char.isDigit
        if ds.isEmpty then none
        else some (⟨hour, minute, second, ds⟩, cs.dropWhile Char.isDigit)

/-- The distance from universal time that is all of a text; an empty text gives none. -/
def offset? : List Char → Option (Option Offset)
  | [] => some none
  | c :: rest =>
    if c = 'Z' || c = 'z' then if rest.isEmpty then some (some .universal) else none
    else if c = '+' || c = '-' then
      match takeMinutes? rest with
      | some ((hours, minutes), []) => some (some (.shifted (c = '-') hours minutes))
      | _ => none
    else none

/-- The moment that a text writes. -/
def moment? (cs : List Char) : Option Moment :=
  match takeDate? cs with
  | none =>
    match takeClock? cs with
    | some (clock, []) => some ⟨none, some clock, none⟩
    | _ => none
  | some (date, []) => some ⟨some date, none, none⟩
  | some (date, c :: rest) =>
    if [' ', 'T', 't'].contains c then do
      let (clock, rest) ← takeClock? rest
      let offset ← offset? rest
      some ⟨some date, some clock, offset⟩
    else none

end FlowScript.Toml
