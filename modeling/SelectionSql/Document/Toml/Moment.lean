import SelectionSql.Document.Numeral

/-!
# TOML moments - Dates and times

A moment is a date, a time, or both; with both it may say how far the clock is
ahead of universal time.  Seconds may be left out, and only seconds can have a
fraction.  Every moment is written in one form, with its seconds.
-/

namespace SelectionSql.Toml

/-! ## Fixed numbers -/

/-- A number of exactly as many digits as given, and what follows it. -/
def fixedNumber? (width : Nat) (chars : List Char) : Option (Nat × List Char) :=
  let digits := chars.take width
  if digits.length = width ∧ digits.all Char.isDigit then
    some (Numeral.ofDigits 10 digits, chars.drop width)
  else none

/-- The last digits of a number, as many as given. -/
def fixedDigits : Nat → Nat → List Char
  | 0, _ => []
  | width + 1, number => fixedDigits width (number / 10) ++ [Nat.digitChar (number % 10)]

/-- The text after a character at its head. -/
def afterChar? (expected : Char) : List Char → Option (List Char)
  | c :: rest => if c = expected then some rest else none
  | [] => none

/-! ## Dates -/

/-- A day of the calendar. -/
structure Date where
  year : Nat
  month : Nat
  day : Nat
  deriving DecidableEq

/-- The number of days of a month. -/
def daysOfMonth (year month : Nat) : Nat :=
  if month = 2 then
    if year % 4 = 0 ∧ (year % 100 ≠ 0 ∨ year % 400 = 0) then 29 else 28
  else if month = 4 ∨ month = 6 ∨ month = 9 ∨ month = 11 then 30
  else 31

namespace Date

/-- A date at the head of a text. -/
def take? (chars : List Char) : Option (Date × List Char) := do
  let (year, rest) ← fixedNumber? 4 chars
  let (month, rest) ← (afterChar? '-' rest).bind (fixedNumber? 2)
  let (day, rest) ← (afterChar? '-' rest).bind (fixedNumber? 2)
  if 1 ≤ month ∧ month ≤ 12 ∧ 1 ≤ day ∧ day ≤ daysOfMonth year month then
    return (⟨year, month, day⟩, rest)
  else none

/-- The written form of a date. -/
def text (date : Date) : List Char :=
  fixedDigits 4 date.year ++ '-' :: fixedDigits 2 date.month ++ '-' :: fixedDigits 2 date.day

end Date

/-! ## Times -/

/-- A time of the day. -/
structure Clock where
  hour : Nat
  minute : Nat
  /-- The second of the minute, which may be a leap second. -/
  second : Nat
  /-- The digits of the fraction of the second, of which the last is no zero. -/
  fraction : List Char
  deriving DecidableEq

namespace Clock

/-- The digits of a fraction down to a billionth, without zeros at the end. -/
def significant (digits : List Char) : List Char :=
  ((digits.take 9).reverse.dropWhile (· = '0')).reverse

/-- A fraction at the head of a text, if it begins with a point. -/
def takeFraction? : List Char → Option (List Char × List Char)
  | '.' :: rest =>
      let digits := rest.takeWhile Char.isDigit
      if digits.isEmpty then none
      else some (significant digits, rest.dropWhile Char.isDigit)
  | chars => some ([], chars)

/-- A second with its fraction at the head of a text, if it begins with a
colon. -/
def takeSecond? : List Char → Option (Nat × List Char × List Char)
  | ':' :: rest => do
      let (second, rest) ← fixedNumber? 2 rest
      let (fraction, rest) ← takeFraction? rest
      return (second, fraction, rest)
  | chars => some (0, [], chars)

/-- A time at the head of a text. -/
def take? (chars : List Char) : Option (Clock × List Char) := do
  let (hour, rest) ← fixedNumber? 2 chars
  let (minute, rest) ← (afterChar? ':' rest).bind (fixedNumber? 2)
  let (second, fraction, rest) ← takeSecond? rest
  if hour ≤ 23 ∧ minute ≤ 59 ∧ second ≤ 60 then
    return (⟨hour, minute, second, fraction⟩, rest)
  else none

/-- The written form of a time. -/
def text (clock : Clock) : List Char :=
  fixedDigits 2 clock.hour ++ ':' :: fixedDigits 2 clock.minute ++ ':' ::
    fixedDigits 2 clock.second ++ (if clock.fraction.isEmpty then [] else '.' :: clock.fraction)

end Clock

/-! ## Offsets -/

/-- How far a clock is from universal time. -/
inductive Offset
  | universal
  | ahead (hours minutes : Nat)
  | behind (hours minutes : Nat)
  deriving DecidableEq

namespace Offset

/-- The offset of a signed distance. -/
def ofDistance (negative : Bool) (hours minutes : Nat) : Offset :=
  if negative ∧ (hours ≠ 0 ∨ minutes ≠ 0) then behind hours minutes else ahead hours minutes

/-- The offset of a distance without its sign. -/
def distance? (negative : Bool) (chars : List Char) : Option Offset := do
  let (hours, rest) ← fixedNumber? 2 chars
  let (minutes, rest) ← (afterChar? ':' rest).bind (fixedNumber? 2)
  if hours ≤ 23 ∧ minutes ≤ 59 ∧ rest.isEmpty then return ofDistance negative hours minutes
  else none

/-- The offset that a text stands for. -/
def ofChars? : List Char → Option Offset
  | ['Z'] => some universal
  | ['z'] => some universal
  | '+' :: rest => distance? false rest
  | '-' :: rest => distance? true rest
  | _ => none

/-- The written form of an offset. -/
def text : Offset → List Char
  | universal => ['Z']
  | ahead hours minutes => '+' :: fixedDigits 2 hours ++ ':' :: fixedDigits 2 minutes
  | behind hours minutes => '-' :: fixedDigits 2 hours ++ ':' :: fixedDigits 2 minutes

end Offset

/-! ## Moments -/

/-- A date, a time, or both. -/
inductive Moment
  | date (day : Date)
  | time (clock : Clock)
  | both (day : Date) (clock : Clock) (offset : Option Offset)
  deriving DecidableEq

namespace Moment

/-- Whether a character may stand between a date and a time. -/
def isSeparator (c : Char) : Bool :=
  c = 'T' || c = 't' || c = ' '

/-- The moment of a date and the text of a time. -/
def ofTime? (day : Date) (chars : List Char) : Option Moment :=
  match Clock.take? chars with
  | some (clock, []) => some (both day clock none)
  | some (clock, rest) => (Offset.ofChars? rest).map fun offset => both day clock (some offset)
  | none => none

/-- The moment that a text stands for. -/
def ofChars? (chars : List Char) : Option Moment :=
  match Date.take? chars with
  | some (day, []) => some (date day)
  | some (day, separator :: rest) => if isSeparator separator then ofTime? day rest else none
  | none =>
      match Clock.take? chars with
      | some (clock, []) => some (time clock)
      | _ => none

/-- Whether a text is a date alone. -/
def isDate (chars : List Char) : Bool :=
  match ofChars? chars with
  | some (date _) => true
  | _ => false

/-- The written form of a moment. -/
def text : Moment → List Char
  | date day => day.text
  | time clock => clock.text
  | both day clock offset => day.text ++ 'T' :: clock.text ++ (offset.map Offset.text).getD []

end Moment

end SelectionSql.Toml
