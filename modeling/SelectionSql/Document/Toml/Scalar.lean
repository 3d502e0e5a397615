import SelectionSql.Document
import SelectionSql.Document.Numeral
import SelectionSql.Document.Toml.Moment
import SelectionSql.Document.Toml.Quoted
import SelectionSql.Text.Cut

/-!
# TOML scalars - Truth values, numbers and moments

A scalar goes on to the next mark that cannot stand in one.  Numbers are kept by
their literal.  A literal may be well formed and yet stand for no number that can
be used: it is out of range, it has a base but no digits, or it is an integer in
which underscores are followed by something else than decimal digits.

A moment is kept as a record whose only member holds its written form.
-/

namespace SelectionSql.Toml

/-! ## Underscores and signs -/

/-- A text without its underscores, each of which stands between two digits. -/
def withoutUnderscores? (isDigit : Char → Bool) (chars : List Char) : Option (List Char) :=
  let pieces := Text.pieces '_' chars
  let isClosed (piece : List Char) : Bool := piece.getLast?.any isDigit
  let isOpened (piece : List Char) : Bool := piece.head?.any isDigit
  if pieces.dropLast.all isClosed && pieces.tail.all isOpened then some pieces.flatten else none

/-- Whether a text is negative, and the text after its sign. -/
def takeSign : List Char → Bool × List Char
  | '-' :: rest => (true, rest)
  | '+' :: rest => (false, rest)
  | chars => (false, chars)

/-- A text that consists of decimal digits. -/
def decimalDigits? (chars : List Char) : Option (List Char) :=
  if !chars.isEmpty && chars.all Char.isDigit then some chars else none

/-! ## Integers -/

/-- The integer of decimal digits and a sign, which may be left out. -/
def integer? (chars : List Char) : Option Int :=
  let (negative, rest) := takeSign chars
  (decimalDigits? rest).map fun digits =>
    if negative then -(Numeral.ofDigits 10 digits : Int) else Numeral.ofDigits 10 digits

/-- Whether an integer can be used: as a signed or an unsigned one of 128 bits. -/
def isRepresentable (number : Int) : Bool :=
  -Int.ofNat (Nat.pow 2 127) ≤ number && number < Int.ofNat (Nat.pow 2 128)

/-- The document of a number with its literal, which cannot be used if it stands
for no number in range. -/
def numberDocument (literal : List Char) (usable : Bool) : Document :=
  if usable then .number (String.ofList literal) else .unusable

/-- The document of an integer in decimal digits.  Any text may follow an
underscore, but a number is read from decimal digits only. -/
def integerDocument? (chars : List Char) : Option Document :=
  (withoutUnderscores? (Numeral.isDigitOf 16) chars).map fun literal =>
    numberDocument chars ((integer? literal).any isRepresentable)

/-- The document of an integer with the digits after the mark of its base.
There may be none, which stands for no number. -/
def basedDocument? (base : Nat) (chars digits : List Char) : Option Document := do
  let digits ← withoutUnderscores? (Numeral.isDigitOf base) digits
  guard (digits.all (Numeral.isDigitOf base))
  return numberDocument chars (!digits.isEmpty && isRepresentable (Numeral.ofDigits base digits))

/-! ## Decimals -/

/-- The digits of a number before and after its decimal point, if it has one. -/
def pointDigits? (chars : List Char) : Option (List Char × List Char) :=
  match Text.cutFirst '.' chars with
  | some (whole, decimals) => do
      let whole ← decimalDigits? whole
      let decimals ← decimalDigits? decimals
      return (whole, decimals)
  | none => (decimalDigits? chars).map fun whole => (whole, [])

/-- The digits of a decimal number without its sign and the power of ten that
they are counted in. -/
def decimal? (chars : List Char) : Option (List Char × Int) := do
  let (_, rest) := takeSign chars
  let (mantissa, power) ←
    match Text.cutFirst 'e' (rest.map fun c => if c = 'E' then 'e' else c) with
    | some (mantissa, power) => (integer? power).map fun power => (mantissa, power)
    | none => some (rest, 0)
  let (whole, decimals) ← pointDigits? mantissa
  return (whole ++ decimals, power - decimals.length)

/-- The document of a decimal number. -/
def decimalDocument? (chars : List Char) : Option Document := do
  let literal ← withoutUnderscores? Char.isDigit chars
  let (digits, power) ← decimal? literal
  return numberDocument chars (!Numeral.exceedsDouble digits power)

/-! ## Numbers -/

/-- Whether a character ends the whole part of a number. -/
def endsWhole (c : Char) : Bool :=
  c = '.' || c = 'e' || c = 'E'

/-- Whether more follows a zero in the whole part of a number without a sign. -/
def isPadded (chars : List Char) : Bool :=
  chars.head? = some '0' && 1 < (chars.takeWhile (!endsWhole ·)).length

/-- Whether a text without a sign is the name of a number. -/
def isNamed (chars : List Char) : Bool :=
  chars = "inf".toList || chars = "nan".toList

/-- The document of the number that a text stands for.  What follows the leading
digits tells decimals and integers apart. -/
def numberDocument? (chars : List Char) : Option Document :=
  match chars with
  | '0' :: 'x' :: digits => basedDocument? 16 chars digits
  | '0' :: 'o' :: digits => basedDocument? 8 chars digits
  | '0' :: 'b' :: digits => basedDocument? 2 chars digits
  | _ =>
      let unsigned := (takeSign chars).2
      let tail := unsigned.dropWhile Char.isDigit
      if isNamed unsigned then some (numberDocument chars true)
      else if unsigned.isEmpty || isPadded unsigned then none
      else if tail.any endsWhole then decimalDocument? chars
      else if tail.isEmpty || tail.head? = some '_' && !tail.contains ' ' then
        integerDocument? chars
      else none

/-! ## Scalars -/

/-- Whether a character ends a scalar. -/
def endsScalar (c : Char) : Bool :=
  ['=', ',', '[', ']', '\x7b', '\x7d', '#', '\n', '\r'].contains c

/-- Whether a scalar goes on after the space at the head of a text.  It does not
when it ends there or when a string begins. -/
def goesOn (chars : List Char) : Bool :=
  match skipSpace chars with
  | c :: _ => !(endsScalar c || c = '"' || c = '\'')
  | [] => false

/-- The characters of a scalar and what follows them. -/
def scalarChars : List Char → List Char × List Char
  | [] => ([], [])
  | c :: rest =>
      if endsScalar c || isSpace c && !goesOn rest then ([], c :: rest)
      else
        let (token, rest) := scalarChars rest
        (c :: token, rest)

/-- The name of the only member of the record that stands for a moment. -/
def momentMember : String := "$__toml_private_datetime"

/-- The document of a moment. -/
def momentDocument (moment : Moment) : Document :=
  .record [(momentMember, .text (String.ofList moment.text))]

/-- The document that the characters of a scalar stand for. -/
def scalarDocument? (chars : List Char) : Option Document :=
  if chars = "true".toList then some (.bool true)
  else if chars = "false".toList then some (.bool false)
  else (numberDocument? chars).or ((Moment.ofChars? chars).map momentDocument)

/-- A scalar at the head of a text. -/
def scalar (chars : List Char) : Option (Document × List Char) :=
  let (token, rest) := scalarChars chars
  (scalarDocument? token).map (·, rest)

end SelectionSql.Toml
