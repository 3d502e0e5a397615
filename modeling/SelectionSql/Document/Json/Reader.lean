import SelectionSql.Document
import SelectionSql.Document.Json.Scaled

/-!
# Reading JSON - From text to documents

The grammar is the standard one: only space, tab, line feed and carriage return
may stand between tokens, numbers have no superfluous zeros, and nothing but
such space may follow the value.
-/

namespace SelectionSql.Json

/-! ## Space and literals -/

/-- Whether a character may stand between tokens. -/
def isSpace (c : Char) : Bool :=
  c = ' ' || c = '\t' || c = '\n' || c = '\r'

/-- The text after the space at its head. -/
def skipSpace (chars : List Char) : List Char :=
  chars.dropWhile isSpace

/-- The text after a word at its head. -/
def afterWord? : List Char → List Char → Option (List Char)
  | [], chars => some chars
  | expected :: word, c :: rest => if c = expected then afterWord? word rest else none
  | _ :: _, [] => none

/-! ## Strings -/

/-- One element of a string literal. -/
inductive StringUnit
  | char (c : Char)
  /-- A code unit of sixteen bits, written by an escape. -/
  | code (unit : Nat)

/-- The character that a short escape stands for. -/
def shortEscape? (c : Char) : Option Char :=
  if c = '"' ∨ c = '\\' ∨ c = '/' then some c
  else if c = 'b' then some '\x08'
  else if c = 't' then some '\t'
  else if c = 'n' then some '\n'
  else if c = 'f' then some '\x0c'
  else if c = 'r' then some '\r'
  else none

/-- The number written by four hexadecimal digits. -/
def codeUnit? (digits : List Char) : Option Nat :=
  if digits.all (Numeral.isDigitOf 16) then some (Numeral.ofDigits 16 digits) else none

/-- The elements of a string literal up to its closing quote, with the text
after it. -/
def stringUnits : List Char → Option (List StringUnit × List Char)
  | [] => none
  | c :: rest =>
      if c = '"' then some ([], rest)
      else if c < ' ' then none
      else if c = '\\' then
        match rest with
        | 'u' :: d₁ :: d₂ :: d₃ :: d₄ :: rest => do
            let unit ← codeUnit? [d₁, d₂, d₃, d₄]
            let (units, rest) ← stringUnits rest
            return (.code unit :: units, rest)
        | escape :: rest => do
            let c ← shortEscape? escape
            let (units, rest) ← stringUnits rest
            return (.char c :: units, rest)
        | [] => none
      else do
        let (units, rest) ← stringUnits rest
        return (.char c :: units, rest)

/-- The characters of a string literal.  Two surrogates make one character; a
surrogate on its own makes none. -/
def charsOfUnits : List StringUnit → Option (List Char)
  | [] => some []
  | .char c :: units => (charsOfUnits units).map (c :: ·)
  | .code unit :: units =>
      if unit < 0xD800 ∨ 0xE000 ≤ unit then (charsOfUnits units).map (Char.ofNat unit :: ·)
      else if unit < 0xDC00 then
        match units with
        | .code low :: units =>
            if 0xDC00 ≤ low ∧ low < 0xE000 then
              (charsOfUnits units).map
                (Char.ofNat (0x10000 + (unit - 0xD800) * 0x400 + (low - 0xDC00)) :: ·)
            else none
        | _ => none
      else none

/-- A string literal after its opening quote: its text, if it has one, and what
follows it. -/
def stringLiteral (chars : List Char) : Option (Option String × List Char) :=
  (stringUnits chars).map fun read => ((charsOfUnits read.1).map String.ofList, read.2)

/-! ## Numbers -/

/-- The digits after a decimal point, if there is one. -/
def fraction : List Char → Option (List Char × List Char)
  | '.' :: rest =>
      let digits := rest.takeWhile Char.isDigit
      if digits.isEmpty then none else some (digits, rest.dropWhile Char.isDigit)
  | chars => some ([], chars)

/-- The digits of an unsigned exponent. -/
def exponentDigits (chars : List Char) : Option (Nat × List Char) :=
  let digits := chars.takeWhile Char.isDigit
  if digits.isEmpty then none
  else some (Numeral.ofDigits 10 digits, chars.dropWhile Char.isDigit)

/-- The exponent of a number, if there is one. -/
def exponent : List Char → Option (Option Int × List Char)
  | [] => some (none, [])
  | c :: rest =>
      if c = 'e' ∨ c = 'E' then
        match rest with
        | '-' :: rest =>
            (exponentDigits rest).map fun read => (some (-(read.1 : Int)), read.2)
        | '+' :: rest => (exponentDigits rest).map fun read => (some (read.1 : Int), read.2)
        | _ => (exponentDigits rest).map fun read => (some (read.1 : Int), read.2)
      else some (none, c :: rest)

/-- A number without its sign.  Digits alone make a whole number as long as it
is positive and below 2⁶⁴. -/
def unsignedNumber (negative : Bool) (chars : List Char) : Option (Document × List Char) := do
  let whole := chars.takeWhile Char.isDigit
  if whole.isEmpty || (whole.head? = some '0' && whole.length ≠ 1) then none
  let (decimals, afterDecimals) ← fraction (chars.dropWhile Char.isDigit)
  let (power, rest) ← exponent afterDecimals
  let number := Numeral.ofDigits 10 whole
  let literal := String.ofList (chars.take (chars.length - rest.length))
  if !negative && decimals.isEmpty && power.isNone && number < Nat.pow 2 64 then
    return (.nat number, rest)
  else if (Scaled.gather whole decimals (power.getD 0)).inRange then
    return (.number (if negative then "-" ++ literal else literal), rest)
  else return (.unusable, rest)

/-- A number. -/
def number : List Char → Option (Document × List Char)
  | '-' :: rest => unsignedNumber true rest
  | chars => unsignedNumber false chars

/-! ## Values -/

/-- A record of some members, of which each must have a name of its own text. -/
def recordOf (members : List (Option String × Document)) : Document :=
  match members.mapM fun member => member.1.map fun name => (name, member.2) with
  | some members => .record members
  | none => .unusable

mutual

/-- A value and what follows it.  Every call costs fuel. -/
def value : Nat → List Char → Option (Document × List Char)
  | 0, _ => none
  | fuel + 1, chars =>
      match skipSpace chars with
      | [] => none
      | c :: rest =>
          if c = '"' then
            (stringLiteral rest).map fun read => (read.1.elim .unusable .text, read.2)
          else if c = '[' then
            match skipSpace rest with
            | ']' :: rest => some (.list [], rest)
            | rest => (items fuel rest).map fun read => (.list read.1, read.2)
          else if c = '\x7b' then
            match skipSpace rest with
            | '\x7d' :: rest => some (.record [], rest)
            | rest => (members fuel rest).map fun read => (recordOf read.1, read.2)
          else if c = 'n' then (afterWord? "ull".toList rest).map fun rest => (.null, rest)
          else if c = 't' then (afterWord? "rue".toList rest).map fun rest => (.bool true, rest)
          else if c = 'f' then (afterWord? "alse".toList rest).map fun rest => (.bool false, rest)
          else number (c :: rest)

/-- One item or more, up to the bracket that closes them. -/
def items : Nat → List Char → Option (List Document × List Char)
  | 0, _ => none
  | fuel + 1, chars => do
      let (item, rest) ← value fuel chars
      match skipSpace rest with
      | ',' :: rest => (items fuel rest).map fun read => (item :: read.1, read.2)
      | ']' :: rest => some ([item], rest)
      | _ => none

/-- One member or more, up to the brace that closes them. -/
def members : Nat → List Char → Option (List (Option String × Document) × List Char)
  | 0, _ => none
  | fuel + 1, chars =>
      match skipSpace chars with
      | '"' :: rest => do
          let (name, rest) ← stringLiteral rest
          match skipSpace rest with
          | ':' :: rest => do
              let (item, rest) ← value fuel rest
              match skipSpace rest with
              | ',' :: rest => (members fuel rest).map fun read => ((name, item) :: read.1, read.2)
              | '\x7d' :: rest => some ([(name, item)], rest)
              | _ => none
          | _ => none
      | _ => none

end

/-- The document that a JSON text holds.  A value takes at least a character for
every two calls, which bounds the fuel. -/
def read (text : String) : Option Document :=
  let chars := text.toList
  match value (2 * chars.length + 2) chars with
  | some (document, rest) => if (skipSpace rest).isEmpty then some document else none
  | none => none

end SelectionSql.Json
