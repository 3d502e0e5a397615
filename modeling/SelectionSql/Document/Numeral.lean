/-!
# Numerals - Digits and the range of double precision

A decimal numeral is a run of digits and a power of ten.  It stands for a number
of double precision unless it would round to infinity.
-/

namespace SelectionSql.Numeral

/-- The value of a digit in any base up to sixteen. -/
def digitValue? (c : Char) : Option Nat :=
  if '0' ≤ c ∧ c ≤ '9' then some (c.toNat - '0'.toNat)
  else if 'a' ≤ c ∧ c ≤ 'f' then some (c.toNat - 'a'.toNat + 10)
  else if 'A' ≤ c ∧ c ≤ 'F' then some (c.toNat - 'A'.toNat + 10)
  else none

/-- Whether a character is a digit of a base. -/
def isDigitOf (base : Nat) (c : Char) : Bool :=
  match digitValue? c with
  | some value => value < base
  | none => false

/-- The number written by some digits in a base. -/
def ofDigits (base : Nat) (digits : List Char) : Nat :=
  digits.foldl (fun number c => number * base + (digitValue? c).getD 0) 0

/-- The least number that rounds to infinity in double precision: it lies
halfway between the largest double and 2¹⁰²⁴. -/
def doubleLimit : Nat :=
  Nat.pow 2 1024 - Nat.pow 2 970

/-- Whether a run of digits times a power of ten exceeds double precision.
Only numerals near 10³⁰⁸ need the exact comparison. -/
def exceedsDouble (digits : List Char) (exponent : Int) : Bool :=
  let significant := digits.dropWhile (· = '0')
  let magnitude : Int := significant.length + exponent
  if significant.isEmpty then false
  else if magnitude < 300 then false
  else if 320 < magnitude then true
  else
    let number := ofDigits 10 significant
    if 0 ≤ exponent then doubleLimit ≤ number * Nat.pow 10 exponent.toNat
    else doubleLimit * Nat.pow 10 (-exponent).toNat ≤ number

end SelectionSql.Numeral
