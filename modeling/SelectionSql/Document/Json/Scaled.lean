import SelectionSql.Document.Numeral

/-!
# Scaled numbers - The range of numbers gathered digit by digit

A number is gathered as a significand of 64 bits and a power of ten.  Digits that
no longer fit the significand are dropped, of which those before the decimal
point still count as powers of ten.  Significand and power are then rounded to
double precision one by one, and their product must not round to infinity.
-/

namespace SelectionSql.Json

/-! ## Rounding -/

/-- The nearest number of at most 53 binary digits and any number of zeros; of
two that are equally near the even one. -/
def roundDouble (number : Nat) : Nat :=
  let unit := Nat.pow 2 (number.log2 + 1 - 53)
  let kept := number / unit
  let dropped := number % unit
  if unit < 2 * dropped ∨ unit = 2 * dropped ∧ kept % 2 = 1 then (kept + 1) * unit
  else kept * unit

/-! ## Gathering digits -/

/-- A whole number times a power of ten. -/
structure Scaled where
  /-- The digits that fit 64 bits. -/
  significand : Nat
  exponent : Int
  deriving DecidableEq

namespace Scaled

/-- Whether a number fits the significand. -/
def fits (number : Nat) : Bool :=
  number < Nat.pow 2 64

/-- A significand with one more digit. -/
def extend (significand : Nat) (digit : Char) : Nat :=
  significand * 10 + (Numeral.digitValue? digit).getD 0

/-- The number of the digits before the decimal point, where some are gathered
already. -/
def ofWhole (significand : Nat) : List Char → Scaled
  | [] => ⟨significand, 0⟩
  | digit :: rest =>
      if fits (extend significand digit) then ofWhole (extend significand digit) rest
      else ⟨significand, rest.length + 1⟩

/-- A number with the digits after the decimal point. -/
def withDecimals (scaled : Scaled) : List Char → Scaled
  | [] => scaled
  | digit :: rest =>
      if fits (extend scaled.significand digit) then
        withDecimals ⟨extend scaled.significand digit, scaled.exponent - 1⟩ rest
      else scaled

/-- A number gathered from the digits before and after its decimal point and its
exponent. -/
def gather (whole decimals : List Char) (power : Int) : Scaled :=
  let scaled := (ofWhole 0 whole).withDecimals decimals
  ⟨scaled.significand, scaled.exponent + power⟩

/-! ## The range -/

/-- The greatest power of ten in double precision. -/
def powerLimit : Int := 308

/-- Whether a number stays finite in double precision. -/
def inRange (scaled : Scaled) : Bool :=
  if scaled.significand = 0 ∨ scaled.exponent < 0 then true
  else if powerLimit < scaled.exponent then false
  else
    roundDouble scaled.significand * roundDouble (Nat.pow 10 scaled.exponent.toNat) <
      Numeral.doubleLimit

end Scaled

end SelectionSql.Json
