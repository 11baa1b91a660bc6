/-
**Decimal texts as binary64 numbers.**

A finite binary64 number is a whole multiple of `2 ^ (-1074)`, so its magnitude is kept as that
multiple and every operation is exact arithmetic on natural numbers.  A decimal text is read as
the nearest such number, ties going to the even significand, and a number is turned into a 64-bit
integer by rounding half away from zero and saturating.

Main definitions:

* `Binary64.F64` — binary64 numbers;
* `Binary64.nearest` — the number nearest to a decimal;
* `Binary64.parse` — the number a text stands for;
* `Binary64.F64.round`, `Binary64.F64.toI64` — rounding and the saturating cast.
-/

import Mathlib

set_option relaxedAutoImplicit false
set_option autoImplicit false

namespace Binary64

/-- A binary64 number.  The magnitude of a finite one is `units * 2 ^ (-1074)`. -/
inductive F64 where
  | finite (negative : Bool) (units : ℕ)
  | infinite (negative : Bool)
  | nan
  deriving DecidableEq, Repr

/-- How many units make one. -/
def unitsPerOne : ℕ := 2 ^ 1074

/-- The least magnitude that rounds to infinity, in units. -/
def overflowUnits : ℕ := 2 ^ (1024 + 1074)

/-- A decimal: `mantissa * 10 ^ exponent`. -/
structure Decimal where
  mantissa : ℕ
  exponent : ℤ
  deriving DecidableEq, Repr

/-! ### Rounding to binary -/

/-- The whole number nearest to `n / d`, the even one on a tie. -/
def roundHalfEven (n d : ℕ) : ℕ :=
  if 2 * (n % d) < d ∨ (2 * (n % d) = d ∧ n / d % 2 = 0) then n / d else n / d + 1

/-- The binary64 number nearest to `n / d`: a significand of at most 53 bits. -/
def nearestRatio (negative : Bool) (n d : ℕ) : F64 :=
  let scaled := n * unitsPerOne
  let dropped := Nat.log2 (scaled / d) - 52
  let units := roundHalfEven scaled (d * 2 ^ dropped) * 2 ^ dropped
  if units < overflowUnits then .finite negative units else .infinite negative

/-- The binary64 number nearest to a rational one. -/
def F64.ofRat (q : ℚ) : F64 := nearestRatio (decide (q < 0)) q.num.natAbs q.den

def nearest (negative : Bool) (decimal : Decimal) : F64 :=
  if 0 ≤ decimal.exponent then
    nearestRatio negative (decimal.mantissa * 10 ^ decimal.exponent.toNat) 1
  else
    nearestRatio negative decimal.mantissa (10 ^ (-decimal.exponent).toNat)

/-! ### Reading a text -/

def digitsValue (digits : List Char) : ℕ :=
  digits.foldl (fun value digit => 10 * value + (digit.toNat - '0'.toNat)) 0

/-- An optional sign: whether it is a minus, and what follows it. -/
def takeSign : List Char → Bool × List Char
  | '-' :: text => (true, text)
  | '+' :: text => (false, text)
  | text => (false, text)

/-- An exponent without its `e`: an optional sign and at least one digit, up to the end. -/
def parseExponent (text : List Char) : Option ℤ :=
  let (negative, text) := takeSign text
  let (digits, rest) := text.span Char.isDigit
  if digits = [] ∨ rest ≠ [] then none
  else if negative then some (-(digitsValue digits : ℤ))
  else some (digitsValue digits)

/-- An unsigned decimal: digits around an optional point, at least one of them, and an optional
exponent. -/
def parseDecimal (text : List Char) : Option Decimal :=
  let (whole, text) := text.span Char.isDigit
  let (fraction, text) := match text with
    | '.' :: text => text.span Char.isDigit
    | text => ([], text)
  let mantissa := digitsValue (whole ++ fraction)
  if whole = [] ∧ fraction = [] then none
  else match text with
    | [] => some ⟨mantissa, -(fraction.length : ℤ)⟩
    | marker :: text =>
        if marker = 'e' ∨ marker = 'E' then
          (parseExponent text).map fun exponent => ⟨mantissa, exponent - fraction.length⟩
        else none

/-- The names of the values that are not finite, in any case. -/
def parseSpecial (negative : Bool) (text : List Char) : Option F64 :=
  let name := text.map Char.toLower
  if name = "inf".toList ∨ name = "infinity".toList then some (.infinite negative)
  else if name = "nan".toList then some .nan
  else none

/-- The number a text stands for, if it is one. -/
def parse (text : List Char) : Option F64 :=
  let (negative, body) := takeSign text
  match parseDecimal body with
  | some decimal => some (nearest negative decimal)
  | none => parseSpecial negative body

/-! ### To 64-bit integers -/

/-- The nearest whole number, half way cases away from zero. -/
def F64.round : F64 → F64
  | .finite negative units =>
      .finite negative ((units + unitsPerOne / 2) / unitsPerOne * unitsPerOne)
  | .infinite negative => .infinite negative
  | .nan => .nan

def i64Min : ℤ := -2 ^ 63

def i64Max : ℤ := 2 ^ 63 - 1

/-- The cast to a 64-bit integer: towards zero, saturating, and zero for a value that is not a
number. -/
def F64.toI64 : F64 → ℤ
  | .finite negative units =>
      let magnitude : ℤ := (units / unitsPerOne : ℕ)
      max i64Min (min i64Max (if negative then -magnitude else magnitude))
  | .infinite negative => if negative then i64Min else i64Max
  | .nan => 0

example : (parse "2000.00".toList).map (fun value => value.round.toI64) = some 2000 := by
  decide +kernel

example : (parse "-1.5e1".toList).map (fun value => value.round.toI64) = some (-15) := by
  decide +kernel

end Binary64
