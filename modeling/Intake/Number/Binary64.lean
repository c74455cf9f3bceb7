/-!
# Binary64 numbers

A number of the binary64 format is not a number, infinite, or a multiple of `2 ^ (-1074)`. The
multiple is kept exactly, so that numbers are compared with each other and with integers in
integer arithmetic, and rounding takes place only where a quotient is turned into a number.
-/

namespace Intake.Number

/-- A binary64 number. A finite one is `units * 2 ^ (-1074)`, negated when `negative`; zero has a
    sign as well. -/
inductive Binary64 where
  | nan
  | infinite (negative : Bool)
  | finite (negative : Bool) (units : Nat)
  deriving DecidableEq, Repr

namespace Binary64

/-- The number of units in one. -/
def one : Nat := Nat.pow 2 1074

/-- The units from which on a number is infinite. -/
def limit : Nat := Nat.pow 2 2098

/-- The exponent of the last place of a number of this many units: units of 53 bits or fewer end
    in place 0. -/
def lastPlace (units : Nat) : Nat :=
  (units.log2 + 1) - 53

/-- The quotient rounded to the nearest number, a tie going to the even last place. -/
def ofQuotient (negative : Bool) (num den : Nat) : Binary64 :=
  let scaled := num * one
  let place := Nat.pow 2 (lastPlace (scaled / den))
  let q := scaled / (den * place)
  let r := scaled % (den * place)
  let up := decide (den * place < 2 * r) || (2 * r == den * place && q % 2 == 1)
  let units := (if up then q + 1 else q) * place
  if limit ≤ units then .infinite negative else .finite negative units

/-- The decimal `digits * 10 ^ exponent` rounded to the nearest number. Decimals far outside the
    format are settled by their length. -/
def ofDecimal (negative : Bool) (digits : Nat) (exponent : Int) : Binary64 :=
  if digits = 0 then .finite negative 0
  else
    let size := ((toString digits).length : Int) + exponent
    if 400 < size then .infinite negative
    else if size < -400 then .finite negative 0
    else if 0 ≤ exponent then ofQuotient negative (digits * Nat.pow 10 exponent.toNat) 1
    else ofQuotient negative digits (Nat.pow 10 (-exponent).toNat)

/-- The number with the other sign. -/
def negate : Binary64 → Binary64
  | nan => nan
  | infinite negative => infinite !negative
  | finite negative units => finite (!negative) units

/-- The signed units of a finite number. -/
def signedUnits (negative : Bool) (units : Nat) : Int :=
  if negative then -(units : Int) else units

/-- Equality of numbers: the zeros are equal, and what is not a number equals nothing. -/
def equals : Binary64 → Binary64 → Bool
  | finite s m, finite t n => signedUnits s m == signedUnits t n
  | infinite s, infinite t => s == t
  | _, _ => false

/-- The number equals the integer. -/
def equalsInt : Binary64 → Int → Bool
  | finite s m, n => signedUnits s m == n * one
  | _, _ => false

/-- The number is below the integer. -/
def belowInt : Binary64 → Int → Bool
  | finite s m, n => decide (signedUnits s m < n * one)
  | infinite s, _ => s
  | nan, _ => false

/-- The number is above the integer. -/
def aboveInt : Binary64 → Int → Bool
  | finite s m, n => decide (n * one < signedUnits s m)
  | infinite s, _ => !s
  | nan, _ => false

/-- The number is a zero. -/
def isZero : Binary64 → Bool
  | finite _ units => units == 0
  | _ => false

end Binary64

end Intake.Number
