import Intake.Number.Binary64

/-!
# Shortest decimals

The text of a binary64 number: the fewest digits that round back to it and, of those, the nearest.
Numbers from `1e-4` to below `1e16` are written positionally with at least one place, others with
an exponent of at least two digits.
-/

namespace Intake.Number

/-- Digits `d` and an exponent: the decimal `d * 10 ^ exponent`. -/
structure Decimal where
  digits : Nat
  exponent : Int
  deriving DecidableEq, Repr

namespace Binary64

/-- The interval of a positive number in quarter units: what lies strictly inside rounds to it, and
    the ends do so when `closed`. -/
structure Interval where
  low : Nat
  high : Nat
  closed : Bool

/-- The interval of decimals that round to the number of so many units. Below a power of two the
    numbers lie twice as close. -/
def interval (units : Nat) : Interval :=
  let place := Nat.pow 2 (lastPlace units)
  let m := units / place
  let below := if m == Nat.pow 2 52 && 1 < place then place else 2 * place
  ⟨4 * units - below, 4 * units + 2 * place, m % 2 == 0⟩

/-- Digits on a grid compared with quarter units: both sides scaled to integers. -/
def gridSides (d : Decimal) (quarters : Nat) : Nat × Nat :=
  if 0 ≤ d.exponent then (d.digits * Nat.pow 10 d.exponent.toNat * (4 * one), quarters)
  else (d.digits * (4 * one), quarters * Nat.pow 10 (-d.exponent).toNat)

/-- The decimal lies in the interval. -/
def Interval.contains (i : Interval) (d : Decimal) : Bool :=
  let l := gridSides d i.low
  let h := gridSides d i.high
  (decide (l.2 < l.1) && decide (h.1 < h.2)) || (i.closed && (l.1 == l.2 || h.1 == h.2))

/-- The exponent of the first digit of a positive number. -/
def leadingExponent (units : Nat) : Int :=
  if one ≤ units then ((toString (units / one)).length : Int) - 1
  else
    -((((List.range 400).find? fun j =>
      decide (one ≤ units * Nat.pow 10 j)).getD 400 : Nat) : Int)

/-- The digits of the last decimal on the grid of the exponent that does not exceed the number. -/
def gridFloor (units : Nat) (exponent : Int) : Nat :=
  if 0 ≤ exponent then units / (one * Nat.pow 10 exponent.toNat)
  else units * Nat.pow 10 (-exponent).toNat / one

/-- The decimal with so many digits that rounds to the number, the nearer of two. -/
def onGrid? (units count : Nat) : Option Decimal :=
  let exponent := leadingExponent units - (count : Int) + 1
  let below : Decimal := ⟨gridFloor units exponent, exponent⟩
  let above : Decimal := ⟨gridFloor units exponent + 1, exponent⟩
  let i := interval units
  match i.contains below, i.contains above with
  | true, true =>
    let b := gridSides below (4 * units)
    let a := gridSides above (4 * units)
    some (if a.1 - a.2 < b.2 - b.1 then above else below)
  | true, false => some below
  | false, true => some above
  | false, false => none

/-- The shortest decimal that rounds to a positive number. -/
def shortest (units : Nat) : Decimal :=
  ((List.range 17).findSome? fun n => onGrid? units (n + 1)).getD ⟨units, -1074⟩

/-- The digits without the zeros they end in. -/
def dropZeros (digits : List Char) : List Char :=
  (digits.reverse.dropWhile (· == '0')).reverse

/-- The exponent after the mark `e`: a sign and at least two digits. -/
def exponentText (e : Int) : String :=
  let digits := toString e.natAbs
  (if e < 0 then "e-" else "e+") ++ (if digits.length < 2 then "0" ++ digits else digits)

/-- The text of digits whose first one has the weight `10 ^ e`. -/
def layOut (digits : List Char) (e : Int) : String :=
  if -4 ≤ e && e < 16 then
    if e < 0 then
      "0." ++ String.ofList (List.replicate ((-e).toNat - 1) '0' ++ digits)
    else
      let whole := e.toNat + 1
      let padded := digits ++ List.replicate (whole - digits.length) '0'
      let places := padded.drop whole
      String.ofList (padded.take whole) ++ "." ++
        (if places.isEmpty then "0" else String.ofList places)
  else
    match digits with
    | [] => "0"
    | d :: rest =>
      String.ofList (if rest.isEmpty then [d] else d :: '.' :: rest) ++ exponentText e

/-- The text of a number. -/
def text : Binary64 → String
  | nan => "nan"
  | infinite negative => if negative then "-inf" else "inf"
  | finite negative units =>
    let magnitude :=
      if units = 0 then "0.0"
      else
        let d := shortest units
        let digits := (toString d.digits).toList
        layOut (dropZeros digits) (d.exponent + (digits.length : Int) - 1)
    if negative then "-" ++ magnitude else magnitude

end Binary64

end Intake.Number
