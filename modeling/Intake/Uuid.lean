import Intake.Number.Reading
import Intake.Text.Pieces

/-!
# Universally unique identifiers

An identifier is a number of 128 bits. It is written in five groups of hexadecimal digits and read
with or without hyphens, braces and the marks `urn:` and `uuid:`.
-/

namespace Intake

open Intake.Text

/-- A universally unique identifier. -/
structure Uuid where
  bits : Nat
  deriving DecidableEq, Repr

namespace Uuid

/-- The digits in groups of 8, 4, 4, 4 and 12. -/
def text (u : Uuid) : String :=
  let digits := hexPlaces 32 u.bits
  let group := fun (start count : Nat) => String.ofList ((digits.drop start).take count)
  "-".intercalate [group 0 8, group 8 4, group 12 4, group 16 4, group 20 12]

/-- The named form. -/
def form (u : Uuid) : String :=
  "UUID('" ++ u.text ++ "')"

/-- The text without the braces at its ends. -/
def dropBraces (s : List Char) : List Char :=
  let isBrace := fun c => c == '{' || c == '}'
  ((s.dropWhile isBrace).reverse.dropWhile isBrace).reverse

/-- The identifier a text denotes: after marks, braces and hyphens are taken away, 32 characters
    that are read as an integer in base 16. -/
def read? (s : List Char) : Option Uuid :=
  let unmarked := exchange "uuid:".toList [] (exchange "urn:".toList [] s)
  let digits := (dropBraces unmarked).filter (· != '-')
  if digits.length = 32 then
    match Number.readInt 16 digits with
    | .ok n => if 0 ≤ n && n.toNat < Nat.pow 2 128 then some ⟨n.toNat⟩ else none
    | .error _ => none
  else none

end Uuid

end Intake
