import Intake.Text.CharClass
import Intake.Text.Pieces

/-!
# Internet addresses

The texts that denote an address of version 4 or of version 6 of the internet protocol.
-/

namespace Intake.Net

open Intake.Text

/-- The value of a text of ASCII digits. -/
def digitsValue (s : List Char) : Nat :=
  s.foldl (fun n c => n * 10 + (c.toNat - 48)) 0

/-- A number up to 255 in at most three digits, without leading zeros. -/
def isOctet (s : List Char) : Bool :=
  !s.isEmpty && s.all isLatinDigit && s.length ≤ 3 && (s == ['0'] || s.head? != some '0') &&
    digitsValue s ≤ 255

/-- An address of version 4: four octets, separated by points. -/
def isIpv4 (s : List Char) : Bool :=
  let octets := splitAt '.' s
  octets.length == 4 && octets.all isOctet

/-- A hexadecimal digit. -/
def isHexDigit (c : Char) : Bool :=
  isLatinDigit c || ('a' ≤ c && c ≤ 'f') || ('A' ≤ c && c ≤ 'F')

/-- One to four hexadecimal digits. -/
def isHextet (s : List Char) : Bool :=
  !s.isEmpty && s.all isHexDigit && s.length ≤ 4

/-- The parts of a version 6 address, the last two of which may be written as a version 4
    address. -/
def ipv6Parts? (s : List Char) : Option (List (List Char)) :=
  let parts := splitAt ':' s
  let last := parts.getLast?.getD []
  if parts.length < 3 then none
  else if last.contains '.' then
    if isIpv4 last then some (parts.dropLast ++ [['0'], ['0']]) else none
  else some parts

/-- Parts without a gap: exactly eight. -/
def areWholeParts (parts : List (List Char)) : Bool :=
  parts.length == 8 && parts.all isHextet

/-- The parts on one side of the gap. An end of the address that touches the gap leaves one empty
    part. -/
def besideGap (parts : List (List Char)) : List (List Char) :=
  if parts == [[]] then [] else parts

/-- Parts with one gap, which stands for at least one part of zeros. -/
def areGappedParts (parts : List (List Char)) : Bool :=
  let inner := (parts.drop 1).dropLast
  let before := inner.takeWhile (!·.isEmpty)
  let high := besideGap (parts.take 1 ++ before)
  let low := besideGap (parts.drop (before.length + 2))
  (inner.filter (·.isEmpty)).length == 1 && high.all isHextet && low.all isHextet &&
    high.length + low.length ≤ 7

/-- An address of version 6, perhaps with a zone behind a percent sign. -/
def isIpv6 (s : List Char) : Bool :=
  let (address, zone) := cutAt '%' s
  let zoneFits :=
    match zone with
    | none => true
    | some z => !z.isEmpty && !z.contains '%'
  let partsFit :=
    match ipv6Parts? address with
    | none => false
    | some parts => parts.length ≤ 9 && (areWholeParts parts || areGappedParts parts)
  !s.contains '/' && zoneFits && partsFit

end Intake.Net
