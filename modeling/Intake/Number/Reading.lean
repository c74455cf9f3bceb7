import Intake.Number.Binary64
import Intake.Text.Blank
import Intake.Text.Digit
import Intake.Text.Quoted

/-!
# Reading numbers

The texts that are read as integers and as binary64 numbers. Digits may be those of any script, a
single underscore may stand between two digits, and blanks around the number are passed over.

An integer in decimal notation has at most `digitLimit` digits, on the way in and on the way out.
-/

namespace Intake.Number

open Intake.Text

/-- The longest decimal notation of an integer that is read or written. -/
def digitLimit : Nat := 4300

/-- Why a text is not read as an integer. -/
inductive IntMisread where
  | invalid (base : Nat) (text : List Char)
  | tooManyDigits (count : Nat)
  deriving DecidableEq

/-- Why an integer is not written in decimal notation, or not read from it. -/
def limitText : String :=
  "Exceeds the limit (4300 digits) for integer string conversion"

/-- What to do about the limit. -/
def limitAdvice : String :=
  "; use sys.set_int_max_str_digits() to increase the limit"

namespace IntMisread

/-- The message of a misread integer. The text is shown by the first 200 characters of its quoted
    form. -/
def message : IntMisread → String
  | invalid base text =>
    "invalid literal for int() with base " ++ toString base ++ ": " ++
      String.ofList ((quoted text).take 200)
  | tooManyDigits count =>
    limitText ++ ": value has " ++ toString count ++ " digits" ++ limitAdvice

end IntMisread

/-- A blank around a number: the information separators of ASCII are none. -/
def isNumberBlank (c : Char) : Bool :=
  isBlank c && !(0x1C ≤ c.toNat && c.toNat ≤ 0x1F)

/-- A character of a number in its ASCII form: blanks become spaces and digits lose their script.
    Other characters beyond ASCII become a mark that no number holds. -/
def numberChar (c : Char) : Char :=
  if c.toNat < 127 then c
  else if isBlank c then ' '
  else match digitValue? c with
    | some d => Char.ofNat (48 + d)
    | none => '?'

/-- The value of an ASCII digit of the base. -/
def baseDigit? (base : Nat) (c : Char) : Option Nat :=
  let value? :=
    if '0' ≤ c && c ≤ '9' then some (c.toNat - 48)
    else if 'a' ≤ c && c ≤ 'z' then some (c.toNat - 87)
    else if 'A' ≤ c && c ≤ 'Z' then some (c.toNat - 55)
    else none
  value?.filter (· < base)

/-- What a text of digits begins with: the digits read, most significant first, and the rest. A
    single underscore may stand between two digits. -/
def takeDigits (base : Nat) : List Char → List Nat × List Char
  | [] => ([], [])
  | '_' :: c :: rest =>
    match baseDigit? base c with
    | some d => let (ds, r) := takeDigits base rest; (d :: ds, r)
    | none => ([], '_' :: c :: rest)
  | c :: rest =>
    match baseDigit? base c with
    | some d => let (ds, r) := takeDigits base rest; (d :: ds, r)
    | none => ([], c :: rest)

/-- The number written by digits of the base, most significant first. -/
def ofDigits (base : Nat) (digits : List Nat) : Nat :=
  digits.foldl (fun n d => n * base + d) 0

/-- The text without a sign, and whether the sign is negative. -/
def takeSign : List Char → Bool × List Char
  | '-' :: rest => (true, rest)
  | '+' :: rest => (false, rest)
  | s => (false, s)

/-- The digits of base 16 may follow `0x` and one underscore. -/
def dropBaseMark (base : Nat) (s : List Char) : List Char :=
  if base = 16 then
    match s with
    | '0' :: x :: '_' :: rest => if x == 'x' || x == 'X' then rest else s
    | '0' :: x :: rest => if x == 'x' || x == 'X' then rest else s
    | _ => s
  else s

/-- The integer a text in base 10 or 16 denotes. -/
def readInt (base : Nat) (text : List Char) : Except IntMisread Int :=
  let (negative, unsigned) := takeSign ((text.map numberChar).dropWhile isNumberBlank)
  let unmarked := dropBaseMark base unsigned
  match unmarked with
  | '_' :: _ => .error (.invalid base text)
  | _ =>
    let (digits, rest) := takeDigits base unmarked
    if digits.isEmpty then .error (.invalid base text)
    else if base = 10 && digitLimit < digits.length then .error (.tooManyDigits digits.length)
    else if rest.all isNumberBlank then
      let n : Int := ofDigits base digits
      .ok (if negative then -n else n)
    else .error (.invalid base text)

/-- The integer is longer than the decimal notation allows. -/
def isTooLong (n : Int) : Bool :=
  decide (Nat.pow 10 digitLimit ≤ n.natAbs)

/-- Every underscore stands between two digits; `afterDigit` tells what precedes the text. -/
def underscoresFit (afterDigit : Bool) : List Char → Bool
  | [] => true
  | '_' :: c :: rest => afterDigit && isLatinDigit c && underscoresFit true rest
  | ['_'] => false
  | c :: rest => underscoresFit (isLatinDigit c) rest

/-- The exponent after the mark `e`: the whole text has to be a sign and digits. -/
def readExponent? (s : List Char) : Option Int :=
  let (negative, digits) := takeSign s
  if digits.isEmpty || !digits.all isLatinDigit then none
  else
    let n : Int := ofDigits 10 (digits.map (·.toNat - 48))
    some (if negative then -n else n)

/-- The number of an unsigned decimal text: digits with at most one point and an exponent. -/
def readDecimal? (negative : Bool) (s : List Char) : Option Binary64 :=
  let whole := s.takeWhile isLatinDigit
  let afterWhole := s.dropWhile isLatinDigit
  let (places, afterPlaces) :=
    match afterWhole with
    | '.' :: rest => (rest.takeWhile isLatinDigit, rest.dropWhile isLatinDigit)
    | rest => ([], rest)
  let exponent? :=
    match afterPlaces with
    | [] => some 0
    | c :: rest => if c == 'e' || c == 'E' then readExponent? rest else none
  if whole.isEmpty && places.isEmpty then none
  else exponent?.map fun e =>
    Binary64.ofDecimal negative (ofDigits 10 ((whole ++ places).map (·.toNat - 48)))
      (e - places.length)

/-- The ASCII letters of a text in lower case. -/
def foldLatin (s : List Char) : List Char :=
  s.map fun c => if 'A' ≤ c && c ≤ 'Z' then Char.ofNat (c.toNat + 32) else c

/-- The binary64 number a text denotes. -/
def readBinary64? (text : List Char) : Option Binary64 :=
  let plain := (text.map numberChar).dropWhile isNumberBlank
  let plain := (plain.reverse.dropWhile isNumberBlank).reverse
  if !underscoresFit false plain then none
  else
    let (negative, unsigned) := takeSign (plain.filter (· != '_'))
    let word := String.ofList (foldLatin unsigned)
    if word == "inf" || word == "infinity" then some (.infinite negative)
    else if word == "nan" then some .nan
    else readDecimal? negative unsigned

end Intake.Number
