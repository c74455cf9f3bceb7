import Intake.Net.Address
import Intake.Pattern.Reader
import Intake.Text.CharName

/-!
# Escapes in patterns

What a backslash and the characters behind it stand for, inside a set and outside.
-/

namespace Intake.Pattern

open Intake.Text

/-- A digit of base 8. -/
def isOctalDigit (c : Char) : Bool :=
  '0' ≤ c && c ≤ '7'

/-- The number written by digits of a base up to 16. -/
def codeOf (base : Nat) (digits : List Char) : Nat :=
  Number.ofDigits base (digits.filterMap (Number.baseDigit? base))

/-- The controls with a letter of their own. -/
def controlCode? : Char → Option Nat
  | 'a' => some 7
  | 'f' => some 12
  | 'n' => some 10
  | 'r' => some 13
  | 't' => some 9
  | 'v' => some 11
  | '\\' => some 92
  | _ => none

/-- The class an escaped letter stands for. -/
def categoryItem? : Char → Option SetItem
  | 'd' => some (.category .digit false)
  | 'D' => some (.category .digit true)
  | 's' => some (.category .space false)
  | 'S' => some (.category .space true)
  | 'w' => some (.category .word false)
  | 'W' => some (.category .word true)
  | _ => none

/-- The place an escaped letter stands for. -/
def anchor? : Char → Option Anchor
  | 'A' => some .textStart
  | 'b' => some .boundary
  | 'B' => some .inside
  | 'Z' => some .textEnd
  | _ => none

namespace Read

/-- Takes exactly `count` hexadecimal digits behind an escaped letter. -/
def hexCode (letter : Char) (count : Nat) : Read Nat := do
  let digits ← takeUpTo Net.isHexDigit count
  let text := '\\' :: letter :: digits
  if digits.length < count then fail (.incompleteEscape (textOf text)) text.length
  else
    let code := codeOf 16 digits
    if 0x110000 ≤ code then fail (.badEscape (textOf text)) text.length else return code

/-- Takes the name of a character in braces. -/
def namedCode : Read Nat := do
  if !(← accept '{') then fail (.missing "\x7b") 0
  let name ← takeName '}' "character name"
  match codeNamed? name with
  | some code => return code
  | none => fail (.undefinedCharacter (textOf name)) (name.length + 4)

/-- Checks the value of an octal escape. -/
def octalCode (digits : List Char) : Read Nat :=
  let code := codeOf 8 digits
  if 255 < code then fail (.largeOctal (textOf ('\\' :: digits))) (digits.length + 1)
  else return code

/-- The code of an escape that means the same inside and outside of sets. -/
def commonCode (c : Char) : Read Nat :=
  match c with
  | 'x' => hexCode 'x' 2
  | 'u' => hexCode 'u' 4
  | 'U' => hexCode 'U' 8
  | 'N' => namedCode
  | _ =>
    if isLatinLetter c || isLatinDigit c then fail (.badEscape (textOf ['\\', c])) 2
    else return c.toNat

/-- The item an escaped character stands for in a set. -/
def setEscape (c : Char) : Read SetItem := do
  if c == 'b' then return .code 8
  match controlCode? c, categoryItem? c with
  | some code, _ => return .code code
  | none, some item => return item
  | none, none =>
    if isOctalDigit c then
      let more ← takeUpTo isOctalDigit 2
      return .code (← octalCode (c :: more))
    else return .code (← commonCode c)

/-- The reference to a group by its number. -/
def referenceTo (digits : List Char) : Read Node := do
  let group := codeOf 10 digits
  if group < (← groupCount) then
    if !(← isClosed group) then fail .openGroup (digits.length + 1)
    checkBehind group
    return .reference group
  else fail (.unknownReference group) digits.length

/-- The node that an escaped digit other than zero begins: an octal code of three digits, else a
    reference of one digit or two. -/
def digitEscape (c : Char) : Read Node := do
  match ← takeUpTo isLatinDigit 1 with
  | [] => referenceTo [c]
  | d :: _ =>
    if isOctalDigit c && isOctalDigit d then
      match ← takeUpTo isOctalDigit 1 with
      | [] => referenceTo [c, d]
      | e :: _ => return .code (← octalCode [c, d, e]) false
    else referenceTo [c, d]

/-- The node an escaped character stands for. -/
def nodeEscape (c : Char) : Read Node := do
  match anchor? c, categoryItem? c, controlCode? c with
  | some a, _, _ => return .anchor a
  | none, some item, _ => return .set [item] false
  | none, none, some code => return .code code false
  | none, none, none =>
    if c == '0' then
      let more ← takeUpTo isOctalDigit 2
      return .code (codeOf 8 more) false
    else if isLatinDigit c then digitEscape c
    else return .code (← commonCode c) false

end Read

end Intake.Pattern
