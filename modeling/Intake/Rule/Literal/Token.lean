import Intake.Number.Reading
import Intake.Pattern.Escape
import Intake.Text.Identifier

/-!
# Tokens of literals

A literal is read as numbers, quoted texts, names and marks. Blanks and comments between them are
passed over. Outside of brackets a line break ends the literal, and an indented line is known by a
token of its own, since a literal does not begin in one.
-/

namespace Intake.Rule.Literal

open Intake.Text

/-- A token of a literal. A quoted text of byte values stands apart from one of characters, and so
    does a formatted one, of which nothing else is known. -/
inductive Token where
  | int (n : Nat)
  | float (x : Number.Binary64)
  | imaginary (x : Number.Binary64)
  | text (s : List Char)
  | bytes (bs : List UInt8)
  | formatted
  | ellipsis
  | name (s : List Char)
  | mark (c : Char)
  | indent
  | lineEnd
  deriving DecidableEq

/-- A character that a name may begin with, as far as the end of the name is concerned. -/
def isNameStart (c : Char) : Bool :=
  isLatinLetter c || c == '_' || 128 ≤ c.toNat

/-- A character that a name may go on with, as far as the end of the name is concerned. -/
def isNamePart (c : Char) : Bool :=
  isNameStart c || isLatinDigit c

/-- The digits of a base that a text begins with, single underscores between them, and the rest. -/
def takeDigits (member : Char → Bool) : List Char → List Char × List Char
  | [] => ([], [])
  | '_' :: c :: rest =>
    if member c then
      let (ds, r) := takeDigits member rest
      (c :: ds, r)
    else ([], '_' :: c :: rest)
  | c :: rest =>
    if member c then
      let (ds, r) := takeDigits member rest
      (c :: ds, r)
    else ([], c :: rest)

/-- The digits a text begins with, the first being no underscore. -/
def leadingDigits (member : Char → Bool) (s : List Char) : List Char × List Char :=
  match s with
  | '_' :: _ => ([], s)
  | _ => takeDigits member s

/-- The value of ASCII digits. -/
def value (base : Nat) (digits : List Char) : Nat :=
  Number.ofDigits base (digits.filterMap (Number.baseDigit? base))

/-- A number must not run into a name. -/
def endsNumber (s : List Char) : Bool :=
  match s with
  | [] => true
  | c :: _ => !isNamePart c

/-- The number in base 2, 8 or 16 behind its mark. -/
def markedInt? (base : Nat) (member : Char → Bool) (s : List Char) : Option (Token × List Char) :=
  let s := match s with
    | '_' :: rest => if (rest.head?.map member).getD false then rest else s
    | _ => s
  let (digits, rest) := leadingDigits member s
  if digits.isEmpty || !endsNumber rest then none else some (.int (value base digits), rest)

/-- The exponent a text begins with, and the rest. -/
def takeExponent (s : List Char) : Int × List Char :=
  match s with
  | e :: rest =>
    if e == 'e' || e == 'E' then
      let (negative, unsigned) := Number.takeSign rest
      let (digits, behind) := leadingDigits isLatinDigit unsigned
      if digits.isEmpty then (0, s)
      else
        let n : Int := value 10 digits
        (if negative then -n else n, behind)
    else (0, s)
  | [] => (0, s)

/-- The decimal number a text begins with. Integers other than zero do not begin with a zero, and do
    not have too many digits. -/
def decimal? (s : List Char) : Option (Token × List Char) :=
  let (whole, behindWhole) := leadingDigits isLatinDigit s
  let (point, places, behindPlaces) :=
    match behindWhole with
    | '.' :: rest =>
      let (ds, r) := leadingDigits isLatinDigit rest
      (true, ds, r)
    | rest => (false, [], rest)
  let (exponent, rest) := takeExponent behindPlaces
  let isFloat := point || rest.length < behindPlaces.length
  let x :=
    Number.Binary64.ofDecimal false (value 10 (whole ++ places)) (exponent - places.length)
  if whole.isEmpty && places.isEmpty then none
  else
    match rest with
    | 'j' :: rest => if endsNumber rest then some (.imaginary x, rest) else none
    | 'J' :: rest => if endsNumber rest then some (.imaginary x, rest) else none
    | _ =>
      if !endsNumber rest then none
      else if isFloat then some (.float x, rest)
      else if whole.all (· == '0') then some (.int 0, rest)
      else if whole.head? == some '0' || Number.digitLimit < whole.length then none
      else some (.int (value 10 whole), rest)

/-- The number a text begins with. -/
def number? (s : List Char) : Option (Token × List Char) :=
  match s with
  | '0' :: m :: rest =>
    if m == 'x' || m == 'X' then markedInt? 16 Net.isHexDigit rest
    else if m == 'o' || m == 'O' then markedInt? 8 Pattern.isOctalDigit rest
    else if m == 'b' || m == 'B' then markedInt? 2 (fun c => c == '0' || c == '1') rest
    else decimal? s
  | _ => decimal? s

/-- How a quoted text is read: with escapes or raw, as characters or bytes, and whether it is
    formatted. -/
structure Quoting where
  raw : Bool
  bytes : Bool
  formatted : Bool
  deriving DecidableEq

/-- The quoting a prefix calls for. -/
def Quoting.ofMarks? (marks : List Char) : Option Quoting :=
  match String.ofList (Number.foldLatin marks) with
  | "" => some ⟨false, false, false⟩
  | "u" => some ⟨false, false, false⟩
  | "r" => some ⟨true, false, false⟩
  | "b" => some ⟨false, true, false⟩
  | "br" => some ⟨true, true, false⟩
  | "rb" => some ⟨true, true, false⟩
  | "f" => some ⟨false, false, true⟩
  | "fr" => some ⟨true, false, true⟩
  | "rf" => some ⟨true, false, true⟩
  | _ => none

/-- The code of an escape with so many hexadecimal digits, and the rest. A surrogate is no character:
    its escape stays as it is written. -/
def hexEscape? (mark : Char) (count : Nat) (s : List Char) : Option (List Nat × List Char) :=
  let digits := s.take count
  let n := value 16 digits
  if digits.length = count && digits.all Net.isHexDigit && n < 0x110000 then
    if n.isValidChar then some ([n], s.drop count)
    else some (('\\' :: mark :: digits).map Char.toNat, s.drop count)
  else none

/-- The code of the character whose name stands in braces, and the rest. -/
def nameEscape? (s : List Char) : Option (List Nat × List Char) :=
  match s with
  | '{' :: rest =>
    match cutAt '}' rest with
    | (name, some rest) => (codeNamed? name).map fun n => ([n], rest)
    | (_, none) => none
  | _ => none

/-- The escaped code a text begins with, behind the backslash, and the rest: no code for an escaped
    line break, nothing for a broken escape. Without an escape the backslash stays. -/
def escape? (bytes : Bool) (s : List Char) : Option (List Nat × List Char) :=
  match s with
  | [] => none
  | c :: rest =>
    match c with
    | '\n' => some ([], rest)
    | '\\' => some ([92], rest)
    | '\'' => some ([39], rest)
    | '"' => some ([34], rest)
    | 'a' => some ([7], rest)
    | 'b' => some ([8], rest)
    | 'f' => some ([12], rest)
    | 'n' => some ([10], rest)
    | 'r' => some ([13], rest)
    | 't' => some ([9], rest)
    | 'v' => some ([11], rest)
    | 'x' => hexEscape? 'x' 2 rest
    | _ =>
      if Pattern.isOctalDigit c then
        let digits := c :: (rest.take 2).takeWhile Pattern.isOctalDigit
        let n := value 8 digits
        some ([if bytes then n % 256 else n], s.drop digits.length)
      else if bytes then if 128 ≤ c.toNat then none else some ([92, c.toNat], rest)
      else if c == 'u' then hexEscape? 'u' 4 rest
      else if c == 'U' then hexEscape? 'U' 8 rest
      else if c == 'N' then nameEscape? rest
      else some ([92, c.toNat], rest)

/-- The codes of a quoted text up to its closing quotes, and the text behind them. -/
def quotedCodes? (quote : List Char) (q : Quoting) : Nat → List Char → Option (List Nat × List Char)
  | 0, _ => none
  | fuel + 1, s =>
    if quote.isPrefixOf s then some ([], s.drop quote.length)
    else
      match s with
      | [] => none
      | '\\' :: rest =>
        if q.raw then
          match rest with
          | [] => none
          | c :: rest =>
            if q.bytes && 128 ≤ c.toNat then none
            else (quotedCodes? quote q fuel rest).map fun (codes, r) => (92 :: c.toNat :: codes, r)
        else
          (escape? q.bytes rest).bind fun (codes, rest) =>
            (quotedCodes? quote q fuel rest).map fun (more, r) => (codes ++ more, r)
      | c :: rest =>
        if c == '\n' && quote.length == 1 then none
        else if q.bytes && 128 ≤ c.toNat then none
        -- a formatted text with fields is more than a literal
        else if q.formatted && (c == '{' || c == '}') then none
        else (quotedCodes? quote q fuel rest).map fun (codes, r) => (c.toNat :: codes, r)

/-- The quoted text behind its prefix. -/
def quoted? (q : Quoting) (s : List Char) : Option (Token × List Char) :=
  match s with
  | c :: _ =>
    let quote := if [c, c, c].isPrefixOf s then [c, c, c] else [c]
    (quotedCodes? quote q (s.length + 1) (s.drop quote.length)).map fun (codes, rest) =>
      (if q.formatted then .formatted
        else if q.bytes then .bytes (codes.map UInt8.ofNat)
        else .text (codes.map Char.ofNat), rest)
  | [] => none

/-- A quote opens the text. -/
def opensQuote (s : List Char) : Bool :=
  s.head? == some '\'' || s.head? == some '"'

/-- Brackets may stand inside each other up to this depth. -/
def deepest : Nat := 200

/-- The text with one character for every line break. -/
def uniteBreaks : List Char → List Char
  | [] => []
  | '\r' :: '\n' :: rest => '\n' :: uniteBreaks rest
  | c :: rest => (if c == '\r' then '\n' else c) :: uniteBreaks rest

/-- Whether a line is indented, and the rest of it. A form feed takes the indentation back, and where
    the line goes on behind a backslash, it is indented if it was before. The text does not end behind
    a backslash. -/
def indentation? (indented before : Bool) : List Char → Option (Bool × List Char)
  | [] => some (indented || before, [])
  | ' ' :: rest => indentation? true before rest
  | '\t' :: rest => indentation? true before rest
  | '\x0c' :: rest => indentation? false before rest
  | '\\' :: '\n' :: c :: rest => indentation? indented (before || indented) (c :: rest)
  | '\\' :: _ => none
  | c :: rest => some (indented || before, c :: rest)

/-- Nothing but a comment is left of the line. -/
def endsLine (s : List Char) : Bool :=
  s.head? == some '\n' || s.head? == some '#'

/-- The tokens of a text with united breaks; `depth` is the number of open brackets, and `starts` says
    that the text is the beginning of a line outside of them. -/
def tokens? : Nat → Nat → Bool → List Char → Option (List Token)
  | 0, _, _, _ => none
  | fuel + 1, depth, true, s =>
    (indentation? false false s).bind fun (indented, rest) =>
      (tokens? fuel depth false rest).map fun ts =>
        if indented && !endsLine rest then .indent :: ts else ts
  | _ + 1, _, false, [] => some []
  | fuel + 1, depth, false, c :: rest =>
    if c == ' ' || c == '\t' || c == '\x0c' then tokens? fuel depth false rest
    else if c == '#' then tokens? fuel depth false (rest.dropWhile (· != '\n'))
    else if c == '\n' then
      if depth = 0 then (tokens? fuel depth true rest).map (.lineEnd :: ·)
      else tokens? fuel depth false rest
    else if c == '\\' then
      match rest with
      | '\n' :: c :: rest => tokens? fuel depth false (c :: rest)
      | _ => none
    else if opensQuote (c :: rest) then
      (quoted? ⟨false, false, false⟩ (c :: rest)).bind fun (t, rest) =>
        (tokens? fuel depth false rest).map (t :: ·)
    else if isLatinDigit c || (c == '.' && (rest.head?.map isLatinDigit).getD false) then
      (number? (c :: rest)).bind fun (t, rest) => (tokens? fuel depth false rest).map (t :: ·)
    else if isNameStart c then
      let word := c :: rest.takeWhile isNamePart
      let behind := rest.dropWhile isNamePart
      match opensQuote behind, Quoting.ofMarks? word with
      | true, some q =>
        (quoted? q behind).bind fun (t, rest) => (tokens? fuel depth false rest).map (t :: ·)
      | _, _ =>
        if isIdentifierText word then (tokens? fuel depth false behind).map (.name word :: ·)
        else none
    else if "...".toList.isPrefixOf (c :: rest) then
      (tokens? fuel depth false (rest.drop 2)).map (.ellipsis :: ·)
    else if 32 < c.toNat then
      let depth :=
        if c == '(' || c == '[' || c == '{' then depth + 1
        else if c == ')' || c == ']' || c == '}' then depth - 1
        else depth
      if deepest < depth then none else (tokens? fuel depth false rest).map (.mark c :: ·)
    else none

end Intake.Rule.Literal
