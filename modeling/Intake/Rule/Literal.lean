import Intake.Rule.Literal.Token
import Intake.Value.Equality

/-!
# Literals

The notation of a map inside a rule: scalars, quoted texts that may be written in several pieces,
and brackets around items or entries. Keys of maps and items of sets have to be values that cannot
change. A complex number is a real number, perhaps behind a sign, to which an imaginary one is added
or from which it is taken; for this an integer has to have a place among the binary64 numbers.

What stands in a bracket is looked at in order. So a key that can change may be found before a name,
which stands for nothing known; but an expression that is neither a name nor a literal, such as a
product or a call, leaves the whole text without a value at once.
-/

namespace Intake.Rule.Literal

/-- What a single token or a known name denotes. -/
inductive Constant where
  | null
  | ellipsis
  | bool (b : Bool)
  | int (n : Int)
  | float (x : Number.Binary64)
  | complex (x y : Number.Binary64)
  | text (s : List Char)
  | bytes (bs : List UInt8)

/-- The value of a constant. -/
def Constant.value : Constant → Value
  | null => .null
  | ellipsis => .ellipsis
  | bool b => .bool b
  | int n => .int n
  | float x => .float x
  | complex x y => .complex x y
  | text s => .text (String.ofList s)
  | bytes bs => .bytes bs

/-- The tree of a literal. The name of sets is told from the other names, which are `unknown`. -/
inductive Expr where
  | constant (c : Constant)
  | signed (negative : Bool) (e : Expr)
  | sum (negative : Bool) (left right : Expr)
  | list (items : List Expr)
  | tuple (items : List Expr)
  | set (items : List Expr)
  | map (entries : List (Expr × Expr))
  | setName
  | unknown

/-- What was read of a bracket: its items, whether one of them is an entry, and whether it ends in a
    comma. -/
structure Items where
  items : List Expr
  entries : List (Expr × Expr)
  comma : Bool

/-- What parentheses around the items mean: the item itself, or a tuple. -/
def Items.grouped (i : Items) : Expr :=
  match i.items, i.comma with
  | [e], false => e
  | es, _ => .tuple es

/-- The characters of a quoted text. -/
def Token.text? : Token → Option (List Char)
  | .text s => some s
  | _ => none

/-- The byte values of a quoted text. -/
def Token.bytes? : Token → Option (List UInt8)
  | .bytes bs => some bs
  | _ => none

/-- The token is a quoted text. -/
def Token.isQuoted : Token → Bool
  | .text _ => true
  | .bytes _ => true
  | .formatted => true
  | _ => false

/-- The adjacent quoted texts a list of tokens begins with, joined, and the rest. Texts and bytes do
    not mix. -/
def joinTexts? (ts : List Token) : Option (Expr × List Token) :=
  let texts := ts.takeWhile (·.isQuoted)
  let rest := ts.dropWhile (·.isQuoted)
  if texts.isEmpty then none
  else
    match texts.mapM (·.bytes?), texts.mapM (·.text?) with
    | some parts, _ => some (.constant (.bytes parts.flatten), rest)
    | none, some parts => some (.constant (.text parts.flatten), rest)
    | none, none => if texts.any (·.bytes?.isSome) then none else some (.unknown, rest)

/-- The words that are no names. -/
def keywords : List String :=
  ["and", "as", "assert", "async", "await", "break", "class", "continue", "def", "del", "elif",
   "else", "except", "finally", "for", "from", "global", "if", "import", "in", "is", "lambda",
   "nonlocal", "not", "or", "pass", "raise", "return", "try", "while", "with", "yield"]

/-- The letters of the name of sets, with the letters of other styles that count as the same. -/
def setLetters : List (List Char) :=
  ["sſˢₛｓ𝐬𝑠𝒔𝓈𝓼𝔰𝕤𝖘𝗌𝘀𝘴𝙨𝚜".toList, "eᵉₑℯⅇｅ𝐞𝑒𝒆𝓮𝔢𝕖𝖊𝖾𝗲𝘦𝙚𝚎".toList, "tᵗₜｔ𝐭𝑡𝒕𝓉𝓽𝔱𝕥𝖙𝗍𝘁𝘵𝙩𝚝".toList]

/-- The name is that of sets. -/
def isSetName (s : List Char) : Bool :=
  s.length == setLetters.length && (s.zip setLetters).all fun (c, letters) => letters.contains c

/-- What a name stands for. -/
def named? (s : List Char) : Option Expr :=
  match String.ofList s with
  | "True" => some (.constant (.bool true))
  | "False" => some (.constant (.bool false))
  | "None" => some (.constant .null)
  | word =>
    if keywords.contains word then none else if isSetName s then some .setName else some .unknown

/-- A call without arguments, if one follows. It is known for the name of sets only. -/
def called (e : Expr) (ts : List Token) : Expr × List Token :=
  match e, ts with
  | .setName, .mark '(' :: .mark ')' :: rest => (.set [], rest)
  | e, ts => (e, ts)

mutual
/-- The literal a list of tokens begins with, and the rest. -/
def expr? (fuel : Nat) (ts : List Token) : Option (Expr × List Token) :=
  match fuel with
  | 0 => none
  | fuel + 1 => (operand? fuel ts).bind fun (e, rest) => sum? fuel e rest
termination_by structural fuel

/-- The sum that a literal and what is added to it or taken from it make, and the rest. -/
def sum? (fuel : Nat) (left : Expr) (ts : List Token) : Option (Expr × List Token) :=
  match fuel with
  | 0 => none
  | fuel + 1 =>
    match ts with
    | .mark '+' :: rest =>
      (operand? fuel rest).bind fun (e, rest) => sum? fuel (.sum false left e) rest
    | .mark '-' :: rest =>
      (operand? fuel rest).bind fun (e, rest) => sum? fuel (.sum true left e) rest
    | _ => some (left, ts)
termination_by structural fuel

/-- The literal without sums that a list of tokens begins with, and the rest. -/
def operand? (fuel : Nat) (ts : List Token) : Option (Expr × List Token) :=
  match fuel with
  | 0 => none
  | fuel + 1 =>
    match ts with
    | .int n :: rest => some (.constant (.int n), rest)
    | .float x :: rest => some (.constant (.float x), rest)
    | .imaginary x :: rest => some (.constant (.complex (.finite false 0) x), rest)
    | .ellipsis :: rest => some (.constant .ellipsis, rest)
    | .name s :: rest => (named? s).map fun e => called e rest
    | .mark '-' :: rest => (operand? fuel rest).map fun (e, r) => (.signed true e, r)
    | .mark '+' :: rest => (operand? fuel rest).map fun (e, r) => (.signed false e, r)
    | .mark '[' :: rest =>
      (items? fuel ']' false rest).bind fun (i, r) =>
        if i.entries.isEmpty then some (.list i.items, r) else none
    | .mark '(' :: rest =>
      (items? fuel ')' false rest).map fun (i, r) => called i.grouped r
    | .mark '{' :: rest =>
      (items? fuel '}' true rest).bind fun (i, r) =>
        if i.items.isEmpty then some (.map i.entries, r)
        else if i.entries.isEmpty then some (.set i.items, r)
        else none
    | ts => joinTexts? ts
termination_by structural fuel

/-- The items of a bracket up to its closing mark, and the rest. -/
def items? (fuel : Nat) (closing : Char) (entries : Bool) (ts : List Token) :
    Option (Items × List Token) :=
  match fuel with
  | 0 => none
  | fuel + 1 =>
    match ts with
    | [] => none
    | t :: rest =>
      if t == .mark closing then some (⟨[], [], false⟩, rest)
      else
        (expr? fuel ts).bind fun (e, rest) =>
          match rest with
          | .mark ':' :: rest =>
            if entries then
              (expr? fuel rest).bind fun (v, rest) =>
                (more? fuel closing entries rest).map fun (i, r) =>
                  (⟨i.items, (e, v) :: i.entries, i.comma⟩, r)
            else none
          | _ =>
            (more? fuel closing entries rest).map fun (i, r) =>
              (⟨e :: i.items, i.entries, i.comma⟩, r)
termination_by structural fuel

/-- What follows an item of a bracket: the closing mark, or a comma and more items. -/
def more? (fuel : Nat) (closing : Char) (entries : Bool) (ts : List Token) :
    Option (Items × List Token) :=
  match fuel with
  | 0 => none
  | fuel + 1 =>
    match ts with
    | .mark c :: rest =>
      if c == closing then some (⟨[], [], false⟩, rest)
      else if c == ',' then
        (items? fuel closing entries rest).map fun (i, r) =>
          (⟨i.items, i.entries, i.comma || (i.items.isEmpty && i.entries.isEmpty)⟩, r)
      else none
    | _ => none
termination_by structural fuel
end

/-- Why a literal has no value. -/
inductive Refusal where
  | noLiteral
  | unhashable (typeName : String)
  | overflow
  deriving DecidableEq

/-- The number that a literal is. -/
def Expr.number? : Expr → Option Constant
  | .constant (.int n) => some (.int n)
  | .constant (.float x) => some (.float x)
  | .constant (.complex x y) => some (.complex x y)
  | _ => none

/-- The number with the other sign. -/
def Constant.negated : Constant → Constant
  | .int n => .int (-n)
  | .float x => .float x.negate
  | .complex x y => .complex x.negate y.negate
  | c => c

/-- The number that a literal is, perhaps behind a sign. -/
def Expr.signedNumber? : Expr → Option Constant
  | .signed negative e => e.number?.map fun c => if negative then c.negated else c
  | e => e.number?

/-- A real number and an imaginary one, which is added or taken away. The part that a zero is added
    to is no negative zero. -/
def complexSum (negative : Bool) (x y : Number.Binary64) : Constant :=
  let plain (z : Number.Binary64) := if z.isZero then .finite false 0 else z
  if negative then .complex x (plain y.negate) else .complex (plain x) y

/-- The complex number that a sum denotes. -/
def sumConstant (negative : Bool) (left right : Expr) : Except Refusal Constant :=
  match left.signedNumber?, right.number? with
  | some (.int n), some (.complex _ y) =>
    match Number.Binary64.ofQuotient (n < 0) n.natAbs 1 with
    | .infinite _ => .error .overflow
    | x => .ok (complexSum negative x y)
  | some (.float x), some (.complex _ y) => .ok (complexSum negative x y)
  | _, _ => .error .noLiteral

/-- The value has to be a possible key. -/
def checkKey (v : Value) : Except Refusal Unit :=
  match v.changeable? with
  | some typeName => .error (.unhashable typeName)
  | none => .ok ()

mutual
/-- The value of a literal. -/
def Expr.value (e : Expr) : Except Refusal Value :=
  match e with
  | .constant c => .ok c.value
  | .signed negative e =>
    match (Expr.signed negative e).signedNumber? with
    | some c => .ok c.value
    | none => .error .noLiteral
  | .sum negative left right => (sumConstant negative left right).map (·.value)
  | .list items => do return .list (← values items)
  | .tuple items => do return .tuple (← values items)
  | .set items => do return .set false (← distinct items [])
  | .map entries => do return .map (← entryValues entries [])
  | .setName => .error .noLiteral
  | .unknown => .error .noLiteral
termination_by structural e

/-- The values of literals. -/
def values (es : List Expr) : Except Refusal (List Value) :=
  match es with
  | [] => .ok []
  | e :: rest => do
    let v ← e.value
    return v :: (← values rest)
termination_by structural es

/-- The values of the items of a set, added to those found before. -/
def distinct (es : List Expr) (found : List Value) : Except Refusal (List Value) :=
  match es with
  | [] => .ok found
  | e :: rest => do
    let v ← e.value
    checkKey v
    distinct rest (if v.isIn found then found else found ++ [v])
termination_by structural es

/-- The values of the entries of a map, added to those found before. -/
def entryValues (es : List (Expr × Expr)) (found : List (Value × Value)) :
    Except Refusal (List (Value × Value)) :=
  match es with
  | [] => .ok found
  | (k, e) :: rest => do
    let key ← k.value
    let v ← e.value
    checkKey key
    entryValues rest (Value.insert key v found)
termination_by structural es
end

/-- The value a text denotes: that of the items in its one line, as if they stood in parentheses. No
    literal holds the character 0, and blanks before the literal do not count. -/
def read (s : List Char) : Except Refusal Value :=
  let s := uniteBreaks (s.dropWhile fun c => c == ' ' || c == '\t')
  match if s.contains '\x00' then none else tokens? (2 * s.length + 2) 0 true s with
  | none => .error .noLiteral
  | some ts =>
    let ts := ts.dropWhile (· == .lineEnd)
    let line := ts.takeWhile (· != .lineEnd)
    if line.isEmpty || !(ts.drop line.length).all (· == .lineEnd) then .error .noLiteral
    else
      match items? (4 * line.length + 8) ')' false (line ++ [.mark ')']) with
      | some (i, []) => i.grouped.value
      | _ => .error .noLiteral

/-- A way to read literals. The readers of rules take it as it is, whatever it makes of a text. -/
class Reader where
  read : List Char → Except Refusal Value

/-- The way in which rules are read: literals have the notation of this module. -/
instance Reader.standard : Reader := ⟨Literal.read⟩

end Intake.Rule.Literal
