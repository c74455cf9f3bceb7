import Intake.Rule.Literal
import Intake.Rule.Split
import Intake.Rule.Syntax
import Intake.Text.Blank
import Intake.Text.CharClass
import Intake.Text.Pieces

/-!
# Reading rules

The notation of rules, such as

    sanitize(trim, upcase) validate(not_empty, max_len=20, enum=String[a::b])

Stages are a name and directives in parentheses. A directive is a name, or a name and a value: an
integer, a quoted text, a list of directives in brackets, an enumeration with its kind, the name of
a function, or a name with points. Blanks around each of these do not count.
-/

namespace Intake.Rule

open Intake.Text

/-- The text is a name: a letter or underscore, then letters, digits and underscores. -/
def isIdentifier : List Char → Bool
  | [] => false
  | c :: rest => isNameHead c && rest.all isNameTail

/-- The text consists of names separated by points. -/
def isDotted (s : List Char) : Bool :=
  (splitAt '.' s).all isIdentifier

/-- The text consists of decimal digits, perhaps behind a sign. -/
def isInteger (s : List Char) : Bool :=
  let digits := (Number.takeSign s).2
  !digits.isEmpty && digits.all isDecimalDigit

/-- The integer a text denotes. -/
def readInteger (s : List Char) : Except Misread Int :=
  (Number.readInt 10 s).mapError .integer

/-- The pieces of a text between separators, without the blanks around them. -/
def trimmedPieces (separators : List (List Char)) (s : List Char) :
    Except Misread (List (List Char)) :=
  ((split separators s).mapError .malformed).map (·.map trim)

/-- The text without its first and its last character. -/
def inner (s : List Char) : List Char :=
  (s.drop 1).dropLast

/-- A quoted text without its quotes, any other text as it is. -/
def unquote (s : List Char) : List Char :=
  match s with
  | c :: _ :: _ => if isQuote c && s.getLast? == some c then inner s else s
  | _ => s

/-- The separators of the items of an enumeration. -/
def enumSeparators : List (List Char) := ["::".toList, ",".toList, ">>".toList]

/-- The reference to a function: its name, or in brackets its name or its namespace and name. A line
    break may end a name. -/
def readFunctionRef (s : List Char) : Except Misread FunctionRef := do
  let parts ←
    if s.head? == some '[' then trimmedPieces [",".toList] (inner s) else pure [s]
  match parts.map fun p => (isDotted (dropFinalBreak p), String.ofList p) with
  | [(true, name)] => return ⟨name, none⟩
  | [(true, scope), (true, name)] => return ⟨name, some scope⟩
  | _ => throw (.malformed (.functionReference s))

/-- The kind and the items of an enumeration in brackets, where the text has this shape. -/
def enumShape? (s : List Char) : Option (String × List Char) :=
  match cutAt '[' s with
  | (kind, some rest) =>
    let kind := String.ofList kind
    if EnumSet.kinds.contains kind && rest.getLast? == some ']' then some (kind, rest.dropLast)
    else none
  | (_, none) => none

section

variable [Literal.Reader]

/-- The item of an enumeration that a text denotes; none for a kind that is not known. -/
def readItem (kind : String) (s : List Char) : Except Misread (List Value) :=
  match kind with
  | "String" => .ok [.text (String.ofList (unquote s))]
  | "Atom" => .ok [.text (String.ofList (unquote s))]
  | "Integer" =>
    if isInteger s then (readInteger s).map fun n => [.int n]
    else .error (.malformed (.notInteger s))
  | "Float" =>
    match Number.readBinary64? s with
    | some x => .ok [.float x]
    | none => .error (.malformed (.notNumber s))
  | "Map" =>
    match Literal.Reader.read s with
    | .ok v => if v.isMap then .ok [v] else .error (.malformed (.notMap s))
    | .error .noLiteral => .error (.malformed (.notMap s))
    | .error (.unhashable typeName) => .error (.unhashable typeName)
    | .error .overflow => .error .overflow
  | _ => .ok []

/-- The items that texts denote. -/
def readItems (kind : String) : List (List Char) → Except Misread (List Value)
  | [] => .ok []
  | s :: rest => do
    if s.isEmpty then throw (.malformed (.emptyItem kind))
    let item ← readItem kind s
    return item ++ (← readItems kind rest)

/-- The enumeration whose items stand between brackets. -/
def readEnumSet (kind : String) (body : List Char) : Except Misread EnumSet := do
  let pieces ← trimmedPieces enumSeparators body
  if pieces.all (·.isEmpty) then throw (.malformed (.emptySet kind))
  return ⟨kind, ← readItems kind pieces⟩

mutual
/-- The argument of the operation `name` that a text denotes. -/
def readArgumentWithin (fuel : Nat) (name : String) (text : List Char) :
    Except Misread Argument :=
  match fuel with
  | 0 => .error (.malformed (.invalidValue name text))
  | fuel + 1 => do
    let s := trim text
    match s with
    | [] => throw (.malformed (.missingValue name))
    | c :: rest =>
      if name == "custom" then return .function (← readFunctionRef s)
      else if isQuote c then
        if rest.isEmpty || s.getLast? != some c then throw (.malformed (.openString s))
        else return .literal (.text (String.ofList (inner s)))
      else if isInteger s then return .literal (.int (← readInteger s))
      else if c == '[' && s.getLast? == some ']' then
        let pieces ← trimmedPieces [",".toList] (inner s)
        return .operations (← readDirectivesWithin fuel "=".toList (pieces.filter (!·.isEmpty)))
      else
        match enumShape? s with
        | some (kind, body) => return .members (← readEnumSet kind body)
        | none =>
          if isDotted s then return .literal (.text (String.ofList s))
          else throw (.malformed (.invalidValue name s))
termination_by structural fuel

/-- The directive a text denotes, its name and its value parted by `separator`. -/
def readDirectiveWithin (fuel : Nat) (separator text : List Char) : Except Misread Directive :=
  match fuel with
  | 0 => .error (.malformed (.operationName text))
  | fuel + 1 => do
    let s := trim text
    let pieces ← (split [separator] s).mapError .malformed
    let first := pieces.headD []
    let name := trim first
    if !isIdentifier name then throw (.malformed (.operationName name))
    let word := String.ofList name
    if pieces.length = 1 then return ⟨word, .none⟩
    else
      return ⟨word, ← readArgumentWithin fuel word (s.drop (first.length + separator.length))⟩
termination_by structural fuel

/-- The directives that texts denote. -/
def readDirectivesWithin (fuel : Nat) (separator : List Char) (texts : List (List Char)) :
    Except Misread (List Directive) :=
  match fuel with
  | 0 => .ok []
  | fuel + 1 =>
    match texts with
    | [] => .ok []
    | text :: rest => do
      let d ← readDirectiveWithin fuel separator text
      return d :: (← readDirectivesWithin fuel separator rest)
termination_by structural fuel
end

/-- The argument of the operation `name` that a text denotes. Lists nest less deeply than the text
    is long. -/
def readArgument (name : String) (s : List Char) : Except Misread Argument :=
  readArgumentWithin (3 * s.length + 3) name s

/-- The directive a text denotes, its name and its value parted by `separator`. -/
def readDirective (separator s : List Char) : Except Misread Directive :=
  readDirectiveWithin (3 * s.length + 4) separator s

/-- The directives between commas. Empty pieces do not count. -/
def readDirectives (separator s : List Char) : Except Misread (List Directive) := do
  let pieces ← (split [",".toList] s).mapError .malformed
  (pieces.filter fun p => !allBlank p).mapM (readDirective separator)

/-- The stages the rest of `text` denotes, added to those read before. -/
def readStagesFrom (text : List Char) : Nat → Stages → List Char → Except Misread Stages
  | 0, stages, _ => .ok stages
  | fuel + 1, stages, rest =>
    match rest with
    | [] => .ok stages
    | c :: behind =>
      if isBlank c then readStagesFrom text fuel stages behind
      else
        let name := rest.takeWhile isNameTail
        match isIdentifier name, (rest.drop name.length).dropWhile isBlank with
        | true, '(' :: opened => do
          let (body, behind) ← (group text opened).mapError .malformed
          let ds ← readDirectives "=".toList body
          let stage := String.ofList name
          if ds.isEmpty then throw (.malformed (.noOperations stage))
          readStagesFrom text fuel (stages.add stage ds) behind
        | _, _ =>
          throw (.malformed (.expectedStage (text.length - rest.length) text))

/-- The stages a text denotes. -/
def readStages (s : List Char) : Except Misread Stages :=
  let text := trim s
  if text.isEmpty then .error (.malformed .emptyText)
  else readStagesFrom text (text.length + 1) [] text

end

end Intake.Rule
