import Intake.Rule.Reading

/-!
# Domain clauses

A clause ties a field to another place of the input: the value there has to belong to an
enumeration, equal a literal or the value of a further place, pass one of several operations, or
satisfy a function. A required clause also asks that the place holds a value.

The notation of clauses is, for instance,

    !auth.action=String[admin, user]::?auth.social=Atom[banned]
-/

namespace Intake.Domain

open Intake.Rule Intake.Text

/-- What the value at the place of a clause has to conform to. -/
inductive Demand where
  | members (s : EnumSet)
  | equal (v : Value)
  | samePath (path : String)
  | either (ds : List Directive)
  | function (f : FunctionRef)

namespace Demand

/-- The name of the demand in the notation of clauses. -/
def combinator : Demand → String
  | members s => s.kind
  | equal _ => "Equal"
  | samePath _ => "Equal"
  | either _ => "Either"
  | function _ => "Custom"

end Demand

/-- A clause. -/
structure Clause where
  required : Bool
  path : String
  demand : Demand

/-- The separator of clauses. -/
def clauseSeparator : List Char := "::".toList

/-- The separator of a kind and its literal, and of an alternative and its value. -/
def valueSeparator : List Char := ">>".toList

/-- The text is a path: a name, then names or numbers behind points. -/
def isClausePath (s : List Char) : Bool :=
  match splitAt '.' s with
  | first :: rest => isIdentifier first && rest.all fun p => !p.isEmpty && p.all isNameTail
  | [] => false

/-- The parts of a clause: its mark, path and combinator and the text between the brackets. -/
def clauseParts? (s : List Char) : Option (Char × List Char × String × List Char) :=
  match s with
  | mark :: rest =>
    match cutAt '=' rest with
    | (path, some rest) =>
      match cutAt '[' rest with
      | (combinator, some rest) =>
        if (mark == '!' || mark == '?') && isClausePath path && !combinator.isEmpty &&
            combinator.all isLatinLetter && rest.getLast? == some ']' then
          some (mark, path, String.ofList combinator, rest.dropLast)
        else none
      | (_, none) => none
    | (_, none) => none
  | [] => none

section

variable [Literal.Reader]

/-- The demand of equality that the text between brackets denotes. -/
def readEqual (body : List Char) : Except Misread Demand := do
  let pieces ← trimmedPieces [valueSeparator] body
  match pieces with
  | [kind, text] =>
    let kindName := String.ofList kind
    if kindName == "Path" then return .samePath (String.ofList text)
    if !EnumSet.kinds.contains kindName then throw (.malformed (.equalKind kind))
    match (← readEnumSet kindName text).items with
    | [v] => return .equal v
    | _ => throw (.malformed (.equalSingle text))
  | _ => throw (.malformed (.equalShape body))

/-- The demand of a combinator with the text between its brackets. -/
def readDemand (combinator : String) (body : List Char) : Except Misread Demand := do
  if EnumSet.kinds.contains combinator then return .members (← readEnumSet combinator body)
  else if combinator == "Equal" then readEqual body
  else if combinator == "Either" then
    let ds ← readDirectives valueSeparator body
    if ds.isEmpty then throw (.malformed .noAlternatives)
    return .either ds
  else if combinator == "Custom" then
    return .function (← readFunctionRef ('[' :: body ++ [']']))
  else throw (.malformed (.combinator combinator))

/-- The clause a text denotes. -/
def readClause (text : List Char) : Except Misread Clause :=
  match clauseParts? (trim text) with
  | none => .error (.malformed (.clause text))
  | some (mark, path, combinator, body) => do
    return ⟨mark == '!', String.ofList path, ← readDemand combinator body⟩

/-- The clauses a text denotes. -/
def readClauses (text : List Char) : Except Misread (List Clause) := do
  let pieces ← (split [clauseSeparator] text).mapError .malformed
  (pieces.filter fun p => !allBlank p).mapM readClause

end

end Intake.Domain
