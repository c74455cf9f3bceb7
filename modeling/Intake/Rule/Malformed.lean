import Intake.Number.Reading
import Intake.Text.Quoted

/-!
# Malformed rules

Why a text is not a rule, and what a reader of rules may fail with.
-/

namespace Intake.Rule

/-- What is wrong with the text of a rule. -/
inductive Malformed where
  | unbalanced (c : Char) (text : List Char)
  | unterminated (text : List Char)
  | mismatched (c : Char) (text : List Char)
  | unclosedStage (text : List Char)
  | emptySet (kind : String)
  | emptyItem (kind : String)
  | notInteger (text : List Char)
  | notNumber (text : List Char)
  | notMap (text : List Char)
  | functionReference (text : List Char)
  | missingValue (name : String)
  | openString (text : List Char)
  | invalidValue (name : String) (text : List Char)
  | operationName (name : List Char)
  | emptyText
  | expectedStage (position : Nat) (text : List Char)
  | noOperations (stage : String)
  | equalShape (text : List Char)
  | equalKind (kind : List Char)
  | equalSingle (text : List Char)
  | clause (text : List Char)
  | noAlternatives
  | combinator (name : String)
  deriving DecidableEq

namespace Malformed

/-- The quoted form of a text. -/
def quote (s : List Char) : String :=
  String.ofList (Text.quoted s)

/-- What the message says. -/
def message : Malformed → String
  | unbalanced c text => "Unbalanced '" ++ String.singleton c ++ "' in " ++ quote text
  | unterminated text => "Unterminated group in " ++ quote text
  | mismatched c text => "Mismatched '" ++ String.singleton c ++ "' in " ++ quote text
  | unclosedStage text => "Unclosed stage in " ++ quote text
  | emptySet kind => "Empty " ++ kind ++ " set"
  | emptyItem kind => "Empty item in " ++ kind ++ " set"
  | notInteger text => "Not an integer: " ++ quote text
  | notNumber text => "Not a number: " ++ quote text
  | notMap text => "Not a map literal: " ++ quote text
  | functionReference text => "Invalid function reference: " ++ quote text
  | missingValue name => "Missing value for " ++ Text.quotedString name
  | openString text => "Unterminated string: " ++ quote text
  | invalidValue name text =>
    "Invalid value for " ++ Text.quotedString name ++ ": " ++ quote text
  | operationName name => "Invalid operation name: " ++ quote name
  | emptyText => "Empty derive string"
  | expectedStage position text =>
    "Expected a stage at " ++ toString position ++ " in " ++ quote text
  | noOperations stage => "Stage " ++ Text.quotedString stage ++ " has no operations"
  | equalShape text => "Equal expects Kind>>value, got " ++ quote text
  | equalKind kind => "Unknown Equal kind " ++ quote kind
  | equalSingle text => "Equal expects a single value, got " ++ quote text
  | clause text => "Malformed domain clause " ++ quote text
  | noAlternatives => "Either needs at least one operation"
  | combinator name => "Unknown combinator " ++ Text.quotedString name

end Malformed

/-- What reading a rule may fail with. The text is malformed, or it is well formed and holds an
    integer with too many digits, a map with a key that can change, or a sum with an integer that is
    beyond the binary64 numbers. -/
inductive Misread where
  | malformed (m : Malformed)
  | integer (e : Number.IntMisread)
  | unhashable (typeName : String)
  | overflow
  deriving DecidableEq

end Intake.Rule
