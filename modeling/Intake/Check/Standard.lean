import Intake.Check.Format

/-!
# Standard checks

The checks of type, size and membership, and the table of all checks that need no function of the
user.
-/

namespace Intake.Check

open Intake.Rule Intake.Text

/-- The check that a value is not empty; a text of blanks is. -/
def notEmpty (v : Value) : Verdict :=
  match v with
  | .null => .expecting "Value cannot be empty" "non-empty value" .null
  | .text s =>
    if allBlank s.toList then
      .expecting "String cannot be empty" "non-empty string" (.text "empty string")
    else .valid
  | _ =>
    if v.isEmpty then
      .expecting "Collection cannot be empty" "non-empty collection" (.text "empty")
    else .valid

/-- The size of a value: the number itself, else the length of a text or collection. Truth values
    have none. -/
def measure? : Value → Option Value
  | .int n => some (.int n)
  | .float x => some (.float x)
  | .text s => some (.int s.length)
  | .list items => some (.int items.length)
  | .tuple items => some (.int items.length)
  | .set _ items => some (.int items.length)
  | .map entries => some (.int entries.length)
  | _ => none

/-- The size is above the bound. -/
def isAbove (size : Value) (bound : Int) : Bool :=
  match size with
  | .int n => decide (bound < n)
  | .float x => x.aboveInt bound
  | _ => false

/-- The size is below the bound. -/
def isBelow (size : Value) (bound : Int) : Bool :=
  match size with
  | .int n => decide (n < bound)
  | .float x => x.belowInt bound
  | _ => false

/-- The integer a bound stands for; truth values count as zero and one. -/
def boundOf? : Argument → Option (Value × Int)
  | .literal (.int n) => some (.int n, n)
  | .literal (.bool b) => some (.bool b, Value.ofBool b)
  | _ => none

/-- The check of a size against a bound. -/
def sized (name relation : String) (fails : Value → Int → Bool) (sign : String)
    (bound : Argument) (v : Value) : Except Fault Verdict :=
  match boundOf? bound with
  | none => .ok (.because (name ++ " requires an integer limit"))
  | some (limit, n) =>
    match measure? v with
    | none => .ok (.ofType "string, collection or number" v)
    | some size =>
      if fails size n then do
        let sizeText ← size.show
        let limitText ← limit.show
        return .expecting ("Size " ++ sizeText ++ relation ++ limitText) (sign ++ limitText) size
      else .ok .valid

/-- The check that a size does not exceed a bound. -/
def maxLen : Argument → Value → Except Fault Verdict :=
  sized "max_len" " exceeds maximum " isAbove "<= "

/-- The check that a size reaches a bound. -/
def minLen : Argument → Value → Except Fault Verdict :=
  sized "min_len" " is less than minimum " isBelow ">= "

/-- The check of membership in an enumeration. -/
def member (allowed : Argument) (v : Value) : Except Fault Verdict :=
  match allowed with
  | .members s =>
    if s.contains v then .ok .valid
    else do
      let shown ← v.show
      if Value.areTooLong s.items then throw .longInteger
      return .reject ("Value " ++ shown ++ " is not one of: " ++ s.plain) none
        (.literal (.list s.items)) v none
  | _ => .ok (.because "enum requires a Kind[...] set")

/-- The value equals what an argument stands for. -/
def equalsArgument (v : Value) (a : Argument) : Bool :=
  match a with
  | .none => v.isNull
  | .literal w => v.equals w
  | .operations [] => v.equals (.tuple [])
  | .changeable [] => v.equals (.list [])
  | _ => false

/-- A member of an enumeration type equals a text that is its name or its value. -/
def equalsSymbol (v : Value) (a : Argument) : Bool :=
  match v, a with
  | .symbol _ name value, .literal (.text s) => s == name || value.equals (.text s)
  | _, _ => false

/-- The check of equality. -/
def equal (expected : Argument) (v : Value) : Except Fault Verdict :=
  if equalsSymbol v expected || equalsArgument v expected then .ok .valid
  else do
    let shown ← v.show
    if expected.isTooLong then throw .longInteger
    return .reject ("Value " ++ shown ++ " must equal " ++ expected.form) none expected v none

/-- A check that depends on the value only. -/
abbrev PlainCheck := Value → Verdict

/-- The checks that depend on the value only. -/
def plainChecks : List (String × PlainCheck) :=
  [("string", fun v => .typed v.isText "string" v),
   ("integer", fun v => .typed (match v with | .int _ => true | _ => false) "integer" v),
   ("float", fun v => .typed (match v with | .float _ => true | _ => false) "float" v),
   ("boolean", fun v => .typed (match v with | .bool _ => true | _ => false) "boolean" v),
   ("list", fun v => .typed (match v with | .list _ => true | .tuple _ => true | _ => false)
      "list" v),
   ("map", fun v => .typed v.isMap "map" v),
   ("atom", fun v => .typed (match v with | .symbol _ _ _ => true | _ => false) "symbol" v),
   ("symbol", fun v => .typed (match v with | .symbol _ _ _ => true | _ => false) "symbol" v),
   ("uuid", uuid), ("datetime", moment), ("date", date), ("time", time), ("email", email),
   ("ipv4", ipv4), ("username", username), ("full_name", fullName), ("not_empty", notEmpty),
   ("string_boolean", stringBoolean), ("string_integer", stringInteger),
   ("string_float", stringFloat)]

/-- The checks that depend on an argument as well, or may end in a fault. -/
def fullChecks : List (String × (Argument → Value → Except Fault Verdict)) :=
  [("url", fun _ v => url v), ("regex", regex), ("max_len", maxLen), ("min_len", minLen),
   ("enum", member), ("equal", equal)]

/-- The names of the standard checks. -/
def names : List String :=
  plainChecks.map (·.1) ++ fullChecks.map (·.1)

/-- The standard check of a name. -/
def standard? (name : String) : Option (Argument → Value → Except Fault Verdict) :=
  match plainChecks.lookup name with
  | some f => some fun _ v => .ok (f v)
  | none => fullChecks.lookup name

end Intake.Check
