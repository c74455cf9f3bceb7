import Intake.Fault
import Intake.Rule.Syntax

/-!
# Verdicts

What a check finds about a value: it passes, perhaps normalized, or it is rejected with a message
and what was expected of it.
-/

namespace Intake.Check

open Intake.Rule

/-- The finding of a check. A passing value may be normalized; a rejection may carry a payload of
    its own. -/
inductive Verdict where
  | pass (normalized : Option Value)
  | reject (message : String) (constraint : Option String) (expected : Argument) (actual : Value)
      (payload : Option Failure.Payload)

namespace Verdict

/-- The value passes as it is. -/
def valid : Verdict := pass none

/-- A rejection with a message only. -/
def because (message : String) : Verdict :=
  reject message none .none .null none

/-- A rejection that tells the value. -/
def ofValue (message : String) (v : Value) : Verdict :=
  reject message none .none v none

/-- A rejection that tells what was expected, as a text, and what was found. -/
def expecting (message expected : String) (actual : Value) : Verdict :=
  reject message none (.literal (.text expected)) actual none

/-- The rejection of a value of another type. -/
def ofType (expected : String) (v : Value) : Verdict :=
  expecting ("Expected " ++ expected ++ ", got " ++ v.typeName) expected (.text v.typeName)

/-- The verdict is that the value passes. -/
def isPass : Verdict → Bool
  | pass _ => true
  | reject _ _ _ _ _ => false

/-- A value that passes under a condition, else is rejected for its type. -/
def typed (passes : Bool) (expected : String) (v : Value) : Verdict :=
  if passes then valid else ofType expected v

end Verdict

end Intake.Check
