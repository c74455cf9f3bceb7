import Intake.Failure.Rendering
import Intake.Value.Equality

/-!
# Replies

What a function supplied by the user answers: a plain value, a value accepted, or a refusal, which
gives an error value or a payload of failures.
-/

namespace Intake

/-- The answer of a function supplied by the user. -/
inductive Reply where
  | plain (v : Value)
  | ok (v : Value)
  | err (v : Value)
  | refused (p : Failure.Payload)

namespace Reply

/-- The form of what a reply holds. -/
def contentForm : Reply → String
  | plain v => v.form
  | ok v => v.form
  | err v => v.form
  | refused p => p.form

/-- The form of a reply. -/
def form : Reply → String
  | plain v => v.form
  | ok v => "Ok(value=" ++ v.form ++ ")"
  | err v => "Err(error=" ++ v.form ++ ")"
  | refused p => "Err(error=" ++ p.form ++ ")"

/-- Equality of replies. -/
def equals : Reply → Reply → Bool
  | plain v, plain w => v.equals w
  | ok v, ok w => v.equals w
  | err v, err w => v.equals w
  | refused p, refused q => p.equals q
  | _, _ => false

/-- The reply holds an integer that is too long to be written. -/
def isTooLong : Reply → Bool
  | plain v => v.isTooLong
  | ok v => v.isTooLong
  | err v => v.isTooLong
  | refused _ => false

/-- The value accepted, changed by a function; refusals stay. -/
def mapOk (f : Value → Value) : Reply → Reply
  | ok v => ok (f v)
  | r => r

/-- The value accepted, else the fallback. -/
def getOr (fallback : Value) : Reply → Value
  | ok v => v
  | _ => fallback

end Reply

end Intake
