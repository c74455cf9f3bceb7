import Intake.Text.Casing
import Intake.Value.Rendering

/-!
# Scrubbing

Before an event is logged, what is stored under a key that tells of a secret is masked, in the event
and in the maps and lists inside it. Only the outer levels are looked at; what lies deeper stays as
it is.
-/

namespace Intake.Log

open Intake.Text

/-- What is logged in place of a secret. -/
def mask : Value := .text "[REDACTED]"

/-- The keys that tell of a secret. -/
def sensitive : List String := ["password", "token", "secret", "authorization", "cookie"]

/-- The key tells of a secret, in any case of its letters. -/
def isSensitive (key : Value) : Bool :=
  sensitive.contains (lowerString key.plain)

/-- The number of levels below the event that are looked at. -/
def levels : Nat := 5

mutual
/-- The value with secrets masked, at a depth below the event. Lists and tuples become lists. -/
def scrubAt (depth : Nat) (v : Value) : Value :=
  match v with
  | .map entries => if levels < depth then .map entries else .map (scrubEntries depth entries)
  | .list items => if levels < depth then .list items else .list (scrubItems depth items)
  | .tuple items => if levels < depth then .tuple items else .list (scrubItems depth items)
  | v => v
termination_by structural v

/-- The entries of a map at a depth, with secrets masked. -/
def scrubEntries (depth : Nat) (es : List (Value × Value)) : List (Value × Value) :=
  match es with
  | [] => []
  | (k, v) :: rest =>
    (k, if isSensitive k then mask else scrubAt (depth + 1) v) :: scrubEntries depth rest
termination_by structural es

/-- The items of a list at a depth, with secrets masked. -/
def scrubItems (depth : Nat) (vs : List Value) : List Value :=
  match vs with
  | [] => []
  | v :: rest => scrubAt (depth + 1) v :: scrubItems depth rest
termination_by structural vs
end

/-- The event with secrets masked. -/
def scrub (v : Value) : Value :=
  scrubAt 0 v

end Intake.Log
