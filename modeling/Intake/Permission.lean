import Intake.Fault
import Intake.Text.Pieces

/-!
# Permissions

A permission consists of segments between colons, such as `users:edit`. A granted permission covers
an action when its segments match those of the action one by one; a star matches any segment, and
a star at the end all that is left of the action.
-/

namespace Intake.Permission

open Intake.Text

/-- The separator of segments. -/
def separator : Char := ':'

/-- The segment that matches any other. -/
def wildcard : List Char := ['*']

/-- The text before each of the first separators, at most `count` of them, and all that is left. -/
def splitUpTo : Nat → List Char → List (List Char)
  | 0, s => [s]
  | count + 1, s =>
    match cutAt separator s with
    | (first, some rest) => first :: splitUpTo count rest
    | (last, none) => [last]

/-- The segment of a grant matches the segment of an action. -/
def matchesSegment (granted asked : List Char) : Bool :=
  granted == wildcard || granted == asked

/-- The granted permission covers the action. The action is taken apart no further than the
    grant. -/
def covers (granted action : String) : Bool :=
  let gs := splitAt separator granted.toList
  let as := splitUpTo (gs.length - 1) action.toList
  gs.length == as.length && (gs.zip as).all fun (g, a) => matchesSegment g a

/-- The text of a value that has to be one. -/
def textOf : Value → Except Fault String
  | .text s => .ok s
  | .bytes _ => .error .bytesWanted
  | v => .error (.noAttribute v.fullTypeName "split")

/-- The permission that a value grants: a text, or the text that a map, a record or a member of an
    enumeration has for its value. -/
def granted : Value → Except Fault String
  | .text s => .ok s
  | .map entries =>
    match Value.findText? "value" entries with
    | some v => textOf v
    | none => .error (.noKey "value")
  | .symbol _ _ v => textOf v
  | .record kind fields =>
    match fields.lookup "value" with
    | some v => textOf v
    | none => .error (.noAttribute kind "value")
  | v => .error (.noAttribute v.fullTypeName "value")

/-- One of the grants covers the action. Those behind it are not looked at. -/
def permits (action : String) : List Value → Except Fault Bool
  | [] => .ok false
  | grant :: rest => do
    let permission ← granted grant
    if covers permission action then return true else permits action rest

end Intake.Permission
