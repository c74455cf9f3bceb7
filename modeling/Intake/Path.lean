import Intake.Fault
import Intake.Text.Blank
import Intake.Text.Digit
import Intake.Text.Pieces

/-!
# Paths

A path leads from a value to a value inside it: through maps and records by name, through lists by
index. Its segments are separated by points or double colons. A path whose first segment is `root`
begins at the input as a whole.

A value is present at a path when every segment leads somewhere and the value found is not null.
-/

namespace Intake

open Text

/-- A path: whether it begins at the input as a whole, and the segments behind. -/
structure Path where
  anchored : Bool
  segments : List String
  deriving DecidableEq, Repr

namespace Path

/-- The segment that anchors a path. -/
def anchor : String := "root"

/-- The segments of a text, empty ones left out. -/
def segmentsOf (s : List Char) : List String :=
  ((splitAt '.' (exchange "::".toList ['.'] (trim s))).filter (!·.isEmpty)).map String.ofList

/-- The path a text denotes. -/
def ofString (s : String) : Path :=
  match segmentsOf s.toList with
  | [] => ⟨false, []⟩
  | first :: rest => if first == anchor then ⟨true, rest⟩ else ⟨false, first :: rest⟩

/-- The index that a segment gives into a list of so many items: a negative one counts from the end.
    There is none when the segment is no index or the index lies outside. -/
def index? (segment : String) (length : Nat) : Except Number.IntMisread (Option Nat) :=
  let digits := segment.toList.dropWhile (· == '-')
  if digits.isEmpty || !digits.all isDigitForm then .ok none
  else
    (Number.readInt 10 segment.toList).map fun (n : Int) =>
      if 0 ≤ n && n < length then some n.toNat
      else if n < 0 && -(length : Int) ≤ n then some (n + length).toNat
      else none

/-- The item a segment leads to in a list. -/
def item? (segment : String) (items : List Value) :
    Except Number.IntMisread (Option Value) :=
  (index? segment items.length).map fun i? => i?.bind fun i => items[i]?

/-- The value a segment leads to. -/
def step (segment : String) : Value → Except Number.IntMisread (Option Value)
  | .map entries => .ok (Value.findText? segment entries)
  | .record _ fields => .ok (fields.lookup segment)
  | .list items => item? segment items
  | .tuple items => item? segment items
  | _ => .ok none

/-- The value segments lead to, if every segment leads somewhere. -/
def walk : List String → Value → Except Number.IntMisread (Option Value)
  | [], v => .ok (some v)
  | segment :: rest, v =>
    match step segment v with
    | .error e => .error e
    | .ok none => .ok none
    | .ok (some w) => walk rest w

/-- The value present where segments lead. -/
def find (segments : List String) (v : Value) : Except Fault (Option Value) :=
  match walk segments v with
  | .error e => .error (.index e)
  | .ok found => .ok (found.filter (!·.isNull))

/-- The value present at a path that begins at `here`, or at `root` if it is anchored. -/
def resolve (p : Path) (here root : Value) : Except Fault (Option Value) :=
  find p.segments (if p.anchored then root else here)

end Path

end Intake
