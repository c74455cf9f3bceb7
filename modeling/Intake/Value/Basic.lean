import Intake.Calendar.Basic
import Intake.Number.Reading
import Intake.Uuid

/-!
# Values

The values an input is made of and the values a build makes of it: scalars, collections, members
of enumerations, and the records that stand for accepted nodes. The type of a value is one of these
and no type derived from it; so a member of an enumeration is not a text or a number as well.
-/

namespace Intake

/-- A value. Maps keep the order of their entries, and the keys of a map are pairwise unequal. -/
inductive Value where
  | null
  | ellipsis
  | bool (b : Bool)
  | int (n : Int)
  | float (x : Number.Binary64)
  | complex (re im : Number.Binary64)
  | text (s : String)
  | bytes (bs : List UInt8)
  | list (items : List Value)
  | tuple (items : List Value)
  | set (frozen : Bool) (items : List Value)
  | map (entries : List (Value × Value))
  | symbol (kind : String) (member : String) (value : Value)
  | uuid (u : Uuid)
  | date (d : Calendar.Date)
  | moment (m : Calendar.Moment)
  | time (t : Calendar.Time)
  | record (name : String) (fields : List (String × Value))

namespace Value

instance : Inhabited Value := ⟨null⟩

/-- The name of the value's type. -/
def typeName : Value → String
  | null => "NoneType"
  | ellipsis => "ellipsis"
  | bool _ => "bool"
  | int _ => "int"
  | float _ => "float"
  | complex _ _ => "complex"
  | text _ => "str"
  | bytes _ => "bytes"
  | list _ => "list"
  | tuple _ => "tuple"
  | set frozen _ => if frozen then "frozenset" else "set"
  | map _ => "dict"
  | symbol kind _ _ => kind
  | uuid _ => "UUID"
  | date _ => "date"
  | moment _ => "datetime"
  | time _ => "time"
  | record name _ => name

/-- The name of the value's type as faults show it: the types of the calendar stand in a module. -/
def fullTypeName : Value → String
  | date _ => "datetime.date"
  | moment _ => "datetime.datetime"
  | time _ => "datetime.time"
  | v => v.typeName

/-- The value is null. -/
def isNull : Value → Bool
  | null => true
  | _ => false

/-- The value is a text. -/
def isText : Value → Bool
  | text _ => true
  | _ => false

/-- The value is a map. -/
def isMap : Value → Bool
  | map _ => true
  | _ => false

/-- The value counts as empty: null, the empty text and empty collections. -/
def isEmpty : Value → Bool
  | null => true
  | text s => s == ""
  | list items => items.isEmpty
  | tuple items => items.isEmpty
  | set _ items => items.isEmpty
  | map entries => entries.isEmpty
  | _ => false

/-- The value counts as false where a truth value is asked for. -/
def isFalsy : Value → Bool
  | bool b => !b
  | int n => n == 0
  | float x => x.isZero
  | complex x y => x.isZero && y.isZero
  | bytes bs => bs.isEmpty
  | v => v.isEmpty

mutual
/-- The type of the first collection in the value that can change. A value without one may be a key
    of a map or an item of a set. -/
def changeable? (v : Value) : Option String :=
  match v with
  | .list _ => some "list"
  | .map _ => some "dict"
  | .set frozen _ => if frozen then none else some "set"
  | .tuple items => changeableIn? items
  | _ => none
termination_by structural v

/-- The type of the first collection in the values that can change. -/
def changeableIn? (vs : List Value) : Option String :=
  match vs with
  | [] => none
  | v :: rest => v.changeable?.or (changeableIn? rest)
termination_by structural vs
end

mutual
/-- The value holds an integer that is too long to be written. -/
def isTooLong (v : Value) : Bool :=
  match v with
  | .int n => Number.isTooLong n
  | .list items => areTooLong items
  | .tuple items => areTooLong items
  | .set _ items => areTooLong items
  | .map entries => entriesTooLong entries
  | .symbol _ _ value => value.isTooLong
  | .record _ fields => fieldsTooLong fields
  | _ => false
termination_by structural v

/-- One of the values holds an integer that is too long. -/
def areTooLong (vs : List Value) : Bool :=
  match vs with
  | [] => false
  | v :: rest => v.isTooLong || areTooLong rest
termination_by structural vs

/-- A key or value of the entries holds an integer that is too long. -/
def entriesTooLong (es : List (Value × Value)) : Bool :=
  match es with
  | [] => false
  | (k, v) :: rest => k.isTooLong || v.isTooLong || entriesTooLong rest
termination_by structural es

/-- A field holds an integer that is too long. -/
def fieldsTooLong (fs : List (String × Value)) : Bool :=
  match fs with
  | [] => false
  | (_, v) :: rest => v.isTooLong || fieldsTooLong rest
termination_by structural fs
end

end Value

end Intake
