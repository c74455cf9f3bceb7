import Intake.Fault

/-!
# Trees

The input of a node as it is resolved: values under names, in order. A name stands for one value.
-/

namespace Intake

/-- Values under names. -/
abbrev Tree := List (String × Value)

namespace Tree

/-- The value under a name. -/
def get? (t : Tree) (name : String) : Option Value :=
  t.lookup name

/-- The tree holds something under the name, be it null. -/
def has (t : Tree) (name : String) : Bool :=
  (t.get? name).isSome

/-- The value under a name, unless it is null. -/
def sent? (t : Tree) (name : String) : Option Value :=
  (t.get? name).filter (!·.isNull)

/-- The tree with the value under the name replaced, or with a new name at the end. -/
def put (name : String) (v : Value) : Tree → Tree
  | [] => [(name, v)]
  | e :: rest => if e.1 == name then (name, v) :: rest else e :: put name v rest

/-- The names in the tree. -/
def names (t : Tree) : List String :=
  t.map (·.1)

/-- The tree as a map. -/
def toValue (t : Tree) : Value :=
  .map (t.map fun e => (.text e.1, e.2))

/-- The name a key of a map stands for: its plain text, for a member of an enumeration that of its
    value. -/
def nameOf : Value → String
  | .symbol _ _ value => value.plain
  | key => key.plain

/-- The tree of the entries of a map. Of keys that stand for one name the last gives the value. -/
def ofEntries (entries : List (Value × Value)) : Tree :=
  entries.foldl (fun t e => t.put (nameOf e.1) e.2) []

/-- The tree of the entries of a map, where all its keys can be written. -/
def read (entries : List (Value × Value)) : Except Fault Tree :=
  if entries.any (·.1.isTooLong) then .error .longInteger else .ok (ofEntries entries)

end Tree

end Intake
