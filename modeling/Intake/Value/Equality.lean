import Intake.Value.Rendering

/-!
# Equality of values

Numbers of all types are compared by their value, truth values counting as zero and one; what is
not a number equals nothing. Collections are compared by their parts, maps and sets without regard
to order. Two members of an enumeration are equal when they are the same member.
-/

namespace Intake

namespace Value

/-- The integer a truth value counts as. -/
def ofBool (b : Bool) : Int :=
  if b then 1 else 0

/-- Equality of values of which neither is a collection. -/
def scalarEquals : Value → Value → Bool
  | .null, .null => true
  | .ellipsis, .ellipsis => true
  | .bool a, .bool b => a == b
  | .bool a, .int n => ofBool a == n
  | .int m, .bool b => m == ofBool b
  | .int m, .int n => m == n
  | .bool a, .float y => y.equalsInt (ofBool a)
  | .float x, .bool b => x.equalsInt (ofBool b)
  | .int m, .float y => y.equalsInt m
  | .float x, .int n => x.equalsInt n
  | .float x, .float y => x.equals y
  | .bool a, .complex x y => x.equalsInt (ofBool a) && y.isZero
  | .complex x y, .bool b => x.equalsInt (ofBool b) && y.isZero
  | .int m, .complex x y => x.equalsInt m && y.isZero
  | .complex x y, .int n => x.equalsInt n && y.isZero
  | .float z, .complex x y => z.equals x && y.isZero
  | .complex x y, .float z => x.equals z && y.isZero
  | .complex x y, .complex z w => x.equals z && y.equals w
  | .text s, .text t => s == t
  | .bytes s, .bytes t => s == t
  | .symbol k m v, .symbol l n w => k == l && m == n && v.form == w.form
  | .uuid u, .uuid v => u == v
  | .date d, .date e => d == e
  | .moment m, .moment n => m.equals n
  | .time s, .time t => s.equals t
  | _, _ => false

mutual
/-- Equality of values. -/
def equals (a b : Value) : Bool :=
  match a, b with
  | .list xs, .list ys => listEquals xs ys
  | .tuple xs, .tuple ys => listEquals xs ys
  | .set _ xs, .set _ ys => xs.length == ys.length && allIn xs ys
  | .map xs, .map ys => xs.length == ys.length && entriesIn xs ys
  | .record m xs, .record n ys => m == n && xs.length == ys.length && fieldsIn xs ys
  | a, b => scalarEquals a b
termination_by structural a

/-- The lists are equally long and equal item by item. -/
def listEquals (xs ys : List Value) : Bool :=
  match xs, ys with
  | [], [] => true
  | x :: xs, y :: ys => equals x y && listEquals xs ys
  | _, _ => false
termination_by structural xs

/-- Every value of the first list equals one of the second. -/
def allIn (xs ys : List Value) : Bool :=
  match xs with
  | [] => true
  | x :: xs => ys.any (fun y => equals x y) && allIn xs ys
termination_by structural xs

/-- Every entry of the first map equals one of the second. -/
def entriesIn (xs ys : List (Value × Value)) : Bool :=
  match xs with
  | [] => true
  | (k, v) :: xs => ys.any (fun e => equals k e.1 && equals v e.2) && entriesIn xs ys
termination_by structural xs

/-- Every field of the first record equals one of the second. -/
def fieldsIn (xs ys : List (String × Value)) : Bool :=
  match xs with
  | [] => true
  | (name, v) :: xs => ys.any (fun f => name == f.1 && equals v f.2) && fieldsIn xs ys
termination_by structural xs
end

/-- One of the values equals the value. -/
def isIn (v : Value) (items : List Value) : Bool :=
  items.any fun item => item.equals v

/-- The value under the key of a map's entries. -/
def find? (key : Value) (entries : List (Value × Value)) : Option Value :=
  (entries.find? fun e => e.1.equals key).map (·.2)

/-- The value under a text key of a map's entries. -/
def findText? (key : String) (entries : List (Value × Value)) : Option Value :=
  find? (text key) entries

/-- The entries with the value under the key replaced, or with a new entry at the end. -/
def insert (key value : Value) : List (Value × Value) → List (Value × Value)
  | [] => [(key, value)]
  | e :: rest =>
    if e.1.equals key then (e.1, value) :: rest else e :: insert key value rest

/-- The entries without the one under the key. -/
def erase (key : Value) (entries : List (Value × Value)) : List (Value × Value) :=
  entries.filter fun e => !e.1.equals key

end Value

end Intake
