import Intake.Path
import Intake.Schema.Basic

/-!
# The order of evaluation

The entries of a node are evaluated one after the other, each as soon as the entries it copies from
are done. Among those that may come next, plain fields come before copying ones, and these before
fields with nodes below them and groups; otherwise the order of declaration decides. When each
entry left waits for another one, the same choice is made among all of them.

At the root, a path anchored there makes an entry wait as well, also when it is declared anywhere
below the entry.
-/

namespace Intake.Schema

/-- What the place of an item in the order depends on: its name, its stage, and the names of the
    items it copies from. -/
structure Slot where
  name : String
  stage : Nat
  sources : List String

namespace Slot

/-- An item with the names it waits for and its rank among those that may come next. -/
structure Pending (α : Type) where
  item : α
  name : String
  position : Nat
  waits : List String
  rank : Nat × Nat

namespace Pending

variable {α : Type}

/-- Nothing the item waits for is missing among the names done. -/
def isReady (done : List String) (p : Pending α) : Bool :=
  p.waits.all done.contains

/-- The rank is not above that of another item. -/
def isBefore (p q : Pending α) : Bool :=
  p.rank.1 < q.rank.1 || (p.rank.1 == q.rank.1 && p.rank.2 ≤ q.rank.2)

/-- The first item of lowest rank. -/
def first (p : Pending α) : List (Pending α) → Pending α
  | [] => p
  | q :: rest => first (if p.isBefore q then p else q) rest

/-- The items among which the next one is chosen: those that are ready, or all if none is. -/
def choices (done : List String) (ps : List (Pending α)) : List (Pending α) :=
  if ps.any (isReady done) then ps.filter (isReady done) else ps

/-- The item that comes next when the names in `done` are done. -/
def next? (done : List String) (ps : List (Pending α)) : Option (Pending α) :=
  match choices done ps with
  | [] => none
  | p :: rest => some (first p rest)

/-- The items in the order of evaluation, as many as `count` says. -/
def arrange (done : List String) (ps : List (Pending α)) : Nat → List α
  | 0 => []
  | count + 1 =>
    match next? done ps with
    | none => []
    | some p =>
      p.item :: arrange (p.name :: done) (ps.filter (·.position != p.position)) count

end Pending

variable {α : Type}

/-- The last of the slots with a name, and its position. -/
def named? (name : String) (slots : List (Slot × Nat)) : Option (Slot × Nat) :=
  slots.reverse.find? (·.1.name == name)

/-- The items, each with what it waits for among the others. Items of one name share what the last
    of them waits for, and its rank. -/
def pending (slot : α → Slot) (items : List α) : List (Pending α) :=
  let slots := (items.map slot).zipIdx
  items.zipIdx.map fun (item, position) =>
    let (own, index) := (named? (slot item).name slots).getD (slot item, position)
    { item, position, name := own.name,
      waits := own.sources.filter fun n => n != own.name && slots.any (·.1.name == n),
      rank := (own.stage, index) }

/-- The items in the order of evaluation. -/
def arrange (slot : α → Slot) (items : List α) : List α :=
  Pending.arrange [] (pending slot items) items.length

end Slot

/-- The first segment of a path, where the path counts: an anchored one does at the root only. -/
def sourceOf (atRoot : Bool) (path : String) : List String :=
  let p := Path.ofString path
  if atRoot || !p.anchored then p.segments.take 1 else []

/-- The first segment of a path that is anchored at the root. -/
def anchoredSourceOf (path : String) : List String :=
  let p := Path.ofString path
  if p.anchored then p.segments.take 1 else []

mutual
/-- The names at the root that fields of a node, or below it, copy from. -/
def Node.anchoredSources (n : Node) : List String :=
  match n with
  | ⟨_, entries, _, _, _, _, _, _⟩ => anchoredSourcesOf entries
termination_by structural n

/-- The names at the root that fields of entries, or below them, copy from. -/
def anchoredSourcesOf (es : List Entry) : List String :=
  match es with
  | [] => []
  | e :: rest => e.anchoredSources ++ anchoredSourcesOf rest
termination_by structural es

/-- The names at the root that an entry copies from, there or below. -/
def Entry.anchoredSources (e : Entry) : List String :=
  match e with
  | .field f => f.anchoredSources
  | .group g => g.anchoredSources
termination_by structural e

/-- The names at the root that candidates copy from, there or below. -/
def Group.anchoredSources (g : Group) : List String :=
  match g with
  | ⟨_, candidates, _⟩ => anchoredSourcesIn candidates
termination_by structural g

/-- The names at the root that fields copy from, there or below. -/
def anchoredSourcesIn (fs : List Field) : List String :=
  match fs with
  | [] => []
  | f :: rest => f.anchoredSources ++ anchoredSourcesIn rest
termination_by structural fs

/-- The names at the root that a field copies from, there or below. -/
def Field.anchoredSources (f : Field) : List String :=
  match f with
  | ⟨_, _, _, _, _, _, _, _, _, source, child⟩ =>
    (source.elim [] anchoredSourceOf) ++ child.anchoredSources
termination_by structural f

/-- The names at the root that the node below a field copies from. -/
def Child.anchoredSources (c : Child) : List String :=
  match c with
  | .none => []
  | .single n => n.anchoredSources
  | .many n => n.anchoredSources
termination_by structural c
end

/-- The names of the entries a field copies from. -/
def Field.sources (atRoot : Bool) (f : Field) : List String :=
  (f.source.elim [] (sourceOf atRoot)) ++ (if atRoot then f.child.anchoredSources else [])

namespace Entry

/-- The stage of an entry: plain, copying, or with nodes below. -/
def stage : Entry → Nat
  | field f => if f.isComposite then 2 else if f.copied?.isSome then 1 else 0
  | group _ => 2

/-- The slot of an entry in the order of its node. -/
def slot (atRoot : Bool) (e : Entry) : Slot :=
  ⟨e.name, e.stage, e.fields.flatMap (Field.sources atRoot)⟩

end Entry

/-- The entries of a node in the order of evaluation. -/
def evaluationOrder (atRoot : Bool) (entries : List Entry) : List Entry :=
  Slot.arrange (Entry.slot atRoot) entries

end Intake.Schema
