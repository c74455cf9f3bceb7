import Intake.Schema.Basic

/-!
# Keys

The names a schema declares, through all its nodes. A name with a node below it comes with the keys
of that node; a group comes with those of each of its candidates that has a node below it.
-/

namespace Intake.Schema

/-- A name and what is declared below it: nothing, the keys of a node, or those of several nodes. -/
inductive Key where
  | leaf (name : String)
  | node (name : String) (below : List Key)
  | choice (name : String) (below : List (List Key))

namespace Key

/-- The key of a name with nodes below it. -/
def ofBelow (name : String) : List (List Key) → Key
  | [] => leaf name
  | [below] => node name below
  | several => choice name several

/-- The name of a key. -/
def name : Key → String
  | leaf n => n
  | node n _ => n
  | choice n _ => n

end Key

mutual
/-- The keys of a node. -/
def Node.keys (n : Node) : List Key :=
  match n with
  | ⟨_, entries, _, _, _, _, _, _⟩ => keysOf entries
termination_by structural n

/-- The keys of entries. -/
def keysOf (es : List Entry) : List Key :=
  match es with
  | [] => []
  | e :: rest => e.key :: keysOf rest
termination_by structural es

/-- The key of an entry. -/
def Entry.key (e : Entry) : Key :=
  match e with
  | .field f => .ofBelow f.name f.keysBelow
  | .group g => g.key
termination_by structural e

/-- The key of a group. -/
def Group.key (g : Group) : Key :=
  match g with
  | ⟨name, candidates, _⟩ => .ofBelow name (belowFields candidates)
termination_by structural g

/-- The keys of the nodes below fields. -/
def belowFields (fs : List Field) : List (List Key) :=
  match fs with
  | [] => []
  | f :: rest => f.keysBelow ++ belowFields rest
termination_by structural fs

/-- The keys of the node below a field, if there is one. -/
def Field.keysBelow (f : Field) : List (List Key) :=
  match f with
  | ⟨_, _, _, _, _, _, _, _, _, _, child⟩ => child.keysBelow
termination_by structural f

/-- The keys of the node below a field, if there is one. -/
def Child.keysBelow (c : Child) : List (List Key) :=
  match c with
  | .none => []
  | .single n => [n.keys]
  | .many n => [n.keys]
termination_by structural c
end

/-- The keys of the required entries of a node, with everything declared below them. -/
def Node.requiredKeys (n : Node) : List Key :=
  (n.entries.filter (Entry.isRequired n.enforce)).map Entry.key

end Intake.Schema
