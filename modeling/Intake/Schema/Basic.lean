import Intake.Domain.Clause
import Intake.Journal

/-!
# Schemas

A schema is a tree of nodes. A node declares entries under names of their own: an entry is a field,
or a group of alternatives, which are fields of one name. A field whose value is a node itself, or a
list of nodes, has a child.

Required are the entries that are enforced, by themselves or by their node, and have no default.
-/

namespace Intake.Schema

/-- How the value of a field is generated: the generator, and the argument it is given. -/
structure Auto where
  generator : Generator
  argument : Option Value

mutual
/-- A field. Its rule cleans and checks a value, its clauses tie a present value to other places of
    the input, and its validator is asked in place of that of the node. A field with a gate is
    looked at only if something is present at this path; one that was not sent is copied from its
    source, or generated. -/
structure Field where
  name : String
  typeTag : String
  enforce : Option Bool
  default : Option Value
  rule : Rule.Stages
  clauses : List Domain.Clause
  validator : Option Validator
  auto : Option Auto
  gate : Option String
  source : Option String
  child : Child

/-- What stands below a field. -/
inductive Child where
  | none
  | single (node : Node)
  | many (node : Node)

/-- A group of alternatives. -/
structure Group where
  name : String
  candidates : List Field
  enforce : Option Bool

/-- An entry of a node. -/
inductive Entry where
  | field (f : Field)
  | group (g : Group)

/-- A node: its entries, and its options. A node that is closed refuses names it does not declare,
    and a node that raises ends the run when it fails. The main validator is given all values of
    the node at once. -/
structure Node where
  name : String
  entries : List Entry
  enforce : Bool
  closed : Bool
  raises : Bool
  main : Option (Hook Function)
  validator : Option (Hook Validator)
  functions : Functions
end

namespace Child

/-- The node below a field. -/
def node? : Child → Option Node
  | none => .none
  | single n => some n
  | many n => some n

end Child

namespace Field

/-- The field has a node or a list of nodes for its value. -/
def isComposite (f : Field) : Bool :=
  f.child.node?.isSome

/-- The path a value is copied from. -/
def copied? (f : Field) : Option String :=
  f.source.filter (!·.isEmpty)

/-- The path that has to be present. -/
def gated? (f : Field) : Option String :=
  f.gate.filter (!·.isEmpty)

end Field

namespace Entry

/-- The name of an entry. -/
def name : Entry → String
  | field f => f.name
  | group g => g.name

/-- Whether the entry is enforced, where it says so itself. -/
def enforce : Entry → Option Bool
  | field f => f.enforce
  | group g => g.enforce

/-- The default of an entry. A group has none. -/
def default : Entry → Option Value
  | field f => f.default
  | group _ => none

/-- The fields of an entry: itself, or the candidates of a group. -/
def fields : Entry → List Field
  | field f => [f]
  | group g => g.candidates

/-- The entry is required in a node that enforces its entries, or does not. -/
def isRequired (enforced : Bool) (e : Entry) : Bool :=
  e.enforce.getD enforced && e.default.isNone

end Entry

namespace Node

/-- The names a node declares. -/
def names (n : Node) : List String :=
  n.entries.map Entry.name

/-- The names a node requires. -/
def required (n : Node) : List String :=
  (n.entries.filter (Entry.isRequired n.enforce)).map Entry.name

/-- What the entries are when nothing is given for them. -/
def defaults (n : Node) : List (String × Value) :=
  n.entries.map fun e => (e.name, e.default.getD .null)

end Node

end Intake.Schema
