import Intake.Schema.Basic
import Intake.Text.Casing

/-!
# Drafts

A schema as it is written down: names that may be no names, rules and clauses as texts, and values
that stand where something to call or an entry is asked for. A draft is made a schema by authoring
it.
-/

namespace Intake.Schema

mutual
/-- A field as it is written down. -/
structure FieldDraft where
  name : Value
  typeTag : String
  enforce : Option Bool
  default : Option Value
  rule : Option String
  domain : Option String
  validator : Option (Hook Validator)
  auto : Option (Hook Auto)
  gate : Option String
  source : Option String
  nested : Option NodeDraft
  nestedList : Option NodeDraft

/-- A candidate of a group: a field, a node that is made a field of the group's name, or some other
    value. -/
inductive CandidateDraft where
  | field (f : FieldDraft)
  | node (n : NodeDraft)
  | inert (v : Value)

/-- An entry as it is written down: a field, a group, or some other value. -/
inductive EntryDraft where
  | field (f : FieldDraft)
  | group (name : Value) (candidates : List CandidateDraft) (enforce : Option Bool)
  | inert (v : Value)

/-- A node as it is written down. -/
structure NodeDraft where
  name : String
  entries : List EntryDraft
  enforce : Option Bool
  closed : Bool
  raises : Bool
  main : Option (Hook Function)
  validator : Option (Hook Validator)
  functions : Functions
end

/-- The name of the node below a field, made of the name of the field: its words without the
    underscores between them, each capitalized. -/
def nodeName (field : String) : String :=
  String.ofList ((Text.title field.toList).filter (· != '_'))

namespace FieldDraft

/-- The field with a node below it that is written down together with the field. The node is named
    after the field. Whether it is enforced, and its validator, are those of the field, unless the
    field has its own. -/
def composite (name : String) (many : Bool) (node : NodeDraft) (f : FieldDraft) : FieldDraft :=
  let child := { node with name := nodeName name, enforce := none, validator := none }
  { f with
    name := .text name
    typeTag := if many then "list" else "map"
    enforce := f.enforce.or node.enforce
    validator := f.validator.or node.validator
    nested := if many then none else some child
    nestedList := if many then some child else none }

end FieldDraft

end Intake.Schema
