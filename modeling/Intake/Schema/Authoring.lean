import Intake.Rule.Reading
import Intake.Schema.Draft

/-!
# Authoring

A draft becomes a schema when it is authored: children before the field they are below, entries
before the node that declares them, and in the order in which they are written down. The first
flaw ends the authoring. A malformed rule is no flaw: it is logged, and the field goes without one.

An authored node declares names that are pairwise distinct, each of Latin letters, digits and
underscores behind a letter; one line break may end a name. Names that the records of a node use
themselves are reserved.
-/

namespace Intake.Schema

open Intake.Text

/-- The names that records use themselves. -/
def reservedNames : List String :=
  ["construct", "copy", "dict", "from_orm", "json", "mro", "parse_file", "parse_obj", "parse_raw",
   "register", "schema", "schema_json", "update_forward_refs", "validate"]

/-- The beginning of further names that records use themselves. -/
def reservedStart : List Char := "model_".toList

/-- The text can name an entry. -/
def isEntryName (s : List Char) : Bool :=
  match dropFinalBreak s with
  | [] => false
  | c :: rest => isLatinLetter c && rest.all isNameTail

/-- The name is reserved for records. -/
def isReserved (name : String) : Bool :=
  reservedStart.isPrefixOf name.toList || reservedNames.contains name

/-- The name a value gives to an entry. -/
def entryName (v : Value) : Run String :=
  match v with
  | .text name =>
    if !isEntryName name.toList then throw (.schema (.name v))
    else if isReserved name then throw (.schema (.reserved name))
    else return name
  | _ => throw (if v.isTooLong then .longInteger else .schema (.name v))

/-- The rule that a text denotes. A malformed one is logged and left out. -/
def declaredRule [Rule.Literal.Reader] (text : Option String) : Run Rule.Stages :=
  match text.filter (!·.isEmpty) with
  | none => return []
  | some s =>
    match Rule.readStages s.toList with
    | .ok stages => return stages
    | .error (.malformed m) => do
      Run.log "derive_malformed" [("derive", .text s), ("reason", .text m.message)]
      return []
    | .error e => throw (.rule e)

/-- The clauses that a text denotes. -/
def declaredClauses [Rule.Literal.Reader] (text : Option String) :
    Except Fault (List Domain.Clause) :=
  match text.filter (!·.isEmpty) with
  | none => .ok []
  | some s =>
    match Domain.readClauses s.toList with
    | .ok clauses => .ok clauses
    | .error (.malformed m) => .error (.schema (.domain s.toList m))
    | .error e => .error (.rule e)

/-- What is given to call, if it can be called. -/
def callable {α : Type} (flaw : SchemaFlaw) (h : Option (Hook α)) : Run (Option α) :=
  match h with
  | none => return none
  | some (.call f) => return some f
  | some (.inert .null) => return none
  | some (.inert _) => throw (.schema flaw)

/-- What stands below a field, of which at most one node may be given. -/
def childOf (name : String) (nested nestedList : Option Node) : Run Child :=
  match nested, nestedList with
  | none, none => return .none
  | some n, none => return .single n
  | none, some n => return .many n
  | some _, some _ => throw (.schema (.nestedTwice name))

/-- The field that a draft denotes, with the nodes below it. -/
def FieldDraft.toField (d : FieldDraft) (nested nestedList : Option Node) : Run Field := do
  let name ← entryName d.name
  let child ← childOf name nested nestedList
  let auto ← callable (.generator name) d.auto
  let validator ← callable (.validator name) d.validator
  let rule ← declaredRule d.rule
  let clauses ← Run.ofExcept (declaredClauses d.domain)
  return { name, typeTag := d.typeTag, enforce := d.enforce, default := d.default, rule, clauses,
           validator, auto, gate := d.gate, source := d.source, child }

/-- A candidate that is authored already. -/
inductive Candidate where
  | field (f : Field)
  | node (n : Node)
  | inert (v : Value)

/-- The field of a node that is a candidate of a group. -/
def fieldOfNode (name : String) (n : Node) : Field :=
  { name, typeTag := "map", enforce := none, default := none, rule := [], clauses := [],
    validator := none, auto := none, gate := none, source := none, child := .single n }

/-- The field of a candidate of a group. -/
def Candidate.toField (group : String) : Candidate → Run Field
  | field f =>
    if f.name == group then return f else throw (.schema (.candidateName f.name group))
  | node n => return fieldOfNode group n
  | inert v => throw (if v.isTooLong then .longInteger else .schema (.candidate group v))

/-- The group of candidates that are authored already. -/
def groupOf (name : Value) (candidates : List Candidate) (enforce : Option Bool) : Run Group := do
  let name ← entryName name
  if candidates.isEmpty then throw (.schema (.noCandidates name))
  return { name, candidates := ← candidates.mapM (Candidate.toField name), enforce }

/-- An entry that is authored already, or the value in its place. -/
abbrev Item := Except Value Entry

/-- The name under which an item would be declared. -/
def itemName : Item → Except Fault Value
  | .ok e => .ok (.text e.name)
  | .error (.symbol _ member _) => .ok (.text member)
  | .error (.record kind fields) =>
    match fields.lookup "name" with
    | some v => .ok v
    | none => .error (.noAttribute kind "name")
  | .error v => .error (.noAttribute v.fullTypeName "name")

/-- The order in which names are listed. Only a value that is no entry has a name that is no text. -/
def namesInOrder : Value → Value → Bool
  | .int m, .int n => decide (m ≤ n)
  | v, w => decide (v.plain ≤ w.plain)

/-- The names that occur more than once, in order. -/
def duplicatesOf (names : List Value) : List Value :=
  let repeated := names.filter fun v => 1 < names.countP v.equals
  (repeated.eraseDupsBy Value.equals).mergeSort namesInOrder

/-- The entries among items, if all of them are entries. -/
def entriesOf (schema : String) : List Item → Run (List Entry)
  | [] => return []
  | .ok e :: rest => return e :: (← entriesOf schema rest)
  | .error v :: _ => throw (if v.isTooLong then .longInteger else .schema (.entry schema v))

/-- The names of items have to be distinct. -/
def checkDistinct (schema : String) (names : List Value) : Except Fault Unit :=
  match names.findSome? Value.changeable? with
  | some typeName => .error (.unhashable typeName)
  | none =>
    match duplicatesOf names with
    | [] => .ok ()
    | duplicates => .error (.schema (.duplicates schema duplicates))

/-- The node that a draft denotes, with the items in place of its entries. -/
def NodeDraft.toNode (d : NodeDraft) (items : List Item) : Run Node := do
  let names ← Run.ofExcept (items.mapM itemName)
  Run.ofExcept (checkDistinct d.name names)
  let entries ← entriesOf d.name items
  return { name := d.name, entries, enforce := d.enforce.getD false, closed := d.closed,
           raises := d.raises, main := d.main.filter (!·.isMissing),
           validator := d.validator.filter (!·.isMissing), functions := d.functions }

mutual
/-- The node that a draft denotes. -/
def NodeDraft.author (d : NodeDraft) : Run Node :=
  match d with
  | ⟨_, entries, _, _, _, _, _, _⟩ => do d.toNode (← authorAll entries)
termination_by structural d

/-- The items that entries denote. -/
def authorAll (ds : List EntryDraft) : Run (List Item) :=
  match ds with
  | [] => return []
  | d :: rest => do
    let item ← d.author
    return item :: (← authorAll rest)
termination_by structural ds

/-- The item that an entry denotes. -/
def EntryDraft.author (d : EntryDraft) : Run Item :=
  match d with
  | .field f => do return .ok (.field (← f.author))
  | .group name candidates enforce => do
    return .ok (.group (← groupOf name (← authorCandidates candidates) enforce))
  | .inert v => return .error v
termination_by structural d

/-- The candidates that drafts denote. -/
def authorCandidates (ds : List CandidateDraft) : Run (List Candidate) :=
  match ds with
  | [] => return []
  | d :: rest => do
    let c ← d.author
    return c :: (← authorCandidates rest)
termination_by structural ds

/-- The candidate that a draft denotes. -/
def CandidateDraft.author (d : CandidateDraft) : Run Candidate :=
  match d with
  | .field f => do return .field (← f.author)
  | .node n => do return .node (← n.author)
  | .inert v => return .inert v
termination_by structural d

/-- The field that a draft denotes. -/
def FieldDraft.author (d : FieldDraft) : Run Field :=
  match d with
  | ⟨_, _, _, _, _, _, _, _, _, _, nested, nestedList⟩ => do
    let single ← authorBelow nested
    let many ← authorBelow nestedList
    d.toField single many
termination_by structural d

/-- The node below a field. -/
def authorBelow (d : Option NodeDraft) : Run (Option Node) :=
  match d with
  | none => return none
  | some n => do return some (← n.author)
termination_by structural d
end

end Intake.Schema
