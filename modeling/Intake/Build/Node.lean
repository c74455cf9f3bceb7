import Intake.Build.Entry
import Intake.Domain.Evaluation

/-!
# Building nodes

A node first refuses names it does not declare, if it is closed, and then asks for its required
names, if a record is created. Then all its entries are evaluated, in the order of evaluation, and
what they resolve to is put into the tree. The clauses of the present entries are held against the
tree so resolved. Only if nothing failed, the main validator is asked, and the record is made.

The failures of a node are collected in the order of declaration.
-/

namespace Intake.Build

open Intake.Schema Intake.Failure

/-- An entry of a node with its evaluation. -/
abbrev Part := Schema.Entry × EntryEvaluator

/-- The outcomes of entries under their names. -/
abbrev Outcomes := List (String × Outcome)

namespace Outcomes

/-- The outcome of an entry. -/
def of (os : Outcomes) (e : Schema.Entry) : Outcome :=
  (os.lookup e.name).getD .absent

end Outcomes

/-- The names of the tree that a closed node does not declare. -/
def unknownNames (n : Node) (t : Tree) : List String :=
  if n.closed then t.names.filter fun name => !n.names.contains name else []

/-- The required names that are missing in the tree of a record to be created. -/
def missingNames (n : Node) (mode : Mode) (t : Tree) : List String :=
  match mode with
  | .create => n.required.filter fun name => !t.has name
  | .edit => []

/-- The scope of a node whose tree is resolved so far. -/
def scopeOf (c : Context) (root? : Option Tree) (t : Tree) : Scope :=
  ⟨c, t, root?.getD t⟩

/-- The tree with what an outcome resolves to. -/
def Outcome.resolve (name : String) (o : Outcome) (t : Tree) : Tree :=
  match o.resolved with
  | some r => t.put name r.tree
  | none => t

/-- The outcomes of entries evaluated one after the other, and the tree they resolve to. -/
def evaluateParts (c : Context) (root? : Option Tree) : List Part → Tree → Run (Outcomes × Tree)
  | [], t => return ([], t)
  | (e, evaluate) :: rest, t => do
    let o ← evaluate (scopeOf c root? t)
    let (os, t) ← evaluateParts c root? rest (o.resolve e.name t)
    return ((e.name, o) :: os, t)

/-- The failures of the clauses of an entry, if it is present. -/
def rejectionsOf (n : Node) (s : Scope) (os : Outcomes) (e : Schema.Entry) :
    Run (List Failure.Entry) :=
  let o := os.of e
  if o.resolved.isSome then Domain.evaluate n.functions s.lookup e.name o.clauses else return []

/-- The values of a node in the order of declaration. An absent entry has its default, else null. -/
def valuesOf (n : Node) (os : Outcomes) : List (String × Value) :=
  n.entries.map fun e =>
    (e.name, ((os.of e).resolved.map (·.value)).getD (e.default.getD .null))

/-- What the reply of a main validator amounts to: the values it leaves, or a payload. -/
def mainAnswer (n : Node) (r : Reply) : Except Fault (Except Payload (List (Value × Value))) :=
  match r with
  | .ok (.map entries) => .ok (.ok entries)
  | .err (.text message) => .ok (.error (.bad [.field n.name "main_validator" message]))
  | .refused p => .ok (.error p)
  | r => .error (.ofContract "main validator" n.name r)

/-- The values that the main validator leaves, or the payload it refuses them with. -/
def runMain (n : Node) (values : Tree) : Run (Except Payload (List (Value × Value))) := do
  match n.main with
  | none => return .ok (values.map fun e => (.text e.1, e.2))
  | some (.inert w) => throw (.notCallable w.fullTypeName)
  | some (.call f) =>
    Run.call (.main values.toValue)
    let r ← Run.reply (f values.toValue)
    Run.ofExcept (mainAnswer n r)

/-- A name under which no value can be handed to a record. -/
def takenName : String := "cls"

/-- The record of a node. What the values say nothing about has its default, else null, and what
    the node does not declare is left out. -/
def recordOf (n : Node) (values : List (Value × Value)) : Except Fault Value :=
  if n.names.contains takenName && (Value.findText? takenName values).isSome then
    .error (.takenArgument takenName)
  else
    .ok (.record n.name (n.defaults.map fun e => (e.1, (Value.findText? e.1 values).getD e.2)))

/-- The result of a node whose entries are evaluated, with the failures of their clauses. -/
def settle (n : Node) (os : Outcomes) (rejected : List (List Failure.Entry)) : Run Result := do
  let failures := n.entries.flatMap fun e => (os.of e).failures
  match aggregate (failures ++ rejected.flatten) with
  | some p => return .error p
  | none =>
    match ← runMain n (valuesOf n os) with
    | .error p => return .error p
    | .ok values => return .ok (← Run.ofExcept (recordOf n values))

/-- Why the entries of a node are not looked at: names it does not declare, or that are missing. -/
def refusal? (n : Node) (mode : Mode) (t : Tree) : Option Payload :=
  match unknownNames n t, missingNames n mode t with
  | [], [] => none
  | [], missing => some (.required missing)
  | unknown, _ => some (.authorized unknown)

/-- The parts of a node in the order of evaluation. -/
def orderedParts (atRoot : Bool) (parts : List Part) : List Part :=
  Slot.arrange (fun p : Part => p.1.slot atRoot) parts

/-- The result of a node for the tree of its input, and the resolved tree. -/
def evaluateNode (n : Node) (parts : List Part) (c : Context) (root? : Option Tree) (t : Tree) :
    Run (Result × Tree) := do
  match refusal? n c.mode t with
  | some p => return (.error p, t)
  | none =>
    let (os, t) ← evaluateParts c root? (orderedParts root?.isNone parts) t
    let rejected ← n.entries.mapM (rejectionsOf n (scopeOf c root? t) os)
    return (← settle n os rejected, t)

/-- Logs a step of a traced build. -/
def trace (c : Context) (event : String) (details : List (String × Value)) : Run Unit :=
  if c.traced then Run.log event details else pure ()

/-- Logs the result of a node. The failure of a node that raises ends the run. -/
def announce (n : Node) (c : Context) : Result → Run Unit
  | .error p => do
    trace c "build_failed" [("schema", .text n.name), ("kind", .text p.kind)]
    if n.raises then raisePayload p n.name
  | .ok _ => trace c "build_succeeded" [("schema", .text n.name)]

/-- The building of a node with the evaluations of its entries. -/
def buildWith (n : Node) (parts : List Part) : Builder := fun c root? input => do
  let tree ← Run.ofExcept (Tree.read input)
  trace c "build_started" [("schema", .text n.name), ("mode", .text c.mode.name)]
  let (result, tree) ← evaluateNode n parts c root? tree
  announce n c result
  return (result, tree)

mutual
/-- The building of a node. -/
def nodeBuilder (n : Node) : Builder :=
  match n with
  | ⟨_, entries, _, _, _, _, _, _⟩ => buildWith n (partsOf n entries)
termination_by structural n

/-- The entries of a node with their evaluations. -/
def partsOf (owner : Node) (es : List Schema.Entry) : List Part :=
  match es with
  | [] => []
  | e :: rest => (e, entryEvaluator owner e) :: partsOf owner rest
termination_by structural es

/-- The evaluation of an entry. -/
def entryEvaluator (owner : Node) (e : Schema.Entry) : EntryEvaluator :=
  match e with
  | .field f => fun s => do return (← fieldEvaluator owner f s []).1
  | .group g => groupEvaluator owner g
termination_by structural e

/-- The evaluation of a group. -/
def groupEvaluator (owner : Node) (g : Group) : EntryEvaluator :=
  match g with
  | ⟨_, candidates, _⟩ => fun s => evaluateCandidates s (fieldEvaluators owner candidates) []
termination_by structural g

/-- The evaluations of fields. -/
def fieldEvaluators (owner : Node) (fs : List Field) : List FieldEvaluator :=
  match fs with
  | [] => []
  | f :: rest => fieldEvaluator owner f :: fieldEvaluators owner rest
termination_by structural fs

/-- The evaluation of a field. -/
def fieldEvaluator (owner : Node) (f : Field) : FieldEvaluator :=
  match f with
  | ⟨_, _, _, _, _, _, _, _, _, _, child⟩ => evaluateField owner f (childBuilder child)
termination_by structural f

/-- The building of what stands below a field. -/
def childBuilder (c : Child) : Option Below :=
  match c with
  | .none => none
  | .single n => some (buildSingle (nodeBuilder n))
  | .many n => some (buildMany (nodeBuilder n))
termination_by structural c
end

/-- The record of an input, or why there is none. With it comes the resolved tree of an input that
    is a map. -/
def build (n : Node) (c : Context) (input : Value) : Run (Result × Option Tree) := do
  match input with
  | .map entries =>
    let (result, tree) ← nodeBuilder n c none entries
    return (result, some tree)
  | _ =>
    let p := Payload.bad [.field n.name "type" ("Expected map, got " ++ input.typeName)]
    if n.raises then raisePayload p n.name else return (.error p, none)

end Intake.Build
