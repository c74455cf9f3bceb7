import Intake.Build.Fill
import Intake.Check.Stage

/-!
# Evaluating entries

The value of a field is cleaned and checked by its rule, then asked of a validator, and then built
where a node or a list of nodes stands below the field. The first of these that fails ends the
evaluation of the field. Of a group, the first candidate without failures decides, else the last
one.
-/

namespace Intake.Build

open Intake.Schema Intake.Failure

/-- What the reply of a validator amounts to: the value it leaves, and failures. -/
def validated (owner : Node) (f : Field) (r : Reply) (v : Value) :
    Except Fault (Value × List Failure.Entry) :=
  match r with
  | .ok normalized => .ok (normalized, [])
  | .err (.text message) => .ok (v, [.field f.name "validator" message])
  | r => .error (.ofContract "field validator" (owner.name ++ "." ++ f.name) r)

/-- The validator asked about a field: its own, or that of its node. -/
def validatorOf (owner : Node) (f : Field) : Option (Hook Validator) :=
  (f.validator.map Hook.call).or owner.validator

/-- The value that the validator of a field leaves, and its failures. -/
def validate (owner : Node) (f : Field) (v : Value) : Run (Value × List Failure.Entry) := do
  match validatorOf owner f with
  | none => return (v, [])
  | some (.inert w) => throw (.notCallable w.fullTypeName)
  | some (.call validator) =>
    Run.call (.validator f.name v validator.label)
    let r ← Run.reply (validator.run f.name v)
    Run.ofExcept (validated owner f r v)

/-- The building of what stands below a field. -/
abbrev Below := Field → Scope → Value → Run Outcome

/-- The failure of a value of another type than a field with nodes below needs. -/
def typeFailure (f : Field) (message : String) : Failure.Entry :=
  .field f.name "type" message

/-- The outcome of a field with a node below it: the record of the node, or its failure. -/
def Outcome.ofNode (f : Field) (v : Value) : Result × Tree → Outcome
  | (.ok m, tree) => ⟨some ⟨m, tree.toValue⟩, [], f.clauses⟩
  | (.error p, tree) => ⟨some ⟨v, tree.toValue⟩, [.nested f.name p none], f.clauses⟩

/-- The record of a value for a field with a node below. -/
def buildSingle (build : Builder) : Below := fun f s v => do
  match v with
  | .map entries => return .ofNode f v (← build s.context (some s.root) entries)
  | _ => return .present f v [typeFailure f ("Expected map, got " ++ v.typeName)]

/-- The entries of the maps in a list, if it holds nothing else. -/
def mapsOf : List Value → Option (List (List (Value × Value)))
  | [] => some []
  | .map entries :: rest => (mapsOf rest).map (entries :: ·)
  | _ :: _ => none

/-- The maps that a value is a list of. -/
def mapsOf? : Value → Option (List (List (Value × Value)))
  | .list items => mapsOf items
  | .tuple items => mapsOf items
  | _ => none

/-- What the items of a list give: the records, the trees, and the failures by index. -/
structure Items where
  records : List Value
  trees : List Value
  failures : List Failure.Entry

namespace Items

/-- The results of items with that of the item before them. -/
def cons (field : String) (index : Nat) (result : Result × Tree) (rest : Items) : Items :=
  match result with
  | (.ok m, tree) => ⟨m :: rest.records, tree.toValue :: rest.trees, rest.failures⟩
  | (.error p, tree) =>
    ⟨rest.records, tree.toValue :: rest.trees, .nested field p (some index) :: rest.failures⟩

/-- What the results of items amount to, where the first of them has the index. -/
def ofResults (field : String) : Nat → List (Result × Tree) → Items
  | _, [] => ⟨[], [], []⟩
  | index, result :: rest => cons field index result (ofResults field (index + 1) rest)

end Items

/-- The outcome of a field with a list of nodes below it: their records, if none of them failed. -/
def Outcome.ofItems (f : Field) (v : Value) (items : Items) : Outcome :=
  let value := if items.failures.isEmpty then .list items.records else v
  ⟨some ⟨value, .list items.trees⟩, items.failures, f.clauses⟩

/-- The records of a list of values for a field with a list of nodes below, built one after the
    other. -/
def buildMany (build : Builder) : Below := fun f s v => do
  match mapsOf? v with
  | none => return .present f v [typeFailure f "Expected list of maps"]
  | some maps =>
    let results ← maps.mapM (build s.context (some s.root))
    return .ofItems f v (.ofResults f.name 0 results)

/-- The value of a field cleaned and checked by its rule and, if this finds nothing wrong, asked of
    its validator. -/
def checked (owner : Node) (f : Field) (v : Value) : Run (Value × List Failure.Entry) := do
  let (v, failures) ← Check.runRule owner.functions f.name f.rule v
  if failures.isEmpty then validate owner f v else return (v, failures)

/-- The outcome of a field that has a value. -/
def process (owner : Node) (f : Field) (below : Option Below) (s : Scope) (v : Value) :
    Run Outcome := do
  let (v, failures) ← checked owner f v
  if !failures.isEmpty then return .present f v failures
  else
    match below with
    | none => return .present f v []
    | some build => build f s v

/-- The evaluation of a field or a candidate, which adds to the fills that candidates share. -/
abbrev FieldEvaluator := Scope → Fills → Run (Outcome × Fills)

/-- The evaluation of a field of a node. -/
def evaluateField (owner : Node) (f : Field) (below : Option Below) : FieldEvaluator :=
  fun s fills => do
    match ← Run.ofExcept (blocked? s f) with
    | some path =>
      let sent := (s.tree.sent? f.name).isSome
      return (.skipped (if sent then [.ofDependency f.name path] else []), fills)
    | none =>
      match ← fill s f fills with
      | (none, fills) => return (.absent, fills)
      | (some v, fills) => return (← process owner f below s v, fills)

/-- The evaluation of an entry. -/
abbrev EntryEvaluator := Scope → Run Outcome

/-- The outcome of the first candidate without failures, else of the last one. -/
def evaluateCandidates (s : Scope) : List FieldEvaluator → Fills → Run Outcome
  | [], _ => return .absent
  | [last], fills => do return (← last s fills).1
  | candidate :: rest, fills => do
    let (outcome, fills) ← candidate s fills
    if outcome.isClean then return outcome else evaluateCandidates s rest fills

end Intake.Build
