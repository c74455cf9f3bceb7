import Intake.Check.Stage
import Intake.Domain.Clause
import Intake.Path

/-!
# Evaluating domain clauses

The clauses of a present field, each held against the value at its place.
-/

namespace Intake.Domain

open Intake.Rule Intake.Failure

/-- What is present at a path. -/
abbrev Lookup := String → Except Fault (Option Value)

/-- The answer of a function about a value has to be a truth value. -/
def holds (functions : Functions) (f : FunctionRef) (v : Value) : Run Bool := do
  match ← Check.applyRef functions f v with
  | .plain (.bool b) => return b
  | r => throw (.ofContract "domain predicate" f.key r)

/-- The value conforms to a demand. -/
def conforms (functions : Functions) (lookup : Lookup) (d : Demand) (v : Value) : Run Bool := do
  match d with
  | .members s => return s.contains v
  | .function f => holds functions f v
  | .samePath path =>
    match ← Run.ofExcept (lookup path) with
    | some other => return other.equals v
    | none => return false
  | .either ds => Check.anyPasses functions ds v
  | .equal expected =>
    return (← Check.run functions ⟨"equal", .literal expected⟩ v).isPass

/-- The entries of a clause that is not satisfied. -/
def evaluateClause (functions : Functions) (lookup : Lookup) (field : String) (c : Clause) :
    Run (List Entry) := do
  match ← Run.ofExcept (lookup c.path) with
  | none => return if c.required then [Entry.ofDomain field c.path true] else []
  | some v =>
    if ← conforms functions lookup c.demand v then return []
    else do
      Run.log "domain_rejected"
        [("field", .text field), ("path", .text c.path),
         ("combinator", .text c.demand.combinator)]
      return [Entry.ofDomain field c.path false]

/-- The entries of the clauses of a present field that are not satisfied. -/
def evaluate (functions : Functions) (lookup : Lookup) (field : String) :
    List Clause → Run (List Entry)
  | [] => return []
  | c :: rest => do
    let entries ← evaluateClause functions lookup field c
    return entries ++ (← evaluate functions lookup field rest)

end Intake.Domain
