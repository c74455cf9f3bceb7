import Intake.Check.Standard
import Intake.Journal
import Intake.Sanitize

/-!
# Checking values

A value is checked by directives: standard checks, functions of the user, and choices between
directives. A stage of checks collects every rejection, and a rule cleans a value and then checks
it.
-/

namespace Intake.Check

open Intake.Rule Intake.Failure

/-- The entry of the table that a reference stands for: under its full name, else under its bare
    name. A value that counts as false under the full name is passed over. -/
def resolve? (functions : Functions) (f : FunctionRef) : Option (Hook Function) :=
  match functions.lookup f.key with
  | some (.call g) => some (.call g)
  | some (.inert v) => if v.isFalsy then functions.lookup f.name else some (.inert v)
  | none => functions.lookup f.name

/-- The reply of the function that a reference stands for. -/
def applyRef (functions : Functions) (f : FunctionRef) (v : Value) : Run Reply :=
  match (resolve? functions f).filter (!·.isMissing) with
  | some h => Run.applyHook (hookKey functions f) h v
  | none => throw (.ofContract "custom function" f.key (.plain .null))
where
  /-- The name under which the reference is found. -/
  hookKey (functions : Functions) (f : FunctionRef) : String :=
    match functions.lookup f.key with
    | some (.call _) => f.key
    | some (.inert v) => if v.isFalsy then f.name else f.key
    | none => f.name

/-- The verdict that the reply of a function amounts to. -/
def ofReply (f : FunctionRef) (r : Reply) (v : Value) : Except Fault Verdict :=
  match r with
  | .plain (.bool true) => .ok .valid
  | .plain (.bool false) => .ok (.ofValue ("Value was rejected by " ++ f.key) v)
  | .ok normalized => .ok (.pass (some normalized))
  | .err (.text message) => .ok (.ofValue message v)
  | .refused p => .ok (.reject p.plain none .none .null (some p))
  | r => .error (.ofContract "custom function" f.key r)

/-- The check by a function of the user. -/
def custom (functions : Functions) (a : Argument) (v : Value) : Run Verdict :=
  match a with
  | .function f => do
    let r ← applyRef functions f v
    Run.ofExcept (ofReply f r v)
  | _ => return .because "custom requires a function reference"

/-- The verdict when none of the alternatives passes. -/
def noneOf (ds : List Directive) (v : Value) : Verdict :=
  let names := ", ".intercalate (ds.map (·.name))
  .expecting ("Value matches none of: " ++ names) names v

mutual
/-- The verdict of a directive about a value. -/
def run (functions : Functions) (d : Directive) (v : Value) : Run Verdict :=
  match d with
  | ⟨name, a⟩ =>
    if name == "custom" then custom functions a v
    else if name == "either" then either functions a v
    else
      match standard? name with
      | some f => Run.ofExcept (f a v)
      | none =>
        return .reject ("Unsupported validation '" ++ name ++ "'") (some "type") .none .null none
termination_by structural d

/-- The choice between directives: the first that passes decides. -/
def either (functions : Functions) (a : Argument) (v : Value) : Run Verdict :=
  match a with
  | .operations ds =>
    if ds.isEmpty then return .because "either requires a list of validations"
    else do
      if ← anyPasses functions ds v then return .valid else return noneOf ds v
  | .literal (.tuple (w :: _)) => throw (.noAttribute w.fullTypeName "name")
  | _ => return .because "either requires a list of validations"
termination_by structural a

/-- One of the directives passes; those behind it are not tried. -/
def anyPasses (functions : Functions) (ds : List Directive) (v : Value) : Run Bool :=
  match ds with
  | [] => return false
  | d :: rest => do
    let verdict ← run functions d v
    if verdict.isPass then return true else anyPasses functions rest v
termination_by structural ds
end

/-- The entries that a rejection amounts to: those of its payload, or one for the payload as a
    whole, or one for the rejection. -/
def entriesOf (field : String) (d : Directive) : Verdict → List Entry
  | .pass _ => []
  | .reject message constraint _ _ payload =>
    match payload with
    | some p => if p.entries.isEmpty then [.nested field p none] else p.entries
    | none =>
      [.field field (constraint.getD d.name) (if message.isEmpty then "Invalid value" else message)]

/-- The value behind a verdict: normalized where the check does so. -/
def Verdict.valueAfter (v : Value) : Verdict → Value
  | .pass (some normalized) => normalized
  | _ => v

/-- A value checked by directives one after the other, each on the value the last one left, and the
    entries of all rejections. -/
def runStage (functions : Functions) (field : String) : List Directive → Value →
    Run (Value × List Entry)
  | [], v => return (v, [])
  | d :: rest, v => do
    let verdict ← run functions d v
    let (after, entries) ← runStage functions field rest (verdict.valueAfter v)
    return (after, entriesOf field d verdict ++ entries)

/-- A value cleaned and checked by the stages of a rule. Other stages do not count. -/
def runRule (functions : Functions) (field : String) (stages : Stages) (v : Value) :
    Run (Value × List Entry) := do
  let cleaned ← Run.ofExcept (Sanitize.run (stages.directives "sanitize") v)
  runStage functions field (stages.directives "validate") cleaned

end Intake.Check
