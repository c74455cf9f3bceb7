import Intake.Domain.Evaluation
import Intake.Proofs.Course

/-!
# The courses of checks

The events of rules, stages, directives and domain clauses: each function of the user that is asked,
in the role it is asked in, each reference that leads to none, and each check, cleaning or lookup
that fails. Each course is written in the shape of the function that it is the course of.

A function of the user is asked as a check, which may answer in every way that the contract knows, or
as a predicate of a domain, which has to answer with a truth value. Either way its reply is read in
one place (`askedRef`), and what is read of it is a fault just where the contract is broken
(`isReading_ofReply`, `isReading_truthOf`). Directives and their choices call each other, so that
their courses are defined together, and `asks_run`, `asks_either` and `asks_anyPasses` are proved
together, by structural recursion as in the definitions.

* `asks_runRule`: the events of a rule are those of what is run, cleaning first;
* `asks_evaluate`: the events of the clauses of a field are those of what is evaluated, if the lookups
  raise no payload.

Neither asks a generator, tells of nodes, or raises a payload: the statements hold for any powers.
-/

namespace Intake.Check

open Intake.Rule Intake.Failure

variable {p : Powers} (functions : Functions)

/-- The function that a reference stands for is asked, and its reply is read. -/
def askedRef {α : Type} (f : FunctionRef) (v : Value) (role : Role)
    (read : Reply → Except Fault α) (h : role.IsReading f.key read) : Course α :=
  match (resolve? functions f).filter (!·.isMissing) with
  | some (.call g) => .consult (.function (applyRef.hookKey functions f) v) role f.key (g v) read h
  | some (.inert w) => .ofExcept .callable (.error (.notCallable w.fullTypeName))
  | none => .unresolved f.key

/-- The course of a reference is that of the function applied, however its reply is read. -/
theorem asks_askedRef {α : Type} (f : FunctionRef) (v : Value) (role : Role)
    (read : Reply → Except Fault α) (h : role.IsReading f.key read) :
    (askedRef functions f v role read h).Asks p
      (applyRef functions f v >>= fun r => Run.ofExcept (read r)) := by
  rw [askedRef, applyRef]
  cases (resolve? functions f).filter (!·.isMissing) with
  | none => exact .unresolved f.key
  | some hook =>
    cases hook with
    | inert w => exact .ofExcept .callable (unraised_notCallable w)
    | call g =>
      simp only [Run.applyHook, bind_assoc]
      exact .consult _ role f.key (g v) read h

/-- A reply that is no verdict breaks the contract of functions, and no other one does. -/
theorem isReading_ofReply (f : FunctionRef) (v : Value) :
    Role.function.IsReading f.key (ofReply f · v) := by
  intro r
  cases r with
  | plain w =>
    cases w with
    | bool b => cases b <;> rfl
    | _ => rfl
  | err w => cases w <;> rfl
  | _ => rfl

/-- The course of a check by a function of the user. -/
def customCourse (a : Argument) (v : Value) : Course Verdict :=
  match a with
  | .function f => askedRef functions f v .function (ofReply f · v) (isReading_ofReply f v)
  | _ => return .because "custom requires a function reference"

/-- The events of a check by a function are those of what is run. -/
theorem asks_custom (a : Argument) (v : Value) :
    (customCourse functions a v).Asks p (custom functions a v) := by
  cases a with
  | function f => exact asks_askedRef functions f v .function _ (isReading_ofReply f v)
  | _ => exact .pure _

mutual
/-- The course of a directive about a value. -/
def runCourse (d : Directive) (v : Value) : Course Verdict :=
  match d with
  | ⟨name, a⟩ =>
    if name == "custom" then customCourse functions a v
    else if name == "either" then eitherCourse a v
    else
      match standard? name with
      | some f => .ofExcept .check (f a v)
      | none =>
        return .reject ("Unsupported validation '" ++ name ++ "'") (some "type") .none .null none
termination_by structural d

/-- The course of a choice between directives. -/
def eitherCourse (a : Argument) (v : Value) : Course Verdict :=
  match a with
  | .operations ds =>
    if ds.isEmpty then return .because "either requires a list of validations"
    else do
      if ← anyPassesCourse ds v then return .valid else return noneOf ds v
  | .literal (.tuple (w :: _)) => .ofExcept .check (.error (.noAttribute w.fullTypeName "name"))
  | _ => return .because "either requires a list of validations"
termination_by structural a

/-- The course of directives of which one has to pass. -/
def anyPassesCourse (ds : List Directive) (v : Value) : Course Bool :=
  match ds with
  | [] => return false
  | d :: rest => do
    let verdict ← runCourse d v
    if verdict.isPass then return true else anyPassesCourse rest v
termination_by structural ds
end

mutual
/-- The events of a directive are those of what is run. -/
theorem asks_run (d : Directive) (v : Value) :
    (runCourse functions d v).Asks p (run functions d v) := by
  match d with
  | ⟨name, a⟩ =>
    rw [runCourse, run]
    split
    · exact asks_custom functions a v
    split
    · exact asks_either a v
    cases hname : standard? name with
    | none => exact .pure _
    | some f => exact .ofExcept .check (standard?_unraised hname a v)
termination_by structural d

/-- The events of a choice are those of the directives that are tried, up to the first that
    passes. -/
theorem asks_either (a : Argument) (v : Value) :
    (eitherCourse functions a v).Asks p (either functions a v) := by
  match a with
  | .operations ds =>
    rw [eitherCourse, either]
    split
    · exact .pure _
    · refine (asks_anyPasses ds v).bind fun b => ?_
      cases b <;> exact .pure _
  | .literal u =>
    cases u with
    | tuple us =>
      cases us with
      | nil => exact .pure _
      | cons w ws => exact .ofExcept .check (by rintro _ _ ⟨⟩)
    | _ => exact .pure _
  | .none => exact .pure _
  | .changeable _ => exact .pure _
  | .members _ => exact .pure _
  | .function _ => exact .pure _
termination_by structural a

/-- The events of directives of which one has to pass are those of what is run. -/
theorem asks_anyPasses (ds : List Directive) (v : Value) :
    (anyPassesCourse functions ds v).Asks p (anyPasses functions ds v) := by
  match ds with
  | [] => exact .pure _
  | d :: rest =>
    rw [anyPassesCourse, anyPasses]
    refine (asks_run d v).bind fun verdict => ?_
    split
    · exact .pure _
    · exact asks_anyPasses rest v
termination_by structural ds
end

/-- The course of a stage of checks. -/
def runStageCourse (field : String) : List Directive → Value → Course (Value × List Entry)
  | [], v => return (v, [])
  | d :: rest, v => do
    let verdict ← runCourse functions d v
    let (after, entries) ← runStageCourse field rest (verdict.valueAfter v)
    return (after, entriesOf field d verdict ++ entries)

/-- The events of a stage are those of what is run, by induction on its directives. -/
theorem asks_runStage (field : String) (ds : List Directive) (v : Value) :
    (runStageCourse functions field ds v).Asks p (runStage functions field ds v) := by
  induction ds generalizing v with
  | nil => exact .pure _
  | cons d rest ih =>
    rw [runStageCourse, runStage]
    exact (asks_run functions d v).bind fun verdict => (ih _).bind fun p => .pure _

/-- The course of a rule. -/
def runRuleCourse (field : String) (stages : Stages) (v : Value) : Course (Value × List Entry) := do
  let cleaned ← .ofExcept .cleaning (Sanitize.run (stages.directives "sanitize") v)
  runStageCourse functions field (stages.directives "validate") cleaned

/-- The events of a rule are those of what is run. -/
theorem asks_runRule (field : String) (stages : Stages) (v : Value) :
    (runRuleCourse functions field stages v).Asks p (runRule functions field stages v) := by
  rw [runRuleCourse, runRule]
  exact (Course.Asks.ofExcept .cleaning (Sanitize.run_unraised _ v)).bind fun cleaned =>
    asks_runStage functions field _ cleaned

end Intake.Check

namespace Intake.Domain

open Intake.Rule Intake.Failure

variable {p : Powers} (functions : Functions) (lookup : Lookup)

/-- What the reply of a predicate says. -/
def truthOf (f : FunctionRef) : Reply → Except Fault Bool
  | .plain (.bool b) => .ok b
  | r => .error (.ofContract "domain predicate" f.key r)

/-- A reply that is no truth value breaks the contract of predicates, and no other one does. -/
theorem isReading_truthOf (f : FunctionRef) : Role.predicate.IsReading f.key (truthOf f) := by
  intro r
  cases r with
  | plain w => cases w <;> rfl
  | _ => rfl

/-- The course of a predicate about a value. -/
def holdsCourse (f : FunctionRef) (v : Value) : Course Bool :=
  Check.askedRef functions f v .predicate (truthOf f) (isReading_truthOf f)

/-- The events of a predicate are those of what is run. -/
theorem asks_holds (f : FunctionRef) (v : Value) :
    (holdsCourse functions f v).Asks p (holds functions f v) := by
  have hread : holds functions f v =
      Check.applyRef functions f v >>= fun r => Run.ofExcept (truthOf f r) := by
    rw [holds]
    congr 1
    funext r
    cases r with
    | plain w => cases w <;> rfl
    | _ => rfl
  rw [hread]
  exact Check.asks_askedRef functions f v .predicate _ (isReading_truthOf f)

/-- The course of a demand. -/
def conformsCourse (d : Demand) (v : Value) : Course Bool := do
  match d with
  | .members s => return s.contains v
  | .function f => holdsCourse functions f v
  | .samePath path =>
    match ← Course.ofExcept .lookup (lookup path) with
    | some other => return other.equals v
    | none => return false
  | .either ds => Check.anyPassesCourse functions ds v
  | .equal expected =>
    return (← Check.runCourse functions ⟨"equal", .literal expected⟩ v).isPass

/-- The course of a clause. -/
def clauseCourse (field : String) (c : Clause) : Course (List Entry) := do
  match ← Course.ofExcept .lookup (lookup c.path) with
  | none => return if c.required then [Entry.ofDomain field c.path true] else []
  | some v =>
    if ← conformsCourse functions lookup c.demand v then return []
    else do
      .log "domain_rejected"
        [("field", .text field), ("path", .text c.path),
         ("combinator", .text c.demand.combinator)]
      return [Entry.ofDomain field c.path false]

/-- The course of the clauses of a field. -/
def evaluateCourse (field : String) : List Clause → Course (List Entry)
  | [] => return []
  | c :: rest => do
    let entries ← clauseCourse functions lookup field c
    return entries ++ (← evaluateCourse field rest)

section Lookup

variable {lookup} (hlookup : ∀ path, Run.Unraised (lookup path))
include hlookup

/-- The events of a demand are those of what is run. -/
theorem asks_conforms (d : Demand) (v : Value) :
    (conformsCourse functions lookup d v).Asks p (conforms functions lookup d v) := by
  cases d with
  | members s => exact .pure _
  | function f => exact asks_holds functions f v
  | samePath path =>
    refine (Course.Asks.ofExcept .lookup (hlookup path)).bind fun other => ?_
    cases other <;> exact .pure _
  | either ds => exact Check.asks_anyPasses functions ds v
  | equal expected =>
    exact (Check.asks_run functions _ v).bind fun verdict => .pure _

/-- The events of a clause are those of what is run. That the clause is rejected is logged, which tells
    nothing of nodes. -/
theorem asks_clause (field : String) (c : Clause) :
    (clauseCourse functions lookup field c).Asks p (evaluateClause functions lookup field c) := by
  rw [clauseCourse, evaluateClause]
  refine (Course.Asks.ofExcept .lookup (hlookup c.path)).bind fun found => ?_
  cases found with
  | none => exact .pure _
  | some v =>
    refine (asks_conforms functions hlookup c.demand v).bind fun b => ?_
    cases b
    · exact (Course.Asks.log (absurd · (by decide)) _).bind fun _ => .pure _
    · exact .pure _

/-- The events of the clauses of a field are those of what is run, by induction on the clauses. -/
theorem asks_evaluate (field : String) (cs : List Clause) :
    (evaluateCourse functions lookup field cs).Asks p (evaluate functions lookup field cs) := by
  induction cs with
  | nil => exact .pure _
  | cons c rest ih =>
    rw [evaluateCourse, evaluate]
    exact (asks_clause functions hlookup field c).bind fun entries => ih.bind fun more => .pure _

end Lookup

end Intake.Domain
