import Intake.Fault

/-!
# Journal

What happens while a run runs: the calls of functions supplied by the user, and the events that are
logged. The journal is kept when the run ends in a fault.
-/

namespace Intake

/-- A call of a function supplied by the user, with its arguments. -/
inductive Call where
  | function (key : String) (v : Value)
  | validator (field : String) (v : Value) (label : Value)
  | main (v : Value)
  | generator (label : String) (arguments : List Value)

/-- An event that is logged, with its details. -/
structure Record where
  event : String
  details : List (String × Value)

/-- The calls and the events of a run, oldest first. -/
structure Journal where
  calls : List Call
  records : List Record

namespace Journal

/-- Nothing has happened. -/
def empty : Journal := ⟨[], []⟩

/-- How often the generator has been called. -/
def generated (j : Journal) (label : String) : Nat :=
  (j.calls.filter fun c =>
    match c with
    | .generator l _ => l == label
    | _ => false).length

end Journal

/-- A computation that keeps a journal and may end in a fault. -/
abbrev Run := ExceptT Fault (StateM Journal)

namespace Run

/-- Notes a call. -/
def call (c : Call) : Run Unit :=
  modify fun j => { j with calls := j.calls ++ [c] }

/-- Logs an event. -/
def log (event : String) (details : List (String × Value)) : Run Unit :=
  modify fun j => { j with records := j.records ++ [⟨event, details⟩] }

/-- A result that is there already, or its fault. -/
def ofExcept {α : Type} (r : Except Fault α) : Run α :=
  match r with
  | .ok a => pure a
  | .error e => throw e

/-- The answer of a run, and its journal. -/
def start {α : Type} (t : Run α) (j : Journal) : Except Fault α × Journal :=
  (ExceptT.run t).run j

end Run

/-- A function supplied by the user; it may fail with a message. -/
abbrev Function := Value → Except String Reply

/-- What is given where something to call is asked for: it, or a value that stands in its place. -/
inductive Hook (α : Type) where
  | call (f : α)
  | inert (v : Value)

namespace Hook

/-- The hook stands for no value at all. -/
def isMissing {α : Type} : Hook α → Bool
  | inert .null => true
  | _ => false

end Hook

/-- The functions a schema can refer to. -/
abbrev Functions := List (String × Hook Function)

/-- A validator of fields: it is given the name and the value of a field. The label tells validators
    apart in the journal. -/
structure Validator where
  label : Value
  run : String → Value → Except String Reply

/-- A generator of values. It knows how often it has been called, and may be given an argument. -/
structure Generator where
  label : String
  run : Nat → Option Value → Value

namespace Run

/-- The reply of a function, or the fault it fails with. -/
def reply (r : Except String Reply) : Run Reply :=
  match r with
  | .ok answer => pure answer
  | .error message => throw (.raised message)

/-- The reply of an entry of a table of functions. -/
def applyHook (key : String) (h : Hook Function) (v : Value) : Run Reply :=
  match h with
  | .call f => do
    call (.function key v)
    reply (f v)
  | .inert w => throw (.notCallable w.fullTypeName)

/-- The next value of a generator. -/
def generate (g : Generator) (argument : Option Value) : Run Value := do
  let count := (← get).generated g.label
  call (.generator g.label argument.toList)
  return g.run count argument

end Run

end Intake
