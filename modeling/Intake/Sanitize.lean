import Intake.Fault
import Intake.Markup.Filter
import Intake.Rule.Syntax
import Intake.Text.Casing

/-!
# Sanitizing

The operations that clean a text before it is checked. They leave values that are no texts as they
are, and so does an operation that is not known.
-/

namespace Intake.Sanitize

open Intake.Rule Intake.Text

/-- The words of a text, a space between each two. -/
def squish (s : List Char) : List Char :=
  [' '].intercalate (words s)

/-- The cleaning of texts that a name stands for. -/
def cleaner? (name : String) : Option (List Char → List Char) :=
  match name with
  | "trim" => some trim
  | "upcase" => some upper
  | "downcase" => some lower
  | "lowercase" => some lower
  | "capitalize" => some capitalize
  | "squish" => some squish
  | _ => none

/-- The names of the operations. -/
def names : List String :=
  ["trim", "upcase", "downcase", "lowercase", "capitalize", "squish"] ++
    Markup.Filter.all.map (·.name)

/-- A value filtered, if it is a text. -/
def filter (f : Markup.Filter) (v : Value) : Except Fault Value :=
  match v with
  | .text s => ((f.apply s.toList).mapError .markup).map fun r => .text (String.ofList r)
  | _ => .ok v

/-- A value cleaned by one directive. A filter may also be called for by the directive `tag`. -/
def apply (d : Directive) (v : Value) : Except Fault Value :=
  if d.isBare then
    match cleaner? d.name, Markup.Filter.ofName? d.name, v with
    | some f, _, .text s => .ok (.text (String.ofList (f s.toList)))
    | none, some f, _ => filter f v
    | _, _, _ => .ok v
  else
    match d.name, d.argument with
    | "tag", .literal (.text name) =>
      match Markup.Filter.ofName? name with
      | some f => filter f v
      | none => .ok v
    | _, _ => .ok v

/-- A value cleaned by directives, one after the other. -/
def run (ds : List Directive) (v : Value) : Except Fault Value :=
  ds.foldlM (fun v d => apply d v) v

end Intake.Sanitize
