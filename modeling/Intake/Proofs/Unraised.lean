import Intake.Build.Node
import Intake.Proofs.Lockstep

/-!
# Faults that are no failures of nodes

Only the builder raises payloads, at the end of a node. What goes wrong before, in looking up paths
and in reading names, in cleaning and in checking values, is a fault of another kind
(`Run.Unraised`), and so is the breach of a contract.

The functions that may end in a fault are gone through here once, in the order in which the builder
comes to them: paths and names (`Path.resolve_unraised`, `Tree.read_unraised`), cleaning
(`Sanitize.run_unraised`), the standard checks (`Check.standard?_unraised`), gates and sources of
fields, and the making of records. That callables raise no payload either is a matter of the
contract, within which their replies are read.
-/

namespace Intake

open Intake.Run

/-! ### Callables, values and paths -/

/-- The breach of a contract is no payload that is raised, also where the reply cannot be shown. -/
theorem unraised_ofContract {α : Type} (role name : String) (r : Reply) :
    Unraised (.error (.ofContract role name r) : Except Fault α) := by
  intro p s h
  rw [Fault.ofContract] at h
  split at h <;> cases h

theorem unraised_notCallable {α : Type} (v : Value) :
    Unraised (.error (.notCallable v.fullTypeName) : Except Fault α) := by
  rintro _ _ ⟨⟩

theorem show_unraised (v : Value) : Unraised v.show := by
  rw [Value.show]
  split
  · rintro _ _ ⟨⟩
  · exact unraised_ok _

theorem Path.resolve_unraised (p : Path) (here root : Value) : Unraised (p.resolve here root) := by
  rw [Path.resolve, Path.find]
  split
  · rintro _ _ ⟨⟩
  · exact unraised_ok _

theorem Tree.read_unraised (entries : List (Value × Value)) : Unraised (Tree.read entries) := by
  rw [Tree.read]
  split
  · rintro _ _ ⟨⟩
  · exact unraised_ok _

end Intake

namespace Intake.Sanitize

open Intake.Rule Intake.Run

/-! ### Cleaning -/

/-- A filter that meets a text it cannot read ends in a fault of its own. -/
theorem filter_unraised (f : Markup.Filter) (v : Value) : Unraised (filter f v) := by
  cases v with
  | text s =>
    simp only [filter]
    cases f.apply s.toList with
    | error e => rintro _ _ ⟨⟩
    | ok r => exact unraised_ok _
  | _ => exact unraised_ok _

theorem apply_unraised (d : Directive) (v : Value) : Unraised (apply d v) := by
  unfold apply
  repeat' split
  all_goals first | exact unraised_ok _ | exact filter_unraised _ _

/-- Cleaning by directives one after the other, by induction on the directives. -/
theorem run_unraised (ds : List Directive) (v : Value) : Unraised (run ds v) := by
  induction ds generalizing v with
  | nil => exact unraised_ok v
  | cons d ds ih =>
    rw [run, List.foldlM_cons]
    exact (apply_unraised d v).bind ih

end Intake.Sanitize

namespace Intake.Check

open Intake.Rule Intake.Failure Intake.Run

/-! ### Checks -/

/-- The checks of sizes show the value and its bound, which may be too long to be shown. -/
theorem sized_unraised (name relation : String) (fails : Value → Int → Bool) (sign : String)
    (a : Argument) (v : Value) : Unraised (sized name relation fails sign a v) := by
  rw [sized]
  split
  · exact unraised_ok _
  split
  · exact unraised_ok _
  split
  · exact (show_unraised _).bind fun _ => (show_unraised _).bind fun _ => unraised_ok _
  · exact unraised_ok _

theorem url_unraised (v : Value) : Unraised (url v) := by
  unfold url
  split
  · split
    · rintro _ _ ⟨⟩
    · dsimp only
      repeat' split
      all_goals exact unraised_ok _
  · exact unraised_ok _

theorem regex_unraised (a : Argument) (v : Value) : Unraised (regex a v) := by
  unfold regex
  repeat' split
  all_goals first | exact unraised_ok _ | rintro _ _ ⟨⟩

theorem member_unraised (a : Argument) (v : Value) : Unraised (member a v) := by
  simp only [member]
  split
  · split
    · exact unraised_ok _
    · refine (show_unraised v).bind fun shown => ?_
      split
      · rintro _ _ ⟨⟩
      · exact unraised_ok _
  · exact unraised_ok _

theorem equal_unraised (a : Argument) (v : Value) : Unraised (equal a v) := by
  rw [equal]
  split
  · exact unraised_ok _
  · refine (show_unraised v).bind fun shown => ?_
    split
    · rintro _ _ ⟨⟩
    · exact unraised_ok _

/-- No check of the standard ones raises a payload, whichever stands under the name. -/
theorem standard?_unraised {name : String} {f : Argument → Value → Except Fault Verdict}
    (h : standard? name = some f) (a : Argument) (v : Value) : Unraised (f a v) := by
  rw [standard?] at h
  split at h
  · cases h
    exact unraised_ok _
  · simp only [fullChecks, List.lookup_cons] at h
    repeat' split at h
    all_goals cases h
    · exact url_unraised v
    · exact regex_unraised a v
    · exact sized_unraised _ _ _ _ a v
    · exact sized_unraised _ _ _ _ a v
    · exact member_unraised a v
    · exact equal_unraised a v

end Intake.Check

namespace Intake.Build

open Intake.Schema Intake.Run

/-! ### Fields and records -/

theorem Scope.lookup_unraised (s : Scope) (path : String) : Unraised (s.lookup path) :=
  Path.resolve_unraised _ _ _

/-- A gate is looked up before anything else is done for its field. -/
theorem blocked?_unraised (s : Scope) (f : Field) : Unraised (blocked? s f) := by
  unfold blocked?
  split
  · exact unraised_ok _
  · next path _ =>
    have h := s.lookup_unraised path
    cases hlookup : s.lookup path with
    | error e =>
      rintro p name ⟨⟩
      exact h p name hlookup
    | ok found => exact unraised_ok _

theorem given_unraised (s : Scope) (f : Field) : Unraised (given s f) := by
  unfold given
  split
  · exact unraised_ok _
  · exact s.lookup_unraised _
  · exact unraised_ok _

/-- A record that cannot be made is a fault of its own. -/
theorem recordOf_unraised (n : Node) (values : List (Value × Value)) :
    Unraised (recordOf n values) := by
  rw [recordOf]
  split
  · rintro _ _ ⟨⟩
  · exact unraised_ok _

end Intake.Build
