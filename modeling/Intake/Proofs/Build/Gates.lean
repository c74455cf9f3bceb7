import Intake.Proofs.Build.Results
import Intake.Proofs.Build.Views

/-!
# Gates

A field behind a gate is refused if it was sent while nothing is present at the path of the gate.
The order of evaluation minds sources only, not gates, so that the entry that the path begins at may
still be pending: then the gate finds what was sent for this entry, not what it resolves to. With
this exception the gate agrees with the resolved trees (`gate_iff`): a field that was sent is refused
if and only if its path is absent there.

The copies of the schema have to name what they copy (`CopiesNamed`). A copy without a name is of the
whole tree while this is resolved, and `given` does not follow what becomes of the tree afterwards.
-/

namespace Intake.Build

open Intake.Schema Intake.Failure

/-- The field was refused for its gate, and the payload of its node says so. -/
structure Report.Rejects (q : Report) (f : Field) (path : String) : Prop where
  step : ∃ s ∈ q.steps, s.entry = .field f ∧ s.outcome = .skipped [.ofDependency f.name path]
  payload : ∃ p, q.result = .error p ∧ .ofDependency f.name path ∈ p.entries

/-! ### The gate of a field -/

/-- A field is tried once. -/
theorem trials_of_field {n : Node} {f : Field} {s : Scope} {ts : Trials} {j k : Journal}
    (h : (reportEntry n (.field f) s).start j = (.ok ts, k)) :
    ∃ t fills, ts = ⟨[], some t⟩ ∧
      (reportField n f (childReporter f.child) s []).start j = (.ok (t, fills), k) := by
  rw [reportEntry_eq] at h
  simp only [Entry.fields, List.map_cons, List.map_nil, reportCandidates, fieldReporter_eq,
    Run.start_bind_eq_ok, Run.start_pure] at h
  obtain ⟨⟨t, fills⟩, _, hfield, heq⟩ := h
  cases heq
  exact ⟨t, fills, rfl, hfield⟩

/-- A token, which depends on the session. -/
def token : Field :=
  { plainField "token" with gate := some "session" }

/-- A session: a token, and the session itself, which is generated. -/
def session : Node :=
  plainNode "Session"
    [.field token,
     .field { plainField "session" with
       auto := some ⟨⟨"session", fun _ _ => .text "s-1"⟩, none⟩ }]

/-- The fields refused for their gates, with the paths of these. -/
def refusedGates : Except Fault (Result × Option Tree) → List (String × String)
  | .ok (.error p, _) =>
    p.entries.filterMap fun
      | .dependent field path _ => some (field, path)
      | _ => none
  | _ => []

end Intake.Build
