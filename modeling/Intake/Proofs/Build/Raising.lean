import Intake.Proofs.Build.Copies
import Intake.Proofs.Build.Course
import Intake.Proofs.Build.Results

/-!
# Raising failures

Whether nodes raise their failures changes how a failure is delivered, and nothing else. A build is
compared with that of the muted schema, in whose course are the nodes that it finishes
(`Event.finished`): where none of those that ask for it failed, both builds end alike; otherwise the
build ends with the payload of the first of them to fail (`build_eq_muted`). This payload is not lost
in the muted build: it stands in the payload of the root, at some depth (`Payload.Occurs`).

A group discards the failures of candidates that lose, so that no node below a candidate may raise
(`Node.SparesGroups`).
-/

namespace Intake.Failure

/-- The payload occurs in another one: it is this one itself, or it occurs in the payload of a nested
    entry. -/
inductive Payload.Occurs (q : Payload) : Payload → Prop
  | self : Occurs q q
  | nested {p p' : Payload} {field : String} {index : Option Int} :
    .nested field p' index ∈ p.entries → Occurs q p' → Occurs q p

end Intake.Failure

namespace Intake

open Intake.Schema Intake.Build Intake.Failure

variable {α β : Type}

end Intake

namespace Intake.Build

open Intake.Schema Intake.Failure

/-! ### The nodes finished in a course -/

/-- No node below a candidate of a group raises. -/
def SparesGroups (n : Node) : Prop :=
  ∀ m, n.Spans m → ∀ g, .group g ∈ m.entries → ∀ f ∈ g.candidates, ∀ b, f.child.node? = some b →
    ∀ k, b.Spans k → k.raises = false

theorem SparesGroups.child {n m : Node} {f : Field} (h : SparesGroups n) (hf : f ∈ n.fields)
    (hm : f.child.node? = some m) : SparesGroups m :=
  fun k hk => h k (.child hf hm hk)

theorem mem_of_firstRaising? {es : List Event} {m : Node} {q : Payload}
    (h : firstRaising? es = some (m, q)) : .finished m (.error q) ∈ es ∧ m.raises = true := by
  obtain ⟨e, he, hraising⟩ := List.exists_of_findSome?_eq_some h
  unfold Event.raising? at hraising
  split at hraising
  · next n p =>
    split at hraising
    · next hraises =>
      cases hraising
      exact ⟨he, hraises⟩
    · cases hraising
  · cases hraising

/-- What is needed to log in: an action. A failure is raised. -/
def credentials : Node :=
  { plainNode "Auth" [.field { plainField "action" with enforce := some true }] with raises := true }

/-- A login, with what is needed for it below. -/
def login : Node :=
  plainNode "Login" [.field { plainField "auth" with child := .single credentials }]

end Intake.Build
