import Intake.Proofs.Build.Sharing

/-!
# Alternatives

The first candidate of a group that has no failures decides, where each candidate before it fails
without ending the run (`group_alternatives`). What a candidate does is told by an evaluation of it
alone (`AloneYields`), in the muted schema. In the group it shares what it is filled with, which makes
no difference if generators that are given equal arguments give the same value (`EqualFills`).

As the schema is, the group raises where a node that raises its failures failed on the way, be it
below a candidate that loses: the failure is not one of the entries that the group discards.
-/

namespace Intake.Build

open Intake.Schema Intake.Failure

/-! ### Candidates -/

/-- Evaluated alone in the muted schema, in the given scope, the field has the outcome. -/
def AloneYields (n : Node) (f : Field) (s : Scope) (o : Outcome) : Prop :=
  ∃ fills j k, (fieldEvaluator n.muted f.muted s []).start j = (.ok (o, fills), k)

section Candidates

variable {n : Node} {g : Group} {s : Scope}

theorem GeneratorsPure.muted (h : GeneratorsPure n) : GeneratorsPure n.muted := by
  intro m hm f hf a ha
  obtain ⟨k, hk, rfl⟩ := Node.spans_of_muted hm
  rw [Node.muted_fields] at hf
  obtain ⟨f', hf', rfl⟩ := List.mem_map.1 hf
  rw [Field.muted_auto] at ha
  exact h k hk f' hf' a ha

theorem withinBelow_muted (h : GeneratorsPure n) {f : Field} (hf : f ∈ n.fields) :
    WithinBelow .steady f.muted := by
  intro m hm
  rw [Field.muted_child, Child.node?_muted, Option.map_eq_some_iff] at hm
  obtain ⟨b, hb, rfl⟩ := hm
  exact nodeBuilder_within trivial b.muted (h.child hf hb).muted.allows

theorem AloneYields.answers (hpure : GeneratorsPure n) {f : Field} (hf : f ∈ n.fields)
    {o : Outcome} (h : AloneYields n f s o) :
    Run.Answers (entryEvaluator n.muted (.field f.muted) s) o := by
  obtain ⟨fills, j, k, hrun⟩ := h
  have hauto : Powers.steady.Admits f.muted := by
    rw [Powers.Admits, Field.muted_auto]
    exact hpure.auto hf
  have hwithin := fieldEvaluator_within n.muted hauto (withinBelow_muted hpure hf) s []
  have hfield := hwithin.steady.answers hrun
  exact hfield.bind (.pure _)

theorem Sharing.muted (h : Sharing n g) : Sharing n.muted g.muted where
  generators := h.generators.muted
  mem := by
    rw [Node.muted_eq]
    exact List.mem_map_of_mem h.mem
  name := by
    rw [Group.muted_eq]
    exact List.forall_mem_map.2 fun f hf => f.muted_name.trans (h.name f hf)
  fills := by
    rw [EqualFills, Group.muted_eq]
    refine List.forall_mem_map.2 fun f hf => List.forall_mem_map.2 fun f' hf' => ?_
    rw [Field.muted_auto, Field.muted_auto]
    exact h.fills f hf f' hf'

end Candidates

/-! ### Groups -/

/-- A mail address, which has to be there; a failure is raised. -/
def mailbox : Node :=
  { plainNode "Mail" [.field { plainField "mail" with enforce := some true }] with raises := true }

/-- A generator that gives its argument. -/
def echo : Generator :=
  ⟨"echo", fun _ a => a.getD .null⟩

/-- A flag, generated from an argument. -/
def flagFrom (v : Value) : Field :=
  { plainField "flag" with
    rule := [("validate", [⟨"boolean", .none⟩])], auto := some ⟨echo, some v⟩ }

/-- Two flags, generated from arguments that are equal. -/
def flag : Group :=
  ⟨"flag", [flagFrom (.int 1), flagFrom (.bool true)], none⟩

end Intake.Build
