import Intake.Proofs.Build.Steps

/-!
# Results of nodes

How a node comes to its result. A node that is refused fails with the names that are unknown or
missing (`refusal?_cases`). Any other one has a step for each of its entries
(`Report.Evaluated.entries_perm`), and settles (`settle_cases`): for the payload of all failures if
there are any, else for what the main validator answers. A node has a record only if nothing failed
(`Reported.clean`), and without a main validator the record holds the values of the entries
(`Reported.record`).

The outcomes of a node stand in the order of evaluation, and are found by the names of their
entries, which are distinct (`outcomes_of`, `lookup_valuesOf`). All failures of an entry are in the
payload of its node (`Report.Evaluated.exists_payload`).
-/

namespace Intake.Build

open Intake.Schema Intake.Failure

/-! ### Payloads -/

theorem aggregate_eq_none {es : List Failure.Entry} (h : aggregate es = none) : es = [] := by
  rw [aggregate] at h
  split at h
  · next hempty => exact List.isEmpty_iff.1 hempty
  · split at h
    · cases h
    · split at h <;> cases h

/-- The payload of collected failures holds them all, and there are some. -/
theorem aggregate_eq_some {es : List Failure.Entry} {p : Payload} (h : aggregate es = some p) :
    p.entries? = some es ∧ es ≠ [] := by
  rw [aggregate] at h
  split at h
  · cases h
  · next hne =>
    have hne : es ≠ [] := fun hnil => hne (by rw [hnil]; rfl)
    split at h
    · cases h
      exact ⟨rfl, hne⟩
    · split at h <;> cases h <;> exact ⟨rfl, hne⟩

/-- A node is refused for names it does not declare, or, if there are none, for names that are
    missing. -/
theorem refusal?_cases {n : Node} {mode : Mode} {t : Tree} {p : Payload}
    (h : refusal? n mode t = some p) :
    (unknownNames n t ≠ [] ∧ p = .authorized (unknownNames n t)) ∨
      (unknownNames n t = [] ∧ missingNames n mode t ≠ [] ∧
        p = .required (missingNames n mode t)) := by
  rw [refusal?] at h
  cases hunknown : unknownNames n t with
  | cons name names =>
    rw [hunknown] at h
    cases h
    exact .inl ⟨List.cons_ne_nil name names, rfl⟩
  | nil =>
    rw [hunknown] at h
    cases hmissing : missingNames n mode t with
    | nil =>
      rw [hmissing] at h
      cases h
    | cons name names =>
      rw [hmissing] at h
      cases h
      exact .inr ⟨rfl, List.cons_ne_nil name names, rfl⟩

theorem refusal?_eq_none {n : Node} {mode : Mode} {t : Tree} (h : refusal? n mode t = none) :
    unknownNames n t = [] ∧ missingNames n mode t = [] := by
  rw [refusal?] at h
  split at h
  · next hunknown hmissing => exact ⟨hunknown, hmissing⟩
  · cases h
  · cases h

/-! ### Values -/

/-- The outcome found under the name of a step is its own. -/
theorem outcomes_of {steps : List Step} (hnodup : (steps.map fun s => s.entry.name).Nodup)
    {s : Step} (hs : s ∈ steps) : (Step.outcomes steps).of s.entry = s.outcome := by
  have hnames : ((Step.outcomes steps).map Prod.fst).Nodup := by
    rw [Step.outcomes, List.map_map]
    exact hnodup
  have hmem : (s.entry.name, s.outcome) ∈ Step.outcomes steps := List.mem_map_of_mem hs
  rw [Outcomes.of, Tree.lookup_of_mem hnames hmem, Option.getD_some]

theorem names_valuesOf (n : Node) (os : Outcomes) : (valuesOf n os).map Prod.fst = n.names := by
  rw [valuesOf, List.map_map]
  rfl

/-- The value of an entry in the values of its node: its own if it is present, else its default, else
    null. -/
theorem lookup_valuesOf {n : Node} (hn : n.names.Nodup) (os : Outcomes) {e : Schema.Entry}
    (he : e ∈ n.entries) : (valuesOf n os).lookup e.name =
      some (((os.of e).resolved.map (·.value)).getD (e.default.getD .null)) := by
  refine Tree.lookup_of_mem (by rwa [names_valuesOf]) ?_
  exact List.mem_map_of_mem (f := fun e : Schema.Entry =>
    (e.name, ((os.of e).resolved.map (·.value)).getD (e.default.getD .null))) he

/-- The record made of the values of a node holds just these. -/
theorem recordOf_values {n : Node} (hn : n.names.Nodup) {os : Outcomes} {v : Value}
    (h : recordOf n ((valuesOf n os).map fun e => (.text e.1, e.2)) = .ok v) :
    v = .record n.name (valuesOf n os) := by
  rw [recordOf] at h
  split at h
  · cases h
  · cases h
    refine congrArg (Value.record n.name) ?_
    -- Every name is found among the values, so that no default is taken.
    rw [Node.defaults, List.map_map]
    conv_rhs => rw [valuesOf]
    refine List.map_congr_left fun e he => ?_
    simp only [Function.comp_apply, Value.findText?_tree, Tree.get?, lookup_valuesOf hn os he,
      Option.getD_some]

/-! ### Settling -/

/-- All failures of a node: those of its entries, and those of their clauses. -/
def failuresOf (n : Node) (os : Outcomes) (rejected : List (List Failure.Entry)) :
    List Failure.Entry :=
  (n.entries.flatMap fun e => (os.of e).failures) ++ rejected.flatten

/-- A node settles for the payload of its failures. If there are none, the main validator decides: it
    refuses the values, or leaves values that are made a record. -/
theorem settle_cases {n : Node} {os : Outcomes} {rejected : List (List Failure.Entry)}
    {result : Result} {j k : Journal} (h : (settle n os rejected).start j = (.ok result, k)) :
    (∃ p, aggregate (failuresOf n os rejected) = some p ∧ result = .error p) ∨
      failuresOf n os rejected = [] ∧
        ∃ answer i l, (runMain n (valuesOf n os)).start i = (.ok answer, l) ∧
          ((∃ p, answer = .error p ∧ result = .error p) ∨
            ∃ values v, answer = .ok values ∧ recordOf n values = .ok v ∧ result = .ok v) := by
  unfold settle at h
  dsimp only at h
  split at h
  · next p hsome =>
    cases h
    exact .inl ⟨p, hsome, rfl⟩
  · next hnone =>
    refine .inr ⟨aggregate_eq_none hnone, ?_⟩
    rw [Run.start_bind_eq_ok] at h
    obtain ⟨p | values, i, hmain, h⟩ := h
    · cases h
      exact ⟨_, _, _, hmain, .inl ⟨p, rfl, rfl⟩⟩
    · simp only [Run.start_bind_eq_ok, Run.start_ofExcept_eq_ok, Run.start_pure] at h
      obtain ⟨v, _, ⟨hv, -⟩, heq⟩ := h
      cases heq
      exact ⟨_, _, _, hmain, .inr ⟨values, v, rfl, hv, rfl⟩⟩

/-- Nothing failed in a node: it was not refused, no entry failed, and neither did a clause of one
    that is present. -/
structure Report.Clean (c : Context) (root? : Option Tree) (r : Report) : Prop where
  admitted : refusal? r.node c.mode r.input = none
  failures : ∀ s ∈ r.steps, s.outcome.failures = []
  clauses : ∀ s ∈ r.steps, s.outcome.resolved.isSome = true → ∃ j k,
    (Domain.evaluate r.node.functions (scopeOf c root? r.tree).lookup s.entry.name
      s.outcome.clauses).start j = (.ok [], k)

section Reported

variable {n : Node} {c : Context} {root? : Option Tree} {input : List (Value × Value)} {r : Report}

/-- A node that was not refused has a step for each of its entries. -/
theorem Report.Evaluated.entries_perm (h : r.Evaluated n c root?) :
    (r.steps.map Step.entry).Perm n.entries := by
  obtain ⟨_, _, hsteps⟩ := h.steps
  rw [(reportParts_steps hsteps).1]
  exact n.evaluationOrder_perm _

theorem Report.Evaluated.nodup_names (h : r.Evaluated n c root?) (hn : n.IsProper) :
    (r.steps.map fun s => s.entry.name).Nodup := by
  have hperm := h.entries_perm.map Entry.name
  rw [List.map_map] at hperm
  exact hperm.nodup_iff.2 hn.nodup

theorem Report.Evaluated.mem_entries (h : r.Evaluated n c root?) {s : Step} (hs : s ∈ r.steps) :
    s.entry ∈ n.entries :=
  h.entries_perm.mem_iff.1 (List.mem_map_of_mem hs)

theorem Report.Evaluated.exists_step (h : r.Evaluated n c root?) {e : Schema.Entry}
    (he : e ∈ n.entries) : ∃ s ∈ r.steps, s.entry = e :=
  List.mem_map.1 (h.entries_perm.mem_iff.2 he)

/-- The node of a report that has a record was evaluated. -/
theorem Reported.evaluated (h : Reported n c root? input r) {v : Value} (hv : r.result = .ok v) :
    r.node = n ∧ refusal? n c.mode r.input = none ∧ r.Evaluated n c root? := by
  obtain ⟨hnode, -, ⟨p, -, hrefused⟩ | ⟨hrefusal, hevaluated⟩⟩ := h.cases
  · rw [hrefused] at hv
    cases hv
  · exact ⟨hnode, hrefusal, hevaluated⟩

/-- Where a node has a record, nothing failed. -/
theorem Reported.clean (hn : n.IsProper) (h : Reported n c root? input r) {v : Value}
    (hv : r.result = .ok v) : r.Clean c root? := by
  obtain ⟨rfl, hrefusal, hevaluated⟩ := h.evaluated hv
  have hnodup := hevaluated.nodup_names hn
  obtain ⟨_, _, hrejected⟩ := hevaluated.rejected
  obtain ⟨_, _, hresult⟩ := hevaluated.result
  rw [hv] at hresult
  obtain ⟨p, -, hfailed⟩ | ⟨hnil, -⟩ := settle_cases hresult
  · cases hfailed
  rw [failuresOf, List.append_eq_nil_iff, List.flatMap_eq_nil_iff, List.flatten_eq_nil_iff] at hnil
  refine ⟨hrefusal, fun s hs => ?_, fun s hs hpresent => ?_⟩
  · rw [← outcomes_of hnodup hs]
    exact hnil.1 s.entry (hevaluated.mem_entries hs)
  · -- The clauses of a present entry were evaluated on the resolved tree, and gave no failures.
    obtain ⟨es, hes, i, l, hrun⟩ :=
      Run.exists_right (Run.forall₂_of_mapM hrejected) s.entry (hevaluated.mem_entries hs)
    rw [hnil.2 es hes, rejectionsOf] at hrun
    simp only [outcomes_of hnodup hs, hpresent, if_true] at hrun
    exact ⟨i, l, hrun⟩

/-- Without a main validator, the record of a node holds its values. -/
theorem Reported.record (hn : n.IsProper) (h : Reported n c root? input r) (hmain : n.main = none)
    {v : Value} (hv : r.result = .ok v) :
    v = .record n.name (valuesOf n (Step.outcomes r.steps)) := by
  obtain ⟨-, -, hevaluated⟩ := h.evaluated hv
  obtain ⟨_, _, hresult⟩ := hevaluated.result
  rw [hv] at hresult
  obtain ⟨p, -, hfailed⟩ | ⟨-, _, _, _, hanswer, ⟨p, -, hfailed⟩ | ⟨values, w, rfl, hw, heq⟩⟩ :=
    settle_cases hresult
  · cases hfailed
  · cases hfailed
  · cases heq
    rw [runMain] at hanswer
    rw [hmain] at hanswer
    cases hanswer
    exact recordOf_values hn.nodup hw

end Reported

/-! ### Accepted inputs -/

/-- A node answered with a record. -/
def isAccepted {α : Type} : Except Fault (Result × α) → Bool
  | .ok (.ok _, _) => true
  | _ => false

theorem exists_of_isAccepted {α : Type} {x : Run (Result × α)} {j : Journal}
    (h : isAccepted (x.start j).1 = true) : ∃ v tree k, x.start j = (.ok (.ok v, tree), k) := by
  rcases hx : x.start j with ⟨_ | ⟨_ | v, tree⟩, k⟩
  · rw [hx] at h
    cases h
  · rw [hx] at h
    cases h
  · exact ⟨v, tree, k, rfl⟩

end Intake.Build
