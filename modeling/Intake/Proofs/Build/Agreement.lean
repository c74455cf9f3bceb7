import Intake.Proofs.Build.Copies
import Intake.Proofs.Build.Results

/-!
# Records and resolved trees

A build gives two things for a node: a record, and the resolved tree, in which paths are looked up.
They are made side by side, entry by entry, and they agree at every depth (`record_agrees`). The
record has a value for each declared name; what is present stands in both, a plain value as it is
and a composite one as the record and the tree of what was built below (`Trial.Mirrors`); what is
absent has its default in the record, and the tree keeps what was sent for it.

A node has a record only if nothing failed there (`Reported.clean`). What a field was built to then
consists of the records and trees of the nodes below (`Processed.mirrors`).
-/

namespace Intake.Build

open Intake.Schema Intake.Failure

/-- The nodes of a constructed value: the node itself, and those built below the fields that
    decided. -/
inductive Report.Contains : Report → Report → Prop
  | self (r : Report) : Contains r r
  | child {r q u : Report} {s : Step} {t : Trial} :
    s ∈ r.steps → s.trials.decisive = some t → u ∈ t.reports → Contains u q → Contains r q

/-- The value of a field and what the tree holds for it are one: the value itself if nothing stands
    below the field; the record of the node below, and its tree; or the records of the nodes below,
    and their trees, one for one. -/
inductive Trial.Mirrors (t : Trial) : Resolved → Prop
  | plain (v : Value) : t.field.isComposite = false → Mirrors t ⟨v, v⟩
  | single {m : Node} {u : Report} {v : Value} :
    t.field.child = .single m → t.reports = [u] → u.node = m → u.result = .ok v →
      Mirrors t ⟨v, u.tree.toValue⟩
  | many {m : Node} {vs : List Value} :
    t.field.child = .many m → (∀ u ∈ t.reports, u.node = m) →
      t.reports.map Report.result = vs.map .ok →
      Mirrors t ⟨.list vs, .list (t.reports.map fun u => u.tree.toValue)⟩

/-! ### What was built below a field -/

/-- Results without failures are records. -/
theorem ofResults_clean {field : String} {rs : List (Result × Tree)} {index : Nat}
    (h : (Items.ofResults field index rs).failures = []) :
    rs.map Prod.fst = (Items.ofResults field index rs).records.map .ok := by
  induction rs generalizing index with
  | nil => rfl
  | cons p rs ih =>
    obtain ⟨_ | m, tree⟩ := p
    · cases h
    · simp only [Items.ofResults, Items.cons] at h ⊢
      rw [List.map_cons, List.map_cons, ih h]

theorem trees_ofResults (field : String) (index : Nat) (rs : List (Result × Tree)) :
    (Items.ofResults field index rs).trees = rs.map fun p => p.2.toValue := by
  induction rs generalizing index with
  | nil => rfl
  | cons p rs ih =>
    obtain ⟨_ | m, tree⟩ := p <;> simp [Items.ofResults, Items.cons, ih]

/-- A field without failures has the value and the tree of what was built below it. -/
theorem Processed.mirrors {n : Node} {s : Scope} {v : Value} {t : Trial}
    (h : Processed n t.field s v t.outcome t.reports) (hclean : t.outcome.failures = [])
    {w : Resolved} (hw : t.outcome.resolved = some w) : t.Mirrors w := by
  generalize ho : t.outcome = o at h hclean hw
  generalize hrs : t.reports = rs at h
  cases h with
  | rejected _ hne => exact absurd hclean hne
  | plain _ hnone =>
    cases hw
    exact .plain _ (by rw [Field.isComposite, hnone]; rfl)
  | mistyped => cases hclean
  | @single _ m input r _ _ _ hm _ hr =>
    rw [Report.summary] at hclean hw
    cases hresult : r.result with
    | error p =>
      rw [hresult] at hclean
      cases hclean
    | ok a =>
      rw [hresult] at hw
      cases hw
      exact .single hm hrs hr.node hresult
  | @many _ m maps _ _ _ _ hm _ hus =>
    have hclean : (Items.ofResults t.field.name 0 (rs.map Report.summary)).failures = [] := hclean
    have hrecords := ofResults_clean hclean
    rw [List.map_map] at hrecords
    simp only [Outcome.ofItems, hclean, List.isEmpty_nil, if_true, trees_ofResults, List.map_map]
      at hw
    cases hw
    rw [← hrs] at hrecords ⊢
    refine .many hm (fun q hq => ?_) hrecords
    obtain ⟨_, -, hq⟩ := Run.exists_left hus q (hrs ▸ hq)
    exact hq.node

/-- The nodes below a field whose value was built have records. -/
theorem Trial.Mirrors.result {t : Trial} {w : Resolved} (h : t.Mirrors w) {u : Report}
    (hcomposite : t.field.isComposite = true) (hu : u ∈ t.reports) : ∃ v, u.result = .ok v := by
  cases h with
  | plain _ hplain =>
    rw [hplain] at hcomposite
    cases hcomposite
  | single _ hreports _ hresult =>
    rw [hreports] at hu
    obtain rfl := List.mem_singleton.1 hu
    exact ⟨_, hresult⟩
  | many _ _ hresults =>
    have hmem := hresults ▸ List.mem_map_of_mem hu
    obtain ⟨v, -, hv⟩ := List.mem_map.1 hmem
    exact ⟨v, hv.symm⟩

section Decided

variable {n : Node} {c : Context} {root? : Option Tree} {input : List (Value × Value)} {r : Report}
  {s : Step} {t : Trial}

/-- A present entry without failures was decided by a field that it has the value and the clauses
    of. -/
theorem Reported.mirrored (hn : n.IsProper) (h : Reported n c root? input r) (hs : s ∈ r.steps)
    (hclean : s.outcome.failures = []) {w : Resolved} (hw : s.outcome.resolved = some w) :
    ∃ t scope v, s.trials.decisive = some t ∧ t.field ∈ s.entry.fields ∧ t.outcome = s.outcome ∧
      Processed n t.field scope v t.outcome t.reports ∧ t.Mirrors w := by
  obtain ⟨t, ht⟩ := Trials.decisive_of_resolved hw
  obtain ⟨-, hf, houtcome, here, htried⟩ := h.decided hn hs ht
  rw [← houtcome] at hclean hw
  obtain ⟨v, hprocessed⟩ := htried.exists_processed hw
  exact ⟨t, _, v, ht, hf, houtcome, hprocessed, hprocessed.mirrors hclean hw⟩

/-- Where nothing failed in a node, the nodes built below what decided have records. -/
theorem Reported.child (hn : n.IsProper) (h : Reported n c root? input r) (hclean : r.Clean c root?)
    (hs : s ∈ r.steps) (ht : s.trials.decisive = some t) {u : Report} (hu : u ∈ t.reports) :
    ∃ f ∈ n.fields, ∃ m, f.child.node? = some m ∧ ∃ here input', Reported m c (some here) input' u ∧
      ∃ v, u.result = .ok v := by
  obtain ⟨hentry, hf, houtcome, here, htried⟩ := h.decided hn hs ht
  obtain ⟨m, hm, input', hreported⟩ := htried.reported u hu
  refine ⟨t.field, Node.mem_fields hentry hf, m, hm, _, input', hreported, ?_⟩
  -- The nodes below were built for a value, so that the entry is present.
  obtain ⟨w, hw⟩ := htried.present_of_reports hu
  obtain ⟨v, hprocessed⟩ := htried.exists_processed hw
  have hmirrors := hprocessed.mirrors (by rw [houtcome]; exact hclean.failures s hs) hw
  exact hmirrors.result (by rw [Field.isComposite, hm]; rfl) hu

end Decided

/-! ### Records that agree with trees -/

/-- The values of a record agree with the resolved tree of its node: there is one for each declared
    name; what is present stands in both; what is absent has its default, else null; and where
    nothing is present, the tree is that of the input. -/
structure Report.Agrees (q : Report) (values : List (String × Value)) : Prop where
  declared : values.map Prod.fst = q.node.names
  entries : (q.steps.map Step.entry).Perm q.node.entries
  present : ∀ s ∈ q.steps, ∀ w, s.outcome.resolved = some w →
    values.lookup s.entry.name = some w.value ∧ q.tree.get? s.entry.name = some w.tree ∧
      ∃ t, s.trials.decisive = some t ∧ t.field ∈ s.entry.fields ∧ t.Mirrors w
  absent : ∀ s ∈ q.steps, s.outcome.resolved = none →
    values.lookup s.entry.name = some (s.entry.default.getD .null)
  untouched : ∀ x, (∀ s ∈ q.steps, s.outcome.resolved.isSome = true → s.entry.name ≠ x) →
    q.tree.get? x = q.input.get? x

section Agreement

variable {n : Node} {c : Context} {root? : Option Tree} {input : List (Value × Value)} {r : Report}

/-- The resolved tree holds under the name of an entry what this resolves to, else what was sent. -/
theorem Reported.get?_entry (hn : n.IsProper) (h : Reported n c root? input r) {s : Step}
    (hs : s ∈ r.steps) :
    r.tree.get? s.entry.name =
      s.outcome.resolved.elim (r.input.get? s.entry.name) fun w => some w.tree := by
  obtain ⟨-, pre, post, here, htaken⟩ := h.taken s hs
  have hnodup := hn.nodup_evaluationOrder root?.isNone
  rw [htaken.own (Node.name_notMem_of_split htaken.split hnodup).2, Outcome.resolve]
  cases s.outcome.resolved with
  | none => exact htaken.get?_own hnodup
  | some w => exact Tree.get?_put_self _ _ _

/-- Nothing stands in the resolved tree but what was sent and what the entries resolve to. -/
theorem Reported.get?_of_ne (h : Reported n c root? input r) {x : String}
    (hx : ∀ s ∈ r.steps, s.entry.name ≠ x) : r.tree.get? x = r.input.get? x := by
  obtain ⟨-, -, ⟨p, -, hrefused⟩ | ⟨-, hevaluated⟩⟩ := h.cases
  · rw [hrefused]
  · obtain ⟨_, _, hsteps⟩ := hevaluated.steps
    refine reportParts_frame hsteps fun hmem => ?_
    obtain ⟨e, he, rfl⟩ := List.mem_map.1 hmem
    obtain ⟨s, hs, rfl⟩ := hevaluated.exists_step (Node.mem_evaluationOrder.1 he)
    exact hx s hs rfl

/-- Without a main validator, the values of a node agree with its tree. -/
theorem Reported.agrees (hn : n.IsProper) (h : Reported n c root? input r) {v : Value}
    (hv : r.result = .ok v) : r.Agrees (valuesOf n (Step.outcomes r.steps)) := by
  have hclean := h.clean hn hv
  obtain ⟨rfl, -, hevaluated⟩ := h.evaluated hv
  have hlookup : ∀ s ∈ r.steps, (valuesOf r.node (Step.outcomes r.steps)).lookup s.entry.name =
      some ((s.outcome.resolved.map (·.value)).getD (s.entry.default.getD .null)) := fun s hs => by
    rw [lookup_valuesOf hn.nodup _ (hevaluated.mem_entries hs),
      outcomes_of (hevaluated.nodup_names hn) hs]
  refine ⟨names_valuesOf _ _, hevaluated.entries_perm, fun s hs w hw => ?_, fun s hs hnone => ?_,
    fun x hx => ?_⟩
  · obtain ⟨t, _, _, ht, hf, -, -, hmirrors⟩ := h.mirrored hn hs (hclean.failures s hs) hw
    refine ⟨?_, ?_, t, ht, hf, hmirrors⟩
    · rw [hlookup s hs, hw]
      rfl
    · rw [h.get?_entry hn hs, hw]
      rfl
  · rw [hlookup s hs, hnone]
    rfl
  · by_cases hdeclared : ∃ s ∈ r.steps, s.entry.name = x
    · -- The entry of this name is absent.
      obtain ⟨s, hs, rfl⟩ := hdeclared
      rw [h.get?_entry hn hs]
      cases hw : s.outcome.resolved with
      | none => rfl
      | some w => exact absurd rfl (hx s hs (by rw [hw]; rfl))
    · exact h.get?_of_ne fun s hs heq => hdeclared ⟨s, hs, heq⟩

end Agreement

end Intake.Build
