import Intake.Proofs.Build.Schedule
import Intake.Proofs.Build.Slicing
import Intake.Proofs.Build.Soundness
import Intake.Proofs.Check.Alike
import Intake.Proofs.Schema.Reordering
import Intake.Proofs.Tree.Alike

/-!
# Builds in another order

The order in which a schema declares its entries does not matter: a schema and a reordered one build
alike results of every input (`build_reordered`). This needs that no node has cycles, that no field
has a gate, which would be looked at without waiting for its path, that copied paths have a first
segment, and that clauses below the root stay in their node. What the user supplies must not depend
on the order of maps.

A node is compared with a reordered one against two roots that hold alike values where the node
copies from (`RootsAlike`). Their entries are evaluated in two orders, in which they see alike values
(`counterpart_of_reordered`), so that the resolved trees are alike, and with them what the clauses
find, the failures and the values.
-/

namespace Intake.Build

open Intake.Schema Intake.Failure

open Likeness (alike alike_lawful)

/-! ### Schemas whose order does not matter -/

/-- What the user supplies for a node does not depend on the order of maps. -/
structure IsInsensitive (n : Node) : Prop where
  field : ∀ f ∈ n.fields, alike.RespectsField n f
  main : ∀ g, n.main = some (.call g) → alike.Respects g

/-- Where the user supplies nothing, nothing depends on the order of maps. -/
theorem isInsensitive_of_unsupplied {n : Node} (hfunctions : n.functions = [])
    (hvalidator : n.validator = none) (hmain : n.main = none)
    (hfields : ∀ f ∈ n.fields, f.validator = none ∧ f.auto = none) : IsInsensitive n := by
  refine ⟨fun f hf => ⟨?_, fun v hv => ?_, fun a ha => ?_⟩, fun g hg => ?_⟩
  · rw [hfunctions]
    exact fun _ _ h => absurd h List.not_mem_nil
  · rw [validatorOf, (hfields f hf).1, hvalidator] at hv
    cases hv
  · rw [(hfields f hf).2] at ha
    cases ha
  · rw [hmain] at hg
    cases hg

/-- No field of the node has a gate. -/
def IsUngated (n : Node) : Prop :=
  ∀ f ∈ n.fields, f.gated? = none

/-- The order of a node, at the root or below it, does not matter. -/
structure Sortable (atRoot : Bool) (n : Node) : Prop where
  proper : n.IsProper
  acyclic : n.IsAcyclic atRoot
  ungated : IsUngated n
  insensitive : IsInsensitive n
  named : ∀ f ∈ n.fields, ∀ path, f.copied? = some path →
    ∃ x, (Path.ofString path).first? = some x
  relative : atRoot = false → ∀ f ∈ n.fields, ∀ cl ∈ f.clauses, ∀ path ∈ cl.reads, IsRelative path

/-- The order of the nodes below a node does not matter. -/
def SortableBelow (n : Node) : Prop :=
  ∀ f ∈ n.fields, ∀ m, f.child.node? = some m → ∀ k, m.Spans k → Sortable false k

theorem SortableBelow.child {n m : Node} {f : Field} (h : SortableBelow n) (hf : f ∈ n.fields)
    (hm : f.child.node? = some m) : Sortable false m ∧ SortableBelow m :=
  ⟨h f hf m hm m (.self m), fun _ hg _ hk k' hk' => h f hf m hm k' (.child hg hk hk')⟩

/-- A node is built at the root twice, or against two roots that hold alike values where the node
    copies from. -/
inductive RootsAlike (n : Node) : Option Tree → Option Tree → Prop
  | root : RootsAlike n none none
  | below {r r' : Tree} : (∀ x ∈ n.anchoredSources, RelatedAt Value.Alike r r' x) →
    RootsAlike n (some r) (some r')

/-! ### Entries in alike scopes -/

section Entries

variable {n n' : Node} {c : Context} {root? root?' : Option Tree} {e e' : Schema.Entry} {t t' : Tree}

/-- A path that an entry copies from leads to alike values. -/
theorem lookup_alike (hroots : RootsAlike n root? root?') (he : e ∈ n.entries) {f : Field}
    (hf : f ∈ e.fields) {path x : String} (hsource : f.source = some path)
    (hx : (Path.ofString path).first? = some x)
    (hseen : SeenAlike Value.Alike root?.isNone e t t') :
    Run.Matched (Option.Rel Value.Alike) ((scopeOf c root? t).lookup path)
      ((scopeOf c root?' t').lookup path) := by
  -- An anchored path begins at the other root, where the node stands below it.
  rw [lookup_scopeOf, lookup_scopeOf, Path.resolve, Path.resolve]
  cases hanchored : (Path.ofString path).anchored with
  | false =>
    exact Path.find_alike_tree hx
      (hseen.source x (Entry.mem_sources hf hsource (.inr hanchored) hx))
  | true =>
    cases hroots with
    | root =>
      exact Path.find_alike_tree hx (hseen.source x (Entry.mem_sources hf hsource (.inl rfl) hx))
    | below h =>
      exact Path.find_alike_tree hx (h x
        (Node.mem_anchoredSources (.self n) (Node.mem_fields he hf) hsource hanchored hx))

/-- The nodes below an entry are built against alike roots. -/
theorem RootsAlike.child (hroots : RootsAlike n root? root?') (he : e ∈ n.entries) {f : Field}
    (hf : f ∈ e.fields) {m : Node} (hm : f.child.node? = some m)
    (hseen : SeenAlike Value.Alike root?.isNone e t t') :
    RootsAlike m (some (scopeOf c root? t).root) (some (scopeOf c root?' t').root) := by
  refine .below fun x hx => ?_
  cases hroots with
  | root => exact hseen.source x (Entry.mem_sources_of_anchored hf hm hx)
  | below h =>
    refine h x ?_
    rw [Node.anchoredSources_eq, List.mem_flatMap]
    refine ⟨f, Node.mem_fields he hf, ?_⟩
    rw [Field.anchoredSources_eq, Child.anchoredSources_of_node? hm]
    exact List.mem_append_right _ hx

/-- The evaluation of an open field reads alike values where its entry sees alike values. -/
theorem readsAlike_of_seen (hn : Sortable root?.isNone n) (hroots : RootsAlike n root? root?')
    (he : e ∈ n.entries) {f : Field} (hf : f ∈ e.fields)
    (hseen : SeenAlike Value.Alike root?.isNone e t t') :
    ReadsAlike alike f (scopeOf c root? t) (scopeOf c root?' t') := by
  have hmem := Node.mem_fields he hf
  have hsent : Option.Rel Value.Alike (t.sent? f.name) (t'.sent? f.name) := by
    have hown := hseen.own
    rw [← hn.proper.name_of_mem e he f hf] at hown
    exact Run.rel_filter hown fun _ _ h => by rw [h.isNull]
  refine .of_lookups hsent (fun path hgate => ?_) fun path hcopied => ?_
  · rw [hn.ungated f hmem] at hgate
    cases hgate
  · obtain ⟨x, hx⟩ := hn.named f hmem path hcopied
    exact lookup_alike hroots he hf (Field.source_of_copied? hcopied) hx hseen

/-- A node and a reordered one build alike maps to alike results, against alike roots. -/
def BuildsAlike (n : Node) : Prop :=
  ∀ n', n.Reordered n' → ∀ c root? root?', RootsAlike n root? root?' →
    Sortable root?.isNone n → SortableBelow n → ∀ es es', Value.Alike (.map es) (.map es') →
      Run.Agree alike.Built (nodeBuilder n c root? es) (nodeBuilder n' c root?' es')

/-- What stands below a field is built alike, in whatever order. -/
theorem childBuilder_alike {f : Field} {ch : Child} (hchild : f.child.Reordered ch) {s s' : Scope}
    (hcontext : s.context = s'.context)
    (hbuilds : ∀ m, f.child.node? = some m → BuildsAlike m ∧ Sortable false m ∧ SortableBelow m ∧
      RootsAlike m (some s.root) (some s'.root)) :
    Option.Rel (BelowAgree alike f ch s s') (childBuilder f.child) (childBuilder ch) := by
  have hagree : ∀ m m', f.child.node? = some m → m.Reordered m' →
      BuildersAgree alike s s' (nodeBuilder m) (nodeBuilder m') := by
    intro m m' hm hmm' es es' hes
    obtain ⟨hbuild, hsortable, hbelow, hroots⟩ := hbuilds m hm
    rw [← hcontext]
    exact hbuild m' hmm' s.context _ _ hroots hsortable hbelow es es' hes
  generalize f.child = ch' at hchild hagree
  cases hchild with
  | none => exact .none
  | single h => exact .some (buildSingle_agree alike_lawful (hagree _ _ rfl h))
  | many h => exact .some (buildMany_agree alike_lawful (hagree _ _ rfl h))

/-- An entry and the reordered one stand for each other. -/
theorem counterpart_of_reordered (hreordered : n.Reordered n') (hn : Sortable root?.isNone n)
    (hbelow : SortableBelow n) (hroots : RootsAlike n root? root?')
    (hbuilds : ∀ f ∈ n.fields, ∀ m, f.child.node? = some m → BuildsAlike m) (he : e ∈ n.entries)
    (hee' : e.Reordered e') :
    Counterpart Value.Alike alike.Outcome n n' c root? root?' root?.isNone e e' where
  name := hee'.name_eq
  sources := hee'.mem_sources root?.isNone
  agree t t' hseen := by
    have hvalidator : n'.validator = n.validator := by
      rw [hreordered.eq_withEntries]
    have hfunctions : n'.functions = n.functions := by
      rw [hreordered.eq_withEntries]
    refine entryEvaluator_alike alike_lawful hvalidator hfunctions
      (fun f hf => hn.insensitive.field f (Node.mem_fields he hf)) ?_
    refine ((List.forall₂_and_left _ _).2 ⟨fun f hf => hf, hee'.fields⟩).imp ?_
    rintro f _ ⟨hf, ⟨hchild⟩⟩
    have hmem := Node.mem_fields he hf
    refine ⟨rfl, readsAlike_of_seen hn hroots he hf hseen, childBuilder_alike hchild rfl ?_⟩
    intro m hm
    obtain ⟨hsortable, hbelow'⟩ := hbelow.child hmem hm
    exact ⟨hbuilds f hmem m hm, hsortable, hbelow', hroots.child he hf hm hseen⟩

end Entries

/-! ### Alike outcomes -/

section Outcomes

variable {n n' : Node} {c : Context} {root? root?' : Option Tree}

theorem unknownNames_alike (hreordered : n.Reordered n') {t t' : Tree} (ht : t.Alike t') :
    (unknownNames n t).Perm (unknownNames n' t') := by
  have hclosed : n'.closed = n.closed := by
    rw [hreordered.eq_withEntries]
  have hnames : ∀ name, n'.names.contains name = n.names.contains name :=
    fun name => hreordered.names_perm.symm.contains_eq
  rw [unknownNames, unknownNames]
  rw [hclosed]
  split
  · simp only [hnames]
    exact ht.names_perm.filter _
  · exact .nil

theorem missingNames_alike (hreordered : n.Reordered n') (mode : Mode) {t t' : Tree}
    (ht : t.Alike t') : (missingNames n mode t).Perm (missingNames n' mode t') := by
  have hhas : ∀ name, t'.has name = t.has name := by
    intro name
    rw [Bool.eq_iff_iff, ← Tree.mem_names_iff, ← Tree.mem_names_iff, ht.names_perm.mem_iff]
  cases mode with
  | edit => exact .nil
  | create =>
    rw [missingNames, missingNames]
    simp only [hhas]
    exact hreordered.required_perm.filter _

/-- Names refused or asked for are the same up to their order. -/
theorem refusal?_alike (hreordered : n.Reordered n') (mode : Mode) {t t' : Tree} (ht : t.Alike t') :
    Option.Rel Payload.Alike (refusal? n mode t) (refusal? n' mode t') := by
  have hunknown := unknownNames_alike hreordered ht
  have hmissing := missingNames_alike hreordered mode ht
  rw [refusal?, refusal?]
  generalize unknownNames n t = us at hunknown
  generalize unknownNames n' t' = us' at hunknown
  generalize missingNames n mode t = ms at hmissing
  generalize missingNames n' mode t' = ms' at hmissing
  -- Unknown names are told before missing ones.
  rcases us with _ | ⟨x, us⟩
  · obtain rfl := List.nil_perm.1 hunknown
    rcases ms with _ | ⟨y, ms⟩
    · obtain rfl := List.nil_perm.1 hmissing
      exact .none
    · rcases ms' with _ | ⟨y', ms'⟩
      · exact absurd (List.perm_nil.1 hmissing) (List.cons_ne_nil _ _)
      · exact .some (.required hmissing)
  · rcases us' with _ | ⟨x', us'⟩
    · exact absurd (List.perm_nil.1 hunknown) (List.cons_ne_nil _ _)
    · exact .some (.authorized hunknown)

/-- Related outcomes are found for an entry and the reordered one. -/
theorem of_alike {os os' : Outcomes}
    (hos : ∀ x, Option.Rel alike.Outcome (os.lookup x) (os'.lookup x)) {e e' : Schema.Entry}
    (hee' : e.Reordered e') : alike.Outcome (os.of e) (os'.of e') := by
  rw [Outcomes.of, Outcomes.of, hee'.name_eq]
  exact Run.rel_getD (hos e.name) ⟨.none, rearranged_refl [], rfl⟩

/-- A path of a clause leads to alike values in alike resolved trees. -/
theorem lookup_resolved_alike (hroots : RootsAlike n root? root?') {u u' : Tree} (hu : u.Alike u')
    {path : String} (hpath : root?.isNone = false → IsRelative path) :
    Domain.SameAt alike (scopeOf c root? u).lookup (scopeOf c root?' u').lookup path := by
  rw [Domain.SameAt, lookup_scopeOf, lookup_scopeOf, Path.resolve, Path.resolve]
  cases hroots with
  | root =>
    split
    · exact (Path.find_alike _ hu.toValue).matched
    · exact (Path.find_alike _ hu.toValue).matched
  | below =>
    rw [show (Path.ofString path).anchored = false from hpath rfl]
    exact (Path.find_alike _ hu.toValue).matched

/-- The clauses of an entry and of the reordered one are rejected alike on alike resolved trees. -/
theorem rejectionsOf_alike (hreordered : n.Reordered n') (hn : Sortable root?.isNone n)
    (hroots : RootsAlike n root? root?') {os os' : Outcomes} (hof : OutcomesOf n os)
    (hos : ∀ x, Option.Rel alike.Outcome (os.lookup x) (os'.lookup x)) {u u' : Tree}
    (hu : u.Alike u') {e e' : Schema.Entry} (he : e ∈ n.entries) (hee' : e.Reordered e') :
    Run.Agree (Rearranged Failure.Entry.Alike) (rejectionsOf n (scopeOf c root? u) os e)
      (rejectionsOf n' (scopeOf c root?' u') os' e') := by
  have hfunctions : n'.functions = n.functions := by
    rw [hreordered.eq_withEntries]
  obtain ⟨hresolved, -, hclauses⟩ := of_alike hos hee'
  have hpresent := Run.rel_isSome hresolved
  unfold rejectionsOf
  dsimp only
  rw [← hpresent, ← hclauses, hfunctions, hee'.name_eq]
  split
  · rcases hof.clauses hn.proper he with hnil | ⟨f, hf, hown⟩
    · rw [hnil]
      exact .pure (rearranged_refl [])
    · -- The clauses are those of one field, and their paths lead to alike values.
      have hmem := Node.mem_fields he hf
      refine Domain.evaluate_agree alike_lawful (hn.insensitive.field f hmem).functions e.name _ ?_
      intro cl hcl path hpath
      rw [hown] at hcl
      exact lookup_resolved_alike hroots hu fun hbelow => hn.relative hbelow f hmem cl hcl path hpath
  · exact .pure (rearranged_refl [])

/-- The values under the names of a node and of a reordered one differ in order only. -/
theorem exists_paired_of_reordered (hreordered : n.Reordered n') (hn : n.IsProper)
    (g g' : Schema.Entry → Value) (hg : ∀ e e', e.Reordered e' → (g e).Alike (g' e')) :
    ∃ l, Paired Value.Alike (n.entries.map fun e => (e.name, g e)) l ∧
      Shuffle Prod.fst l (n'.entries.map fun e => (e.name, g' e)) := by
  have hn' := hreordered.isProper hn
  rcases hreordered with @⟨n, es, es', hentries, hperm⟩
  refine ⟨es.map fun e => (e.name, g' e), ?_, .of_perm (hperm.map _) ?_⟩
  · exact Paired.of_map hentries fun e e' h => ⟨h.name_eq.symm, hg e e' h⟩
  · rw [List.map_map]
    exact (hperm.map Entry.name).nodup_iff.2 hn'.nodup

/-- Alike outcomes give alike values. -/
theorem valuesOf_alike (hreordered : n.Reordered n') (hn : n.IsProper) {os os' : Outcomes}
    (hos : ∀ x, Option.Rel alike.Outcome (os.lookup x) (os'.lookup x)) :
    (Tree.toValue (valuesOf n os)).Alike (Tree.toValue (valuesOf n' os')) := by
  have hvalue : ∀ e e' : Schema.Entry, e.Reordered e' →
      Value.Alike (((os.of e).resolved.map (·.value)).getD (e.default.getD .null))
        (((os'.of e').resolved.map (·.value)).getD (e'.default.getD .null)) := by
    intro e e' hee'
    obtain ⟨hresolved, -, -⟩ := of_alike hos hee'
    rw [hee'.default_eq]
    exact Run.rel_getD (Run.rel_map hresolved fun _ _ hr => hr.value) (.refl _)
  obtain ⟨l, hpaired, hshuffle⟩ := exists_paired_of_reordered hreordered hn _ _ hvalue
  refine Tree.Alike.toValue ⟨?_, ?_, fun x => Value.lookup_alike hpaired hshuffle x⟩
  · rw [Tree.names, valuesOf, List.map_map]
    exact hn.nodup
  · rw [Tree.names, valuesOf, List.map_map]
    exact (hreordered.isProper hn).nodup

/-- Alike values make alike records. -/
theorem recordOf_alike (hreordered : n.Reordered n') (hn : n.IsProper)
    {es es' : List (Value × Value)} (hes : Value.Alike (.map es) (.map es')) :
    Run.Matched Value.Alike (recordOf n es) (recordOf n' es') := by
  have hname : n'.name = n.name := by
    rw [hreordered.eq_withEntries]
  have htaken : (n.names.contains takenName && (Value.findText? takenName es).isSome) =
      (n'.names.contains takenName && (Value.findText? takenName es').isSome) := by
    rw [hreordered.names_perm.contains_eq, Run.rel_isSome (hes.findText? takenName)]
  have hvalue : ∀ e e' : Schema.Entry, e.Reordered e' →
      Value.Alike ((Value.findText? e.name es).getD (e.default.getD .null))
        ((Value.findText? e'.name es').getD (e'.default.getD .null)) := by
    intro e e' hee'
    rw [hee'.default_eq, hee'.name_eq]
    exact Run.rel_getD (hes.findText? e.name) (.refl _)
  obtain ⟨l, hpaired, hshuffle⟩ := exists_paired_of_reordered hreordered hn _ _ hvalue
  rw [recordOf, recordOf]
  rw [htaken, hname]
  split
  · exact trivial
  · rw [Node.defaults, Node.defaults, List.map_map, List.map_map]
    exact .record hpaired hshuffle

/-- The failures of the entries of a node and of a reordered one differ in order only. -/
theorem failures_alike (hreordered : n.Reordered n') {os os' : Outcomes}
    (hos : ∀ x, Option.Rel alike.Outcome (os.lookup x) (os'.lookup x)) :
    Rearranged Failure.Entry.Alike (n.entries.flatMap fun e => (os.of e).failures)
      (n'.entries.flatMap fun e => (os'.of e).failures) := by
  rcases hreordered with @⟨n, es, es', hentries, hperm⟩
  rw [List.flatMap_def, List.flatMap_def]
  refine Rearranged.flatten ⟨es.map fun e => (os'.of e).failures, ?_, hperm.map _⟩
  rw [List.forall₂_map_left_iff, List.forall₂_map_right_iff]
  exact hentries.imp fun e e' hee' => (of_alike hos hee').failures

/-- The clauses of all entries are rejected alike. -/
theorem rejections_alike (hreordered : n.Reordered n') (hn : Sortable root?.isNone n)
    (hroots : RootsAlike n root? root?') {os os' : Outcomes} (hof : OutcomesOf n os)
    (hos : ∀ x, Option.Rel alike.Outcome (os.lookup x) (os'.lookup x)) {u u' : Tree}
    (hu : u.Alike u') :
    Run.Agree (Rearranged (Rearranged Failure.Entry.Alike))
      (n.entries.mapM (rejectionsOf n (scopeOf c root? u) os))
      (n'.entries.mapM (rejectionsOf n' (scopeOf c root?' u') os')) := by
  have hentry : ∀ e ∈ n.entries, ∀ e', e.Reordered e' → _ :=
    fun e he e' hee' => rejectionsOf_alike (c := c) hreordered hn hroots hof hos hu he hee'
  rcases hreordered with @⟨n, es, es', hentries, hperm⟩
  -- First entry by entry, in the order of the node; then in the other order.
  refine (Run.Agree.mapM (((List.forall₂_and_left _ _).2 ⟨fun e he => he, hentries⟩).imp
    fun e e' h => hentry e h.1 e' h.2)).trans
    (Run.Agree.mapM_perm hperm fun e _ => (asks_rejections _ _ _ e).steady) fun _ _ _ h hperm => ?_
  exact (Rearranged.of_forall₂ h).trans_perm hperm

end Outcomes

/-! ### Nodes -/

section Nodes

variable {n n' : Node} {c : Context} {root? root?' : Option Tree}

/-- The entries of a node and of a reordered one are evaluated in two orders that match. -/
theorem matching_of_reordered (hreordered : n.Reordered n') (hn : Sortable root?.isNone n)
    (hbelow : SortableBelow n) (hroots : RootsAlike n root? root?')
    (hbuilds : ∀ f ∈ n.fields, ∀ m, f.child.node? = some m → BuildsAlike m) :
    Matching Value.Alike alike.Outcome n n' c root? root?' root?.isNone
      (evaluationOrder root?.isNone n.entries) (evaluationOrder root?.isNone n'.entries) where
  ordered := Node.evaluationOrder_isOrdered hn.proper hn.acyclic
  nodup := hn.proper.nodup_evaluationOrder _
  ordered' :=
    Node.evaluationOrder_isOrdered (hreordered.isProper hn.proper) (hreordered.isAcyclic hn.acyclic)
  nodup' := (hreordered.isProper hn.proper).nodup_evaluationOrder _
  partner e he := by
    have he := Node.mem_evaluationOrder.1 he
    obtain ⟨e', he', hee'⟩ := hreordered.exists_entry' he
    exact ⟨e', Node.mem_evaluationOrder.2 he',
      counterpart_of_reordered hreordered hn hbelow hroots hbuilds he hee'⟩
  partner' e' he' := by
    obtain ⟨e, he, hee'⟩ := hreordered.exists_entry (Node.mem_evaluationOrder.1 he')
    exact ⟨e, Node.mem_evaluationOrder.2 he,
      counterpart_of_reordered hreordered hn hbelow hroots hbuilds he hee'⟩

/-- A node and a reordered one are evaluated to alike results for alike trees. -/
theorem evaluateNode_alike (hreordered : n.Reordered n') (hn : Sortable root?.isNone n)
    (hbelow : SortableBelow n) (hroots : RootsAlike n root? root?')
    (hbuilds : ∀ f ∈ n.fields, ∀ m, f.child.node? = some m → BuildsAlike m) {t t' : Tree}
    (ht : t.Alike t') :
    Run.Agree alike.Built
      (evaluateNode n (n.entries.map fun e => (e, entryEvaluator n e)) c root? t)
      (evaluateNode n' (n'.entries.map fun e => (e, entryEvaluator n' e)) c root?' t') := by
  have hroot : root?'.isNone = root?.isNone := by
    cases hroots <;> rfl
  have hrefusal := refusal?_alike hreordered c.mode ht
  rw [evaluateNode, evaluateNode]
  generalize refusal? n c.mode t = p? at hrefusal
  generalize refusal? n' c.mode t' = q? at hrefusal
  rcases hrefusal with hpq | _
  · -- Refused at once, the trees stay as they were read.
    exact .pure ⟨.error hpq, ht.toValue⟩
  dsimp only
  rw [hroot, orderedParts_eq, orderedParts_eq]
  have hmem : ∀ e ∈ evaluationOrder root?.isNone n.entries, e ∈ n.entries :=
    fun _ => Node.mem_evaluationOrder.1
  -- The two orders match, so that the outcomes are alike, and the resolved trees.
  have hparts := evaluateParts_agree_of_matching (c := c)
    (fun _ _ ho => Run.rel_map ho.resolved fun _ _ h => h.tree)
    (matching_of_reordered hreordered hn hbelow hroots hbuilds) ht.get?
  refine ((hparts.and_left (P := fun p => OutcomesOf n p.1 ∧ p.2.names.Nodup) ?_).and_right
    (P := fun q => q.2.names.Nodup) ?_).bind ?_
  · exact fun _ _ _ hrun =>
      ⟨outcomesOf_of_evaluateParts hn.proper hmem hrun, nodup_of_evaluateParts ht.nodup hrun⟩
  · exact fun _ _ _ hrun => nodup_of_evaluateParts ht.nodup' hrun
  rintro ⟨os, u⟩ ⟨os', u'⟩ ⟨⟨⟨hos, hrelated⟩, hof, hnodup⟩, hnodup'⟩
  have hu : u.Alike u' := ⟨hnodup, hnodup', hrelated⟩
  -- On alike resolved trees the clauses find alike failures, and the nodes settle alike.
  refine (rejections_alike hreordered hn hroots hof hos hu).bind ?_
  intro rejected rejected' hrejected
  have hname : n'.name = n.name := by
    rw [hreordered.eq_withEntries]
  have hmain : n'.main = n.main := by
    rw [hreordered.eq_withEntries]
  refine (settle_agree alike_lawful hname hmain hn.insensitive.main
    (fun _ _ => recordOf_alike hreordered hn.proper)
    ((failures_alike hreordered hos).append hrejected.flatten)
    (valuesOf_alike hreordered hn.proper hos)).bind fun r r' hr => ?_
  exact .pure ⟨hr, hu.toValue⟩

/-- A node and a reordered one build alike results of alike maps. -/
theorem buildsAlike (n : Node) : BuildsAlike n := by
  induction n using Node.below_induction with
  | h n ih =>
    intro n' hreordered c root? root?' hroots hn hbelow es es' hes
    rw [nodeBuilder_eq_buildWith, nodeBuilder_eq_buildWith]
    rw [buildWith]
    -- The nodes below are built alike by induction.
    refine (Run.Agree.ofExcept (Tree.read_alike hes)).bind fun t t' ht => ?_
    refine (trace_agree c _ _ _ _).bind fun _ _ _ => ?_
    refine (evaluateNode_alike hreordered hn hbelow hroots ih ht).bind ?_
    rintro ⟨r, u⟩ ⟨r', u'⟩ hbuilt
    have hraises : n'.raises = n.raises := by
      rw [hreordered.eq_withEntries]
    exact (announce_agree hraises c hbuilt.result).bind fun _ _ _ => .pure hbuilt

/-- A schema and a reordered one build alike results of every input, or both end in a fault. -/
theorem build_reordered (hreordered : n.Reordered n') (hn : n.WellFormed) (hacyclic : n.Acyclic)
    (hungated : ∀ m, n.Spans m → IsUngated m) (hnamed : CopiesNamed n)
    (hrelative : ∀ f ∈ n.fields, ∀ m, f.child.node? = some m → ClausesRelative m)
    (hinsensitive : ∀ m, n.Spans m → IsInsensitive m) (c : Context) (input : Value) :
    Run.Agree (fun p q => alike.Result p.1 q.1) (build n c input) (build n' c input) := by
  have hroot : Sortable true n :=
    ⟨hn.proper, hacyclic.root, hungated n (.self n), hinsensitive n (.self n), hnamed n (.self n),
      fun h => absurd h (by decide)⟩
  have hbelow : SortableBelow n := fun f hf m hm k hk =>
    have hspans : n.Spans k := .child hf hm hk
    ⟨hn k hspans, hacyclic.below f hf m hm k hk, hungated k hspans, hinsensitive k hspans,
      hnamed k hspans, fun _ => hrelative f hf m hm k hk⟩
  have hname : n'.name = n.name := by
    rw [hreordered.eq_withEntries]
  have hraises : n'.raises = n.raises := by
    rw [hreordered.eq_withEntries]
  simp only [build]
  cases input with
  | map es =>
    refine (buildsAlike n n' hreordered c none none .root hroot hbelow es es (.refl _)).bind ?_
    exact fun _ _ hbuilt => .pure hbuilt.result
  | _ =>
    dsimp only
    rw [hname, hraises]
    split
    · exact (Run.Agree.log (R := Eq) rfl _ _ _ _).bind fun _ _ _ => .throw _ _
    · exact .pure (.error (.refl _))

end Nodes

/-! ### An account in another order -/

/-- The user of an account, whose alias is declared before the name. -/
def reorderedUser : Node :=
  plainNode "User"
    [.field { plainField "alias" with source := some "root.user.name" },
     .field { plainField "name" with rule := [("sanitize", [⟨"trim", .none⟩])] }]

/-- An account whose user is declared before the handle. -/
def reorderedAccount : Node :=
  plainNode "Account"
    [.field { plainField "user" with child := .single reorderedUser },
     .field { plainField "handle" with source := some "user.name" }]

theorem account_reordered : account.Reordered reorderedAccount := by
  have huser : accountUser.Reordered reorderedUser :=
    .mk (.cons (.field (.mk .none)) (.cons (.field (.mk .none)) .nil)) (.swap _ _ _)
  exact .mk (.cons (.field (.mk .none)) (.cons (.field (.mk (.single huser))) .nil)) (.swap _ _ _)

theorem account_ungated : ∀ m, account.Spans m → IsUngated m := by
  refine Node.forall_spans_of_child rfl rfl ?_ ?_
  all_goals
    simp [IsUngated, account, accountUser, plainNode, plainField, Node.fields, Entry.fields,
      Field.gated?]

theorem account_clausesRelative : ∀ f ∈ account.fields, ∀ m, f.child.node? = some m →
    ClausesRelative m := by
  intro f hf m hm
  obtain rfl : m = accountUser := List.mem_singleton.1 (Node.mem_children.2 ⟨f, hf, hm⟩)
  refine Node.forall_spans_of_leaf rfl ?_
  simp [accountUser, plainNode, plainField, Node.fields, Entry.fields]

theorem account_insensitive : ∀ m, account.Spans m → IsInsensitive m := by
  refine Node.forall_spans_of_child rfl rfl (isInsensitive_of_unsupplied rfl rfl rfl ?_)
    (isInsensitive_of_unsupplied rfl rfl rfl ?_)
  all_goals simp [account, accountUser, plainNode, plainField, Node.fields, Entry.fields]

/-- The account is the same, whichever of its entries are declared first. -/
theorem account_build_reordered : ∃ v w tree tree' k k',
    (build account ⟨.create, false⟩ (.map accountInput)).start .empty = (.ok (.ok v, tree), k) ∧
      (build reorderedAccount ⟨.create, false⟩ (.map accountInput)).start .empty =
        (.ok (.ok w, tree'), k') ∧ v.Alike w := by
  obtain ⟨v, tree, k, h⟩ := exists_of_isAccepted
    (show isAccepted ((build account ⟨.create, false⟩ (.map accountInput)).start .empty).1 = true by
      decide +kernel)
  obtain ⟨w, tree', k', h'⟩ := exists_of_isAccepted
    (show isAccepted ((build reorderedAccount ⟨.create, false⟩ (.map accountInput)).start .empty).1 =
      true by decide +kernel)
  refine ⟨v, w, tree, tree', k, k', h, h', ?_⟩
  have hagree := build_reordered account_reordered account_wellFormed account_acyclic
    account_ungated account_copiesNamed account_clausesRelative account_insensitive ⟨.create, false⟩
  have hresult : alike.Result (.ok v) (.ok w) := Run.Agree.related (hagree _) h h'
  cases hresult with
  | ok hvw => exact hvw

end Intake.Build
