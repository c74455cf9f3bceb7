import Intake.Proofs.Build.Copies
import Intake.Proofs.Build.Evaluation
import Intake.Proofs.Build.Within

/-!
# Slices of the root

The outcome of an entry of the root depends on few names: its own, those where its paths begin, and
those where the anchored paths below it begin. A set of names that holds all of these for each of
its entries is closed (`ClosedUnder`). Two inputs that agree on a closed set of names get the same
outcomes for its entries, whatever else they hold (`slice_eq`).

The two builds are compared step by step. The trees agree on the closed set all along
(`agreeOn_of_steps`): an entry of the set is evaluated to the same outcome, and one outside of it
puts its value elsewhere. Nodes below are built against roots that agree on what they reach
(`nodeBuilder_agree`). Calls are made at different points of the two builds, so that generators must
not depend on how often they were called.
-/

namespace Intake.Build

open Intake.Schema Intake.Failure

/-! ### Closed sets of names -/

/-- The paths that a field reads: its gate, its source, and those of its clauses. -/
def fieldReads (f : Field) : List String :=
  f.gated?.toList ++ f.copied?.toList ++ f.clauses.flatMap Domain.Clause.reads

/-- The path begins at a name of the set. -/
def BeginsIn (D : String → Prop) (path : String) : Prop :=
  ∃ x, (Path.ofString path).first? = some x ∧ D x

/-- The anchored paths that a node reads, at any depth, begin at names of the set. -/
def ReachesOnly (D : String → Prop) (n : Node) : Prop :=
  ∀ m, n.Spans m → ∀ f ∈ m.fields, ∀ path ∈ fieldReads f,
    (Path.ofString path).anchored = true → BeginsIn D path

/-- The set holds, with the name of an entry of the root, the names that this depends on. -/
structure ClosedUnder (n : Node) (D : String → Prop) : Prop where
  own : ∀ e ∈ n.entries, D e.name → ∀ f ∈ e.fields, ∀ path ∈ fieldReads f, BeginsIn D path
  below : ∀ e ∈ n.entries, D e.name → ∀ f ∈ e.fields, ∀ m, f.child.node? = some m →
    ReachesOnly D m

/-- The trees hold the same under the names of the set. -/
def AgreeOn (D : String → Prop) (t t' : Tree) : Prop :=
  ∀ x, D x → t.get? x = t'.get? x

theorem ReachesOnly.child {D : String → Prop} {n m : Node} {f : Field} (h : ReachesOnly D n)
    (hf : f ∈ n.fields) (hm : f.child.node? = some m) : ReachesOnly D m :=
  fun k hk => h k (.child hf hm hk)

theorem respectsField_of_pure (n : Node) {f : Field}
    (hauto : ∀ a, f.auto = some a → a.generator.IsPure) : Likeness.same.RespectsField n f where
  functions := Likeness.same_respectsAll _
  validator v _ name := Likeness.same_respects (v.run name)
  auto := hauto

theorem respectsField_same {n : Node} (h : GeneratorsPure n) {f : Field} (hf : f ∈ n.fields) :
    Likeness.same.RespectsField n f :=
  respectsField_of_pure n (h.auto hf)

/-- Outcomes that are alike in all are the same. -/
theorem eq_of_outcome_same {o o' : Outcome} (h : Likeness.same.Outcome o o') : o = o' := by
  obtain ⟨resolved, failures, clauses⟩ := o
  obtain ⟨resolved', failures', clauses'⟩ := o'
  obtain ⟨hresolved, hfailures, hclauses⟩ := h
  obtain rfl : failures = failures' := hfailures
  obtain rfl : clauses = clauses' := hclauses
  cases hresolved with
  | none => rfl
  | @some r r' h =>
    obtain ⟨value, tree⟩ := r
    obtain ⟨value', tree'⟩ := r'
    obtain ⟨hvalue, htree⟩ := h
    obtain rfl : value = value' := hvalue
    obtain rfl : tree = tree' := htree
    rfl

theorem built_same (p : Result × Tree) : Likeness.same.Built p p := by
  obtain ⟨_ | v, t⟩ := p
  · exact ⟨.error rfl, rfl⟩
  · exact ⟨.ok rfl, rfl⟩

/-! ### Evaluations in scopes that look the same -/

/-- An entry is evaluated to the same outcome in scopes where the same is found under its name and at
    the paths it reads, and where the same is built below it. -/
theorem entryEvaluator_agree {n : Node} (hpure : GeneratorsPure n) {e : Schema.Entry}
    (he : e ∈ n.entries) {s s' : Scope}
    (hown : ∀ f ∈ e.fields, s.tree.get? f.name = s'.tree.get? f.name)
    (hreads : ∀ f ∈ e.fields, ∀ path ∈ fieldReads f, s.lookup path = s'.lookup path)
    (hbelow : ∀ f ∈ e.fields, ∀ m, f.child.node? = some m → ∀ input,
      Run.Agree Eq (nodeBuilder m s.context (some s.root) input)
        (nodeBuilder m s'.context (some s'.root) input)) :
    Run.Agree Eq (entryEvaluator n e s) (entryEvaluator n e s') := by
  have hL := Likeness.same_lawful
  -- Builds that are the same in all are a special case of builds that are alike.
  have hrespects : ∀ f ∈ e.fields, Likeness.same.RespectsField n f :=
    fun f hf => respectsField_same hpure (Node.mem_fields he hf)
  refine (entryEvaluator_alike hL rfl rfl hrespects (List.forall₂_same.2 fun f hf => ?_)).imp
    fun _ _ => eq_of_outcome_same
  have hbuilders : ∀ m, f.child.node? = some m →
      BuildersAgree .same s s' (nodeBuilder m) (nodeBuilder m) := by
    rintro m hm es _ ⟨⟩
    exact (hbelow f hf m hm es).imp fun p _ hp => hp ▸ built_same p
  have hchild : Option.Rel (BelowAgree .same f f.child s s') (childBuilder f.child)
      (childBuilder f.child) := by
    cases hc : f.child with
    | none => exact .none
    | single m => exact .some (buildSingle_agree hL (hbuilders m (by rw [hc]; rfl)))
    | many m => exact .some (buildMany_agree hL (hbuilders m (by rw [hc]; rfl)))
  refine ⟨(Field.withChild_child f).symm, .of_lookups ?_ (fun path hpath => ?_) fun path hpath => ?_,
    hchild⟩
  · rw [Tree.sent?_congr (hown f hf)]
    exact Likeness.same_rel _
  · rw [hreads f hf path (by simp [fieldReads, hpath])]
  · rw [hreads f hf path (by simp [fieldReads, hpath])]
    exact .refl Likeness.same_rel _

/-! ### What clauses read -/

/-- The outcomes have clauses of fields of the entries they are for. -/
def OutcomesOf (n : Node) (os : Outcomes) : Prop :=
  ∀ p ∈ os, ∃ e ∈ n.entries, e.name = p.1 ∧
    (p.2.clauses = [] ∨ ∃ f ∈ e.fields, p.2.clauses = f.clauses)

/-- The outcomes of entries of a node have clauses of fields of these entries. -/
theorem outcomesOf_of_evaluateParts {n : Node} (hn : n.IsProper) {es : List Schema.Entry}
    (hes : ∀ e ∈ es, e ∈ n.entries) {c : Context} {root? : Option Tree} {t : Tree}
    {p : Outcomes × Tree} {j k : Journal}
    (h : (evaluateParts c root? (es.map fun e => (e, entryEvaluator n e)) t).start j = (.ok p, k)) :
    OutcomesOf n p.1 := by
  induction es generalizing t j p with
  | nil =>
    cases h
    exact fun _ hp => absurd hp List.not_mem_nil
  | cons e es ih =>
    simp only [List.map_cons, evaluateParts, Run.start_bind_eq_ok, Run.start_pure] at h
    obtain ⟨o, _, ho, ⟨os, u⟩, _, hrest, heq⟩ := h
    cases heq
    have he := hes e List.mem_cons_self
    intro p hp
    rcases List.mem_cons.1 hp with rfl | hp
    · exact ⟨e, he, rfl, clauses_of_entryEvaluator (hn.name_of_mem e he) ho⟩
    · exact ih (fun e' he' => hes e' (List.mem_cons_of_mem _ he')) hrest p hp

/-- The clauses of an entry are those of one of its fields, if there are any. -/
theorem OutcomesOf.clauses {n : Node} (hn : n.IsProper) {os : Outcomes} (h : OutcomesOf n os)
    {e : Schema.Entry} (he : e ∈ n.entries) :
    (os.of e).clauses = [] ∨ ∃ f ∈ e.fields, (os.of e).clauses = f.clauses := by
  rw [Outcomes.of]
  cases hlookup : os.lookup e.name with
  | none => exact .inl rfl
  | some o =>
    obtain ⟨pre, post, hsplit, -⟩ := List.lookup_eq_some_iff.1 hlookup
    obtain ⟨e', he', hname, hclauses⟩ := h (e.name, o) (by simp [hsplit])
    rwa [hn.entry_eq he' he hname] at hclauses

/-- The clauses of an entry are rejected alike where the same is found at the paths its fields
    read. -/
theorem rejectionsOf_agree {n : Node} (hn : n.IsProper) {os : Outcomes} (hos : OutcomesOf n os)
    {e : Schema.Entry} (he : e ∈ n.entries) {s s' : Scope}
    (hreads : ∀ f ∈ e.fields, ∀ path ∈ fieldReads f, s.lookup path = s'.lookup path) :
    Run.Agree Eq (rejectionsOf n s os e) (rejectionsOf n s' os e) := by
  unfold rejectionsOf
  dsimp only
  split
  · refine Domain.evaluate_agree Likeness.same_lawful (Likeness.same_respectsAll _) e.name _ ?_
    intro cl hcl path hpath
    -- The clauses are those of the field that decided, whichever it was.
    rcases hos.clauses hn he with hnil | ⟨f, hf, hclauses⟩
    · rw [hnil] at hcl
      cases hcl
    · rw [hclauses] at hcl
      refine Domain.sameAt_same (hreads f hf path ?_)
      exact List.mem_append_right _ (List.mem_flatMap.2 ⟨cl, hcl, hpath⟩)
  · exact .pure rfl

/-! ### Nodes below the root -/

section Below

variable {D : String → Prop} {c : Context} {root root' : Tree}

theorem lookup_below {path : String}
    (hpath : (Path.ofString path).anchored = true → BeginsIn D path) (hroot : AgreeOn D root root')
    (t : Tree) : (scopeOf c (some root) t).lookup path = (scopeOf c (some root') t).lookup path := by
  refine Path.resolve_congr_root t fun hanchored => ?_
  obtain ⟨x, hx, hD⟩ := hpath hanchored
  exact ⟨x, hx, hroot x hD⟩

theorem orderedParts_eq (n : Node) (atRoot : Bool) :
    orderedParts atRoot (n.entries.map fun e => (e, entryEvaluator n e)) =
      (evaluationOrder atRoot n.entries).map fun e => (e, entryEvaluator n e) :=
  Slot.arrange_map _ _ _

/-- A node is evaluated to the same result against two roots where its entries are, and where the
    paths of its clauses lead to the same. -/
theorem evaluateNode_agree {n : Node} (hn : n.IsProper)
    (hreads : ∀ f ∈ n.fields, ∀ path ∈ fieldReads f, ∀ t,
      (scopeOf c (some root) t).lookup path = (scopeOf c (some root') t).lookup path)
    (hentries : ∀ e ∈ n.entries, ∀ t, Run.Agree Eq (entryEvaluator n e (scopeOf c (some root) t))
      (entryEvaluator n e (scopeOf c (some root') t))) (t : Tree) :
    Run.Agree Eq (evaluateNode n (n.entries.map fun e => (e, entryEvaluator n e)) c (some root) t)
      (evaluateNode n (n.entries.map fun e => (e, entryEvaluator n e)) c (some root') t) := by
  rw [evaluateNode, evaluateNode]
  cases refusal? n c.mode t with
  | some p => exact .pure rfl
  | none =>
    have hmem : ∀ e ∈ evaluationOrder false n.entries, e ∈ n.entries :=
      fun _ => Node.mem_evaluationOrder.1
    dsimp only
    rw [orderedParts_eq, orderedParts_eq]
    have hparts := evaluateParts_same .agree (fun e he => hentries e (hmem e he)) t
    refine (Run.Agree.and_left hparts
      fun _ _ _ hrun => outcomesOf_of_evaluateParts hn hmem hrun).bind ?_
    rintro ⟨os, u⟩ _ ⟨rfl, hos⟩
    refine (Run.Agree.mapM (R := Eq) (List.forall₂_same.2 fun e he => ?_)).bind ?_
    · exact rejectionsOf_agree hn hos he
        fun f hf path hpath => hreads f (Node.mem_fields he hf) path hpath u
    · intro rejected rejected' hrejected
      rw [List.forall₂_eq_eq_eq] at hrejected
      subst hrejected
      exact (asks_settle n os rejected).steady.map fun _ _ h => by rw [h]

/-- A node below the root is built to the same result against roots that agree on what it reaches. -/
theorem nodeBuilder_agree (n : Node) : n.WellFormed → GeneratorsPure n → ReachesOnly D n →
    AgreeOn D root root' → ∀ input,
      Run.Agree Eq (nodeBuilder n c (some root) input) (nodeBuilder n c (some root') input) := by
  induction n using Node.below_induction generalizing c root root' with
  | h n ih =>
    intro hn hpure hreach hroot input
    -- Relative paths stay in the node, and anchored ones begin where the roots agree.
    have hreads : ∀ f ∈ n.fields, ∀ path ∈ fieldReads f, ∀ t,
        (scopeOf c (some root) t).lookup path = (scopeOf c (some root') t).lookup path :=
      fun f hf path hpath => lookup_below (hreach n (.self n) f hf path hpath) hroot
    have hentries : ∀ e ∈ n.entries, ∀ t,
        Run.Agree Eq (entryEvaluator n e (scopeOf c (some root) t))
          (entryEvaluator n e (scopeOf c (some root') t)) := by
      refine fun e he t => entryEvaluator_agree hpure he (fun _ _ => rfl)
        (fun f hf path hpath => hreads f (Node.mem_fields he hf) path hpath t) ?_
      intro f hf m hm
      have hf := Node.mem_fields he hf
      exact ih f hf m hm (hn.child hf hm) (hpure.child hf hm) (hreach.child hf hm) hroot
    rw [nodeBuilder_eq_buildWith]
    rw [buildWith]
    refine (Run.Agree.ofExcept (.refl (R := Eq) (fun _ => rfl) _)).bind fun t _ heq => ?_
    subst heq
    refine (trace_agree c _ _ _ _).bind fun _ _ _ => ?_
    refine (evaluateNode_agree hn.proper hreads hentries t).bind ?_
    rintro ⟨result, u⟩ _ ⟨rfl⟩
    refine (announce_agree rfl c (L := .same) ?_).bind fun _ _ _ => .pure rfl
    exact (built_same (result, u)).result

end Below

/-! ### Two builds of the root -/

section Root

variable {D : String → Prop} {n : Node} {c : Context}

theorem lookup_root {path : String} (hpath : BeginsIn D path) {t t' : Tree} (ht : AgreeOn D t t') :
    (scopeOf c none t).lookup path = (scopeOf c none t').lookup path := by
  obtain ⟨x, hx, hD⟩ := hpath
  rw [lookup_scopeOf, lookup_scopeOf]
  exact Path.resolve_congr hx (fun _ => ht x hD) fun _ => ht x hD

/-- An entry of a closed set is evaluated to the same outcome at trees that agree on the set. -/
theorem entryEvaluator_slice (hn : n.WellFormed) (hpure : GeneratorsPure n)
    (hclosed : ClosedUnder n D) {e : Schema.Entry} (he : e ∈ n.entries) (hD : D e.name) {t t' : Tree}
    (ht : AgreeOn D t t') :
    Run.Agree Eq (entryEvaluator n e (scopeOf c none t)) (entryEvaluator n e (scopeOf c none t')) := by
  refine entryEvaluator_agree hpure he (fun f hf => ?_)
    (fun f hf path hpath => lookup_root (hclosed.own e he hD f hf path hpath) ht) ?_
  · rw [hn.proper.name_of_mem e he f hf]
    exact ht e.name hD
  · intro f hf m hm input
    have hmem := Node.mem_fields he hf
    exact nodeBuilder_agree m (hn.child hmem hm) (hpure.child hmem hm)
      (hclosed.below e he hD f hf m hm) ht input

/-- Steps of the same entry, to the same outcome if the entry belongs to the set. -/
def StepsAgree (D : String → Prop) (s s' : Step) : Prop :=
  s.entry = s'.entry ∧ (D s.entry.name → s.outcome = s'.outcome)

theorem agreeOn_resolve {t t' : Tree} (ht : AgreeOn D t t') {name : String} {o o' : Outcome}
    (h : D name → o = o') : AgreeOn D (o.resolve name t) (o'.resolve name t') := by
  intro x hx
  by_cases hname : x = name
  · -- The name of the entry belongs to the set, so that both trees get the same for it.
    subst hname
    rw [h hx]
    rw [Outcome.resolve, Outcome.resolve]
    cases o'.resolved with
    | none => exact ht x hx
    | some r => rw [Tree.get?_put_self, Tree.get?_put_self]
  · rw [Outcome.get?_resolve_of_ne hname, Outcome.get?_resolve_of_ne hname]
    exact ht x hx

/-- Two builds that begin with trees that agree on a closed set keep them so, step by step. -/
theorem agreeOn_of_steps (hn : n.WellFormed) (hpure : GeneratorsPure n) (hclosed : ClosedUnder n D)
    {es : List Schema.Entry} (hes : ∀ e ∈ es, e ∈ n.entries) {t t' u u' : Tree}
    {steps steps' : List Step} {j j' k k' : Journal}
    (h : (reportParts c none (es.map fun e => (e, reportEntry n e)) t).start j =
      (.ok (steps, u), k))
    (h' : (reportParts c none (es.map fun e => (e, reportEntry n e)) t').start j' =
      (.ok (steps', u'), k')) (ht : AgreeOn D t t') :
    List.Forall₂ (StepsAgree D) steps steps' ∧ AgreeOn D u u' := by
  induction es generalizing t t' j j' steps steps' with
  | nil =>
    cases h
    cases h'
    exact ⟨.nil, ht⟩
  | cons e es ih =>
    simp only [List.map_cons, reportParts, Run.start_bind_eq_ok, Run.start_pure] at h h'
    obtain ⟨ts, _, hts, ⟨rest, _⟩, _, hrest, heq⟩ := h
    cases heq
    obtain ⟨ts', _, hts', ⟨rest', _⟩, _, hrest', heq⟩ := h'
    cases heq
    -- An entry of the set sees the same where it looks; what others come to does not matter.
    have houtcome : D e.name → ts.outcome = ts'.outcome := by
      intro hD
      have hagree := entryEvaluator_slice (c := c) hn hpure hclosed (hes e List.mem_cons_self) hD ht
      rw [entryEvaluator_eq_outcome, entryEvaluator_eq_outcome] at hagree
      exact hagree.related (Run.start_map_eq_ok.2 ⟨ts, hts, rfl⟩)
        (Run.start_map_eq_ok.2 ⟨ts', hts', rfl⟩)
    obtain ⟨hsteps, hu⟩ := ih (fun e' he' => hes e' (List.mem_cons_of_mem _ he')) hrest hrest'
      (agreeOn_resolve ht houtcome)
    exact ⟨.cons ⟨rfl, houtcome⟩ hsteps, hu⟩

/-- Where the steps of two builds agree, an entry of the set has the same outcome in both. -/
theorem of_eq_of_stepsAgree {steps steps' : List Step}
    (h : List.Forall₂ (StepsAgree D) steps steps') {e : Schema.Entry} (hD : D e.name) :
    (Step.outcomes steps).of e = (Step.outcomes steps').of e := by
  rw [Outcomes.of, Outcomes.of, Step.outcomes, Step.outcomes]
  congr 1
  induction h with
  | nil => rfl
  | @cons s s' steps steps' hs _ ih =>
    rw [List.map_cons, List.map_cons, List.lookup_cons, List.lookup_cons, ih, ← hs.1]
    by_cases hname : e.name = s.entry.name
    · rw [hs.2 (hname ▸ hD)]
    · rw [beq_false_of_ne hname]

/-- The outcomes of the steps of a report have clauses of fields of their entries. -/
theorem Reported.outcomesOf {input : List (Value × Value)} {r : Report} (hn : n.IsProper)
    (h : Reported n c none input r) : OutcomesOf n (Step.outcomes r.steps) := by
  obtain ⟨-, -, ⟨p, -, hrefused⟩ | ⟨-, ⟨_, _, hsteps⟩, -, -⟩⟩ := h.cases
  · rw [hrefused]
    exact fun _ hp => absurd hp List.not_mem_nil
  · exact outcomesOf_of_evaluateParts hn (fun _ => Node.mem_evaluationOrder.1)
      (evaluateParts_eq_ok.2 ⟨_, hsteps, rfl⟩)

/-- What two builds have in common about an entry: its outcome, which is its presence, its value and
    its own failures, what the resolved tree holds for it, and the failures of its clauses. -/
structure SameFor (e : Schema.Entry) (r r' : Report) : Prop where
  outcome : (Step.outcomes r.steps).of e = (Step.outcomes r'.steps).of e
  tree : r.tree.get? e.name = r'.tree.get? e.name
  rejected : ∀ i : Nat, r.node.entries[i]? = some e → r.rejected[i]? = r'.rejected[i]?

theorem Reported.sameFor (hn : n.WellFormed) (hpure : GeneratorsPure n) (hclosed : ClosedUnder n D)
    {input input' : List (Value × Value)} {r r' : Report} (h : Reported n c none input r)
    (h' : Reported n c none input' r') (hrefusal : refusal? n c.mode r.input = none)
    (hrefusal' : refusal? n c.mode r'.input = none) (hinput : AgreeOn D r.input r'.input)
    {e : Schema.Entry} (he : e ∈ n.entries) (hD : D e.name) : SameFor e r r' := by
  have hos := h.outcomesOf hn.proper
  obtain ⟨hnode, -, ⟨p, hp, -⟩ | ⟨-, ⟨_, _, hsteps⟩, ⟨_, _, hrejected⟩, -⟩⟩ := h.cases
  · rw [hrefusal] at hp
    cases hp
  obtain ⟨-, -, ⟨p, hp, -⟩ | ⟨-, ⟨_, _, hsteps'⟩, ⟨_, _, hrejected'⟩, -⟩⟩ := h'.cases
  · rw [hrefusal'] at hp
    cases hp
  obtain ⟨hsteps, htree⟩ := agreeOn_of_steps hn hpure hclosed
    (fun _ => Node.mem_evaluationOrder.1) hsteps hsteps' hinput
  have hof := of_eq_of_stepsAgree hsteps hD
  refine ⟨hof, htree e.name hD, fun i hi => ?_⟩
  rw [hnode] at hi
  obtain ⟨es, hes, _, _, hrun⟩ := Run.getElem?_of_forall₂ (Run.forall₂_of_mapM hrejected) hi
  obtain ⟨es', hes', _, _, hrun'⟩ := Run.getElem?_of_forall₂ (Run.forall₂_of_mapM hrejected') hi
  -- The clauses of the entry are evaluated on trees that agree on what they read.
  have hagree := rejectionsOf_agree hn.proper hos he
    fun f hf path hpath => lookup_root (c := c) (hclosed.own e he hD f hf path hpath) htree
  have hsame : rejectionsOf n (scopeOf c none r'.tree) (Step.outcomes r'.steps) e =
      rejectionsOf n (scopeOf c none r'.tree) (Step.outcomes r.steps) e := by
    rw [rejectionsOf, rejectionsOf]
    rw [hof]
  rw [hsame] at hrun'
  rw [hes, hes', hagree.related hrun hrun']

/-- Inputs that agree on a closed set of names get the same for its entries, where neither build
    raises and neither is refused at once. -/
theorem slice_eq (hn : n.WellFormed) (hpure : GeneratorsPure n) (hclosed : ClosedUnder n D)
    {input input' : List (Value × Value)} {t t' : Tree} (ht : Tree.read input = .ok t)
    (ht' : Tree.read input' = .ok t') (hinput : AgreeOn D t t')
    (hrefusal : refusal? n c.mode t = none) (hrefusal' : refusal? n c.mode t' = none)
    {result result' : Result} {tree tree' : Option Tree} {j j' k k' : Journal}
    (h : (build n c (.map input)).start j = (.ok (result, tree), k))
    (h' : (build n c (.map input')).start j' = (.ok (result', tree'), k')) :
    ∃ r r', (nodeReport n c none input).start j = (.ok r, k) ∧ r.result = result ∧
      tree = some r.tree ∧ (nodeReport n c none input').start j' = (.ok r', k') ∧
      r'.result = result' ∧ tree' = some r'.tree ∧
      ∀ e ∈ n.entries, D e.name → SameFor e r r' := by
  obtain ⟨r, hrun, rfl, rfl⟩ := exists_reported_of_build h
  obtain ⟨r', hrun', rfl, rfl⟩ := exists_reported_of_build h'
  have hr : Reported n c none input r := ⟨_, _, hrun⟩
  have hr' : Reported n c none input' r' := ⟨_, _, hrun'⟩
  obtain rfl : r.input = t := Except.ok.inj (hr.cases.2.1.symm.trans ht)
  obtain rfl : r'.input = t' := Except.ok.inj (hr'.cases.2.1.symm.trans ht')
  exact ⟨r, r', hrun, rfl, rfl, hrun', rfl, rfl, fun e he hD =>
    hr.sameFor hn hpure hclosed hr' hrefusal hrefusal' hinput he hD⟩

end Root

/-! ### A profile -/

/-- A profile: a name, a greeting that is copied from it, and an age, which has to be an integer. -/
def profile : Node :=
  plainNode "Profile"
    [.field (plainField "name"),
     .field { plainField "greeting" with source := some "name" },
     .field { plainField "age" with rule := [("validate", [⟨"integer", .none⟩])] }]

/-- A profile with a valid age. -/
def profileInput : List (Value × Value) :=
  [(.text "name", .text "ada"), (.text "age", .int 36)]

/-- A profile of the same name with an invalid age and an undeclared key. -/
def otherProfileInput : List (Value × Value) :=
  [(.text "name", .text "ada"), (.text "age", .text "old"), (.text "note", .null)]

/-- The names that the greeting of a profile depends on, with its own. -/
def ofGreeting (x : String) : Prop :=
  x = "name" ∨ x = "greeting"

theorem profile_wellFormed : profile.WellFormed :=
  Node.forall_spans_of_leaf rfl ⟨by decide, by simp [profile, plainNode, Entry.fields, Entry.name]⟩

theorem profile_generatorsPure : GeneratorsPure profile :=
  Node.forall_spans_of_leaf rfl (by simp [profile, plainNode, plainField, Node.fields, Entry.fields])

theorem name_path : Path.ofString "name" = ⟨false, ["name"]⟩ := by
  decide +kernel

theorem profile_closedUnder : ClosedUnder profile ofGreeting where
  own := by
    intro e he hD f hf path hpath
    simp only [profile, plainNode, List.mem_cons, List.not_mem_nil, or_false] at he
    rcases he with rfl | rfl | rfl
    · obtain rfl := List.mem_singleton.1 hf
      cases hpath
    · obtain rfl := List.mem_singleton.1 hf
      obtain ⟨rfl, -⟩ : "name" = path ∧ ¬path = "" := by
        simpa [fieldReads, plainField, Field.gated?, Field.copied?] using hpath
      exact ⟨"name", by rw [name_path]; rfl, .inl rfl⟩
    · rcases hD with hD | hD
      · exact absurd (show "age" = "name" from hD) (by decide)
      · exact absurd (show "age" = "greeting" from hD) (by decide)
  below := by
    intro e he _ f hf m hm
    have hmem : m ∈ profile.children := Node.mem_children.2 ⟨f, Node.mem_fields he hf, hm⟩
    exact absurd hmem List.not_mem_nil

/-- The greeting is the same whatever the age is. -/
theorem profile_slice : ∃ t t' result result' tree tree' k k',
    Tree.read profileInput = .ok t ∧ Tree.read otherProfileInput = .ok t' ∧
      (build profile ⟨.create, false⟩ (.map profileInput)).start .empty =
        (.ok (result, tree), k) ∧
      (build profile ⟨.create, false⟩ (.map otherProfileInput)).start .empty =
        (.ok (result', tree'), k') ∧
      ∃ r r', (nodeReport profile ⟨.create, false⟩ none profileInput).start .empty = (.ok r, k) ∧
        r.result = result ∧ tree = some r.tree ∧
        (nodeReport profile ⟨.create, false⟩ none otherProfileInput).start .empty = (.ok r', k') ∧
        r'.result = result' ∧ tree' = some r'.tree ∧
        ∀ e ∈ profile.entries, ofGreeting e.name → SameFor e r r' := by
  obtain ⟨⟨result, tree⟩, k, h⟩ := Run.exists_of_isOk
    (show ((build profile ⟨.create, false⟩ (.map profileInput)).start .empty).1.isOk = true by
      decide +kernel)
  obtain ⟨⟨result', tree'⟩, k', h'⟩ := Run.exists_of_isOk
    (show ((build profile ⟨.create, false⟩ (.map otherProfileInput)).start .empty).1.isOk = true by
      decide +kernel)
  refine ⟨[("name", .text "ada"), ("age", .int 36)],
    [("name", .text "ada"), ("age", .text "old"), ("note", .null)], result, result', tree, tree', k,
    k', rfl, rfl, h, h', ?_⟩
  refine slice_eq profile_wellFormed profile_generatorsPure profile_closedUnder rfl rfl ?_ rfl rfl
    h h'
  rintro x (rfl | rfl) <;> rfl

end Intake.Build
