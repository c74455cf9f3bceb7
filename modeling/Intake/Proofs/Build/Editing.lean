import Intake.Proofs.Build.Agreement
import Intake.Proofs.Build.Slicing
import Intake.Proofs.Build.Views

/-!
# Records that are edited

Editing asks for no required names, and this is all that it does otherwise than creating. What was
created can therefore be edited, and comes out as it was, unless a required name had decided between
the candidates of a group: a candidate that was passed over because a name was missing in a node
below it may be taken when the record is edited.

A node is kept if it is edited to the result that it was created with (`Report.Kept`). This is so
where no required name was missing in the node or below it, whatever else failed there
(`Reported.kept`). A record that was created is then followed from the root down, through the fields
that decided (`Reported.edited`): nothing is missing in its nodes, and the candidates that lost for
a missing name are those that have to lose again (`Trial.LosesAgain`).
-/

namespace Intake.Build

open Intake.Schema Intake.Failure

/-! ### The other mode -/

/-- The same build, where the record is edited. -/
def Context.edit (c : Context) : Context :=
  { c with mode := .edit }

/-- The same place, where the record is edited. -/
def Scope.edit (s : Scope) : Scope :=
  { s with context := s.context.edit }

@[simp] theorem Context.edit_mode (c : Context) : c.edit.mode = .edit := rfl

theorem scopeOf_edit (c : Context) (root? : Option Tree) (t : Tree) :
    scopeOf c.edit root? t = (scopeOf c root? t).edit := rfl

theorem blocked?_edit (s : Scope) (f : Field) : blocked? s.edit f = blocked? s f := rfl

theorem fill_edit (s : Scope) (f : Field) (fills : Fills) : fill s.edit f fills = fill s f fills :=
  rfl

theorem trace_edit (c : Context) (event : String) (details : List (String × Value)) :
    trace c.edit event details = trace c event details := rfl

theorem announce_edit (n : Node) (c : Context) (result : Result) :
    announce n c.edit result = announce n c result := by
  cases result <;> rfl

/-- The node was refused, and with all names declared: a required name was missing. -/
structure Report.LacksNames (r : Report) : Prop where
  declared : unknownNames r.node r.input = []
  missing : missingNames r.node .create r.input ≠ []

/-- Where no required name decides, a node is refused in either mode or in none. -/
theorem refusal?_edit {r : Report} (h : ¬r.LacksNames) (mode : Mode) :
    refusal? r.node .edit r.input = refusal? r.node mode r.input := by
  cases mode with
  | edit => rfl
  | create =>
    rw [refusal?, refusal?]
    cases hunknown : unknownNames r.node r.input with
    | cons name names => rfl
    | nil =>
      have hmissing : missingNames r.node .create r.input = [] := by
        by_contra hne
        exact h ⟨hunknown, hne⟩
      rw [hmissing]
      rfl

/-- What is admitted when it is created is admitted when it is edited. -/
theorem refusal?_edit_of_admitted {n : Node} {mode : Mode} {t : Tree}
    (h : refusal? n mode t = none) : refusal? n .edit t = none := by
  rw [refusal?, (refusal?_eq_none h).1]
  rfl

/-! ### Fields and candidates -/

/-- The node is edited to the result and the tree that it was built to. -/
def Report.Kept (c : Context) (r : Report) : Prop :=
  ∀ n root? input, Reported n c root? input r →
    Run.Answers (nodeBuilder n c.edit root? input) r.summary

/-- The field has failures also where the record is edited, in the same place and with the value it
    was filled with. -/
def Trial.LosesAgain (n : Node) (t : Trial) : Prop :=
  ∃ v, t.filled = some v ∧ ∃ o j k,
    (process n t.field (childBuilder t.field.child) t.scope.edit v).start j = (.ok o, k) ∧
      o.isClean = false

section Fields

variable {n : Node} {f : Field} {s : Scope}

/-- A map is built to the same outcome where its node is kept. -/
theorem buildSingle_kept {m : Node} {v : Value} {o : Outcome} {rs : List Report} {j k : Journal}
    (h : (reportSingle (nodeReport m) f s v).start j = (.ok (o, rs), k))
    (hrs : ∀ u ∈ rs, u.Kept s.context) :
    Run.Answers (buildSingle (nodeBuilder m) f s.edit v) o := by
  cases v with
  | map entries =>
    obtain ⟨u, _, hu, heq⟩ := Run.start_bind_eq_ok.1 h
    cases heq
    exact (hrs u (List.mem_singleton_self u) _ _ _ ⟨_, _, hu⟩).bind (.pure _)
  | _ =>
    cases h
    exact .pure _

/-- The maps of a list are built to the same outcome where their nodes are kept. -/
theorem buildMany_kept {m : Node} {v : Value} {o : Outcome} {rs : List Report} {j k : Journal}
    (h : (reportMany (nodeReport m) f s v).start j = (.ok (o, rs), k))
    (hrs : ∀ u ∈ rs, u.Kept s.context) :
    Run.Answers (buildMany (nodeBuilder m) f s.edit v) o := by
  rw [reportMany] at h
  rw [buildMany]
  cases hmaps : mapsOf? v with
  | none =>
    rw [hmaps] at h
    cases h
    exact .pure _
  | some maps =>
    rw [hmaps] at h
    simp only [Run.start_bind_eq_ok, Run.start_pure] at h
    obtain ⟨us, _, hus, heq⟩ := h
    cases heq
    have hkept := (List.forall₂_and_left _ _).2 ⟨hrs, (Run.forall₂_of_mapM hus).flip⟩
    have hanswers := hkept.flip.imp fun input u h => h.1 m _ input h.2
    exact (Run.answers_mapM (List.forall₂_map_right_iff.2 hanswers)).bind (.pure _)

/-- A field is worked on to the same outcome where the nodes below are kept. -/
theorem process_kept {v : Value} {o : Outcome} {rs : List Report} {j k : Journal}
    (h : (reportProcess n f (childReporter f.child) s v).start j = (.ok (o, rs), k))
    (hrs : ∀ u ∈ rs, u.Kept s.context) :
    Run.Answers (process n f (childBuilder f.child) s.edit v) o := by
  rw [reportProcess, Run.start_bind_eq_ok] at h
  obtain ⟨⟨w, es⟩, _, hchecked, h⟩ := h
  refine ((asks_checked n f v).steady.answers hchecked).bind ?_
  cases es with
  | cons e es =>
    cases h
    exact .pure _
  | nil =>
    cases hc : f.child with
    | none =>
      rw [hc] at h
      cases h
      exact .pure _
    | single m =>
      rw [hc] at h
      exact buildSingle_kept h hrs
    | many m =>
      rw [hc] at h
      exact buildMany_kept h hrs

/-- An open field is evaluated by filling it and working on what it was filled with. -/
theorem fieldEvaluator_answers {fills fills' : Fills} {v : Value} {o : Outcome}
    (hgate : blocked? s f = .ok none) (hfill : Run.Answers (fill s f fills) (some v, fills'))
    (hprocess : Run.Answers (process n f (childBuilder f.child) s v) o) :
    Run.Answers (fieldEvaluator n f s fills) (o, fills') := by
  rw [fieldEvaluator_eq, evaluateField, hgate]
  exact .bind (.pure _) (hfill.bind (hprocess.bind (.pure _)))

section Trial

variable {fills fills' : Fills} {t : Trial} {j k : Journal}
  (h : (reportField n f (childReporter f.child) s fills).start j = (.ok (t, fills'), k))
include h

/-- A field is evaluated to the same outcome where the nodes below are kept. -/
theorem fieldEvaluator_kept (hauto : ∀ a, f.auto = some a → a.generator.IsPure)
    (hreports : ∀ u ∈ t.reports, u.Kept s.context) :
    Run.Answers (fieldEvaluator n f s.edit fills) (t.outcome, fills') := by
  obtain ⟨-, -, ⟨path, hgate, -, houtcome, -, rfl⟩ | ⟨hgate, ⟨_, _, hfill⟩, hrest⟩⟩ :=
    reportField_runs h
  · rw [fieldEvaluator_eq, evaluateField, blocked?_edit, hgate, houtcome]
    exact .bind (.pure _) (.pure _)
  · have hfill := (asks_fill (p := .steady) s hauto fills).steady.answers hfill
    obtain ⟨hv, houtcome, -⟩ | ⟨v, hv, _, _, hprocess⟩ := hrest
    · rw [hv] at hfill
      rw [fieldEvaluator_eq, evaluateField, blocked?_edit, fill_edit, hgate, houtcome]
      exact .bind (.pure _) (hfill.bind (.pure _))
    · rw [hv] at hfill
      exact fieldEvaluator_answers hgate hfill (process_kept hprocess hreports)

/-- A candidate that loses again has failures also where the record is edited. -/
theorem Trial.LosesAgain.answers (hlost : t.LosesAgain n)
    (hauto : ∀ a, f.auto = some a → a.generator.IsPure) (hbelow : WithinBelow .steady f) :
    ∃ o, o.isClean = false ∧ Run.Answers (fieldEvaluator n f s.edit fills) (o, fills') := by
  obtain ⟨rfl, rfl, hcases⟩ := reportField_runs h
  obtain ⟨v, hv, o, _, _, hprocess, hfails⟩ := hlost
  have hprocess := (process_within n hbelow t.scope.edit v).steady.answers hprocess
  -- The field was filled, so that it is open.
  obtain ⟨_, -, hnone, -⟩ | ⟨hgate, ⟨_, _, hfill⟩, -⟩ := hcases
  · rw [hnone] at hv
    cases hv
  · have hfill := (asks_fill (p := .steady) t.scope hauto fills).steady.answers hfill
    rw [hv] at hfill
    exact ⟨o, hfails, fieldEvaluator_answers hgate hfill hprocess⟩

end Trial

/-- The candidates of an entry come out as they did: those that lost lose, and what decided is
    kept. -/
structure Trials.Kept (n : Node) (c : Context) (ts : Trials) : Prop where
  lost : ∀ t ∈ ts.lost, t.LosesAgain n ∨ ∀ u ∈ t.reports, u.Kept c
  decisive : ∀ t, ts.decisive = some t → ∀ u ∈ t.reports, u.Kept c

theorem evaluateCandidates_answers_head {evaluate : FieldEvaluator} {rest : List FieldEvaluator}
    {fills fills' : Fills} {o : Outcome} (ho : Run.Answers (evaluate s fills) (o, fills'))
    (hlast : o.isClean = true ∨ rest = []) :
    Run.Answers (evaluateCandidates s (evaluate :: rest) fills) o := by
  cases rest with
  | nil => exact ho.bind (.pure _)
  | cons next rest =>
    have hclean := hlast.resolve_right (List.cons_ne_nil next rest)
    refine ho.bind ?_
    simp only [hclean, if_true]
    exact .pure _

theorem evaluateCandidates_answers_cons {evaluate : FieldEvaluator} {rest : List FieldEvaluator}
    {fills fills' : Fills} {o o' : Outcome} (ho : Run.Answers (evaluate s fills) (o, fills'))
    (hfails : o.isClean = false) (hne : rest ≠ [])
    (hrest : Run.Answers (evaluateCandidates s rest fills') o') :
    Run.Answers (evaluateCandidates s (evaluate :: rest) fills) o' := by
  cases rest with
  | nil => exact absurd rfl hne
  | cons next rest =>
    refine ho.bind ?_
    simp only [hfails, Bool.false_eq_true, if_false]
    exact hrest

/-- The first candidate without failures is the same one, by induction on the candidates. -/
theorem candidates_kept {fs : List Field}
    (hauto : ∀ f ∈ fs, ∀ a, f.auto = some a → a.generator.IsPure)
    (hbelow : ∀ f ∈ fs, WithinBelow .steady f) {fills : Fills} {ts : Trials} {j k : Journal}
    (h : (reportCandidates s (fs.map (fieldReporter n)) fills).start j = (.ok ts, k))
    (hkept : ts.Kept n s.context) :
    Run.Answers (evaluateCandidates s.edit (fs.map (fieldEvaluator n)) fills) ts.outcome := by
  induction fs generalizing fills ts j with
  | nil =>
    cases h
    exact .pure _
  | cons f fs ih =>
    obtain ⟨hauto, hautos⟩ := List.forall_mem_cons.1 hauto
    obtain ⟨hbelow, hbelows⟩ := List.forall_mem_cons.1 hbelow
    obtain ⟨t, fills', _, hfield, hcases⟩ := reportCandidates_cons_eq_ok.1 h
    rw [fieldReporter_eq] at hfield
    obtain ⟨hlast, rfl, -⟩ | ⟨⟨hfails, hne⟩, us, hrest, rfl⟩ := hcases
    · have hkept := fieldEvaluator_kept hfield hauto (hkept.decisive t rfl)
      refine evaluateCandidates_answers_head hkept (hlast.imp_right fun hnil => ?_)
      rw [List.map_eq_nil_iff.1 hnil, List.map_nil]
    · have hrest := ih hautos hbelows hrest
        ⟨fun t ht => hkept.lost t (List.mem_cons_of_mem _ ht), hkept.decisive⟩
      -- The candidate has failures again, the same ones or others.
      obtain ⟨o, ho, hfield⟩ : ∃ o, o.isClean = false ∧
          Run.Answers (fieldEvaluator n f s.edit fills) (o, fills') := by
        rcases hkept.lost t List.mem_cons_self with hlost | hreports
        · exact hlost.answers hfield hauto hbelow
        · exact ⟨t.outcome, hfails, fieldEvaluator_kept hfield hauto hreports⟩
      refine evaluateCandidates_answers_cons hfield ho (fun hnil => hne ?_) hrest
      rw [List.map_eq_nil_iff.1 hnil, List.map_nil]

end Fields

/-! ### Nodes -/

section Nodes

variable {n : Node} {c : Context} {root? : Option Tree}

/-- The entry of a step comes out as it did where its trials are kept. -/
theorem entryEvaluator_kept (hpure : GeneratorsPure n) {e : Schema.Entry} (he : e ∈ n.entries)
    {s : Scope} {ts : Trials} {j k : Journal} (h : (reportEntry n e s).start j = (.ok ts, k))
    (hkept : ts.Kept n s.context) : Run.Answers (entryEvaluator n e s.edit) ts.outcome := by
  rw [reportEntry_eq] at h
  rw [entryEvaluator_eq]
  have hmem : ∀ f ∈ e.fields, f ∈ n.fields := fun f hf => Node.mem_fields he hf
  exact candidates_kept (fun f hf => hpure.auto (hmem f hf)) (fun f hf => hpure.below (hmem f hf)) h
    hkept

/-- Entries are evaluated one after the other to the same outcomes and the same tree. -/
theorem evaluateParts_kept (hpure : GeneratorsPure n) {es : List Schema.Entry}
    (hes : ∀ e ∈ es, e ∈ n.entries) {t u : Tree} {steps : List Step} {j k : Journal}
    (h : (reportParts c root? (es.map fun e => (e, reportEntry n e)) t).start j =
      (.ok (steps, u), k)) (hkept : ∀ s ∈ steps, s.trials.Kept n c) :
    Run.Answers (evaluateParts c.edit root? (es.map fun e => (e, entryEvaluator n e)) t)
      (Step.outcomes steps, u) := by
  induction es generalizing t steps j with
  | nil =>
    cases h
    exact .pure _
  | cons e es ih =>
    simp only [List.map_cons, reportParts, Run.start_bind_eq_ok, Run.start_pure] at h
    obtain ⟨trials, _, htrials, ⟨rest, u'⟩, _, hrest, heq⟩ := h
    cases heq
    have hfirst := entryEvaluator_kept hpure (hes e List.mem_cons_self) htrials
      (hkept _ List.mem_cons_self)
    rw [← scopeOf_edit] at hfirst
    have hrest := ih (fun e' he => hes e' (List.mem_cons_of_mem _ he)) hrest
      fun s hs => hkept s (List.mem_cons_of_mem _ hs)
    exact hfirst.bind (hrest.bind (.pure _))

variable {input : List (Value × Value)} {r : Report}

theorem trace_answers (c : Context) (event : String) (details : List (String × Value)) :
    Run.Answers (trace c event details) () := by
  rw [trace]
  split
  · exact fun j => ⟨_, rfl⟩
  · exact .pure _

/-- The result of a node that was built was announced. -/
theorem Reported.announced (h : Reported n c root? input r) :
    ∃ j k, (announce n c r.result).start j = (.ok (), k) := by
  obtain ⟨_, _, h⟩ := h
  simp only [nodeReport_eq, reportWith, Run.start_bind_eq_ok, Run.start_pure] at h
  obtain ⟨_, _, -, _, _, -, r', _, -, _, _, hannounce, heq⟩ := h
  cases heq
  exact ⟨_, _, hannounce⟩

/-- A node is edited to the result that it was built to, where it is refused as it was, and the
    trials of its entries are kept. -/
theorem Reported.kept_of_steps (h : Reported n c root? input r) (hpure : GeneratorsPure n)
    (hrefusal : refusal? n .edit r.input = refusal? n c.mode r.input)
    (hkept : ∀ s ∈ r.steps, s.trials.Kept n c) :
    Run.Answers (nodeBuilder n c.edit root? input) r.summary := by
  obtain ⟨_, _, hannounce⟩ := h.announced
  have hannounce := (announce_steady n c r.result).answers hannounce
  obtain ⟨-, hread, hcases⟩ := h.cases
  rw [nodeBuilder_eq_buildWith, buildWith, hread]
  simp only [trace_edit, announce_edit]
  refine .bind (.pure _) ((trace_answers c _ _).bind ?_)
  suffices hnode : Run.Answers (evaluateNode n (n.entries.map fun e => (e, entryEvaluator n e))
      c.edit root? r.input) r.summary from hnode.bind (hannounce.bind (.pure _))
  rw [evaluateNode, orderedParts_eq, Context.edit_mode, hrefusal]
  rcases hcases with ⟨p, hrefused, hr⟩ |
    ⟨hadmitted, ⟨_, _, hsteps⟩, ⟨_, _, hrejected⟩, _, _, hresult⟩
  · rw [hrefused, hr]
    exact .pure _
  · rw [hadmitted]
    have hsteps := evaluateParts_kept hpure (fun e he => Node.mem_evaluationOrder.1 he) hsteps hkept
    have hrejected :=
      (Run.steady_mapM (fun e => (asks_rejections n _ _ e).steady) _).answers hrejected
    have hresult := (asks_settle n _ _).steady.answers hresult
    exact hsteps.bind (hrejected.bind (hresult.bind (.pure _)))

/-- What was built below a step of a node stands for the node of a field. -/
theorem Reported.node_below (hn : n.IsProper) (h : Reported n c root? input r) {s : Step}
    (hs : s ∈ r.steps) {t : Trial} (ht : t ∈ s.trials.all) {u : Report} (hu : u ∈ t.reports) :
    ∃ f ∈ n.fields, f.child.node? = some u.node := by
  obtain ⟨hentry, _, _, _, htaken⟩ := h.taken s hs
  obtain ⟨_, _, htrials⟩ := htaken.trials
  obtain ⟨f, hf, m, hm, _, hreported⟩ :=
    exists_reported_below (hn.name_of_mem _ hentry) htrials ht hu
  exact ⟨f, Node.mem_fields hentry hf, hreported.node ▸ hm⟩

end Nodes

/-- What was built in a build below a step was built below the step. -/
theorem Report.Builds.above {r u q : Report} {s : Step} {t : Trial} {above : Option Step}
    (h : u.Builds above q) (hs : s ∈ r.steps) (ht : t ∈ s.trials.all) (hu : u ∈ t.reports) :
    r.Builds (some s) q := by
  cases h with
  | root => exact .below hs (.child ht hu)
  | below hs' habove => exact .below hs (.deeper ht hu hs' habove)

/-- A node is kept, with or without a record, if no required name was missing in it or below. -/
theorem kept_of_names (n : Node) : n.WellFormed → GeneratorsPure n →
    ∀ (c : Context) (r : Report), r.node = n →
    (∀ above q, r.Builds above q → ¬q.LacksNames) → r.Kept c := by
  induction n using Node.below_induction with
  | h n ih =>
    intro hn hpure c r hnode hnames n' root? input hr
    obtain rfl : n' = n := hr.node.symm.trans hnode
    have hrefusal := refusal?_edit (hnames none r .root) c.mode
    rw [hnode] at hrefusal
    refine hr.kept_of_steps hpure hrefusal fun s hs => ?_
    -- Every node below is kept by induction, below the field that decided as below the others.
    have hbelow : ∀ t ∈ s.trials.all, ∀ u ∈ t.reports, u.Kept c := by
      intro t ht u hu
      obtain ⟨f, hf, hm⟩ := hr.node_below hn.proper hs ht hu
      exact ih f hf u.node hm (hn.child hf hm) (hpure.child hf hm) c u rfl
        fun above q hq => hnames (some s) q (hq.above hs ht hu)
    exact ⟨fun t ht => .inr (hbelow t (List.mem_append_left _ ht)),
      fun t ht => hbelow t (Trials.mem_all_of_decisive ht)⟩

/-! ### Records -/

/-- A required name was missing in a node that was built for the field, be it below. -/
def Trial.LacksNames (t : Trial) : Prop :=
  ∃ u ∈ t.reports, ∃ above q, u.Builds above q ∧ q.LacksNames

/-- A node with a record is kept where the candidates that lost for a missing name lose again. -/
theorem Reported.edited (n : Node) : n.WellFormed → GeneratorsPure n → ∀ {c root? input r v},
    Reported n c root? input r → r.result = .ok v →
    (∀ q, r.Contains q → ∀ s ∈ q.steps, ∀ t ∈ s.trials.lost,
      t.LacksNames → t.LosesAgain q.node) →
    Run.Answers (nodeBuilder n c.edit root? input) r.summary := by
  induction n using Node.below_induction with
  | h n ih =>
    intro hn hpure c root? input r v hr hv hlost
    obtain ⟨hnode, hadmitted, -⟩ := hr.evaluated hv
    have hrefusal := (refusal?_edit_of_admitted hadmitted).trans hadmitted.symm
    refine hr.kept_of_steps hpure hrefusal fun s hs => ⟨fun t ht => ?_, fun t ht u hu => ?_⟩
    · -- A candidate that lost: where no name was missing, it loses for the same failures.
      by_cases hnames : t.LacksNames
      · exact .inl (hnode ▸ hlost r (.self r) s hs t ht hnames)
      · refine .inr fun u hu => ?_
        obtain ⟨f, hf, hm⟩ := hr.node_below hn.proper hs (List.mem_append_left _ ht) hu
        exact kept_of_names u.node (hn.child hf hm) (hpure.child hf hm) c u rfl
          fun above q hq hlacks => hnames ⟨u, hu, above, q, hq, hlacks⟩
    · -- The field that decided: the nodes below have records, and are kept by induction.
      obtain ⟨f, hf, m, hm, _, _, hreported, w, hw⟩ :=
        hr.child hn.proper (hr.clean hn.proper hv) hs ht hu
      intro n' root?' input' hu'
      obtain rfl : n' = m := hu'.node.symm.trans hreported.node
      exact ih f hf n' hm (hn.child hf hm) (hpure.child hf hm) hu' hw
        fun q hq => hlost q (.child hs ht hu hq)

/-- What was created is edited to the same record and the same tree, unless a candidate of a group
    that lost for a missing name, in a node of the record, does not lose when it is edited. -/
theorem edited_as_created {n : Node} (hn : n.WellFormed) (hpure : GeneratorsPure n) {traced : Bool}
    {input v : Value} {tree : Option Tree} {j k : Journal}
    (h : (build n ⟨.create, traced⟩ input).start j = (.ok (.ok v, tree), k)) :
    ∃ es r, input = .map es ∧ (nodeReport n ⟨.create, traced⟩ none es).start j = (.ok r, k) ∧
      r.result = .ok v ∧ some r.tree = tree ∧
      ((∀ q, r.Contains q → ∀ s ∈ q.steps, ∀ t ∈ s.trials.lost,
          t.LacksNames → t.LosesAgain q.node) →
        ∀ i, ∃ l, (build n ⟨.edit, traced⟩ input).start i = (.ok (.ok v, tree), l)) := by
  obtain ⟨es, r, rfl, hrun, hv, htree⟩ := exists_reported_of_accepted h
  refine ⟨es, r, rfl, hrun, hv, htree, fun hlost => ?_⟩
  have hedited := Reported.edited n hn hpure ⟨_, _, hrun⟩ hv hlost
  rw [Report.summary, hv] at hedited
  rw [← htree]
  exact hedited.bind (.pure _)

/-- A paid plan: a card, which has to be there, and a number of months. -/
def paidPlan : Node :=
  plainNode "Paid"
    [.field { plainField "card" with enforce := some true },
     .field { plainField "months" with rule := [("validate", [⟨"integer", .none⟩])] }]

/-- A plan that is paid, or else anything. -/
def anyPlan : Group :=
  ⟨"plan", [{ plainField "plan" with child := .single paidPlan }, plainField "plan"], none⟩

/-- A subscription has a plan. -/
def subscription : Node :=
  plainNode "Subscription" [.group anyPlan]

/-- A plan without a card, for months that are no number. -/
def textMonths : List (Value × Value) :=
  [(.text "plan", .map [(.text "months", .text "some")])]

/-- A plan of which nothing is said. -/
def emptyPlan : List (Value × Value) :=
  [(.text "plan", .map [])]

theorem subscription_wellFormed : subscription.WellFormed :=
  Node.forall_spans_of_child rfl rfl
    ⟨by decide, by
      simp [subscription, anyPlan, plainNode, Entry.fields, Entry.name, plainField]⟩
    ⟨by decide, by simp [paidPlan, plainNode, Entry.fields, Entry.name, plainField]⟩

theorem subscription_generatorsPure : GeneratorsPure subscription :=
  Node.forall_spans_of_child rfl rfl
    (by simp [subscription, anyPlan, plainNode, Node.fields, Entry.fields, plainField])
    (by simp [paidPlan, plainNode, Node.fields, Entry.fields, plainField])

/-- In the one step of the subscription the paid plan lost, and it loses again, because the months
    are no number. Nothing was built below what decided. -/
theorem subscription_report : ∃ r k s lost decisive,
    (nodeReport subscription ⟨.create, false⟩ none textMonths).start .empty = (.ok r, k) ∧
      r.node = subscription ∧ r.steps = [s] ∧ s.trials = ⟨[lost], some decisive⟩ ∧
      lost.LosesAgain subscription ∧ decisive.reports = [] :=
  ⟨_, _, _, _, _, rfl, rfl, rfl, rfl, ⟨_, rfl, _, .empty, _, rfl, rfl⟩, rfl⟩

theorem subscription_edited : ∃ v tree k l,
    (build subscription ⟨.create, false⟩ (.map textMonths)).start .empty = (.ok (.ok v, tree), k) ∧
      (build subscription ⟨.edit, false⟩ (.map textMonths)).start .empty =
        (.ok (.ok v, tree), l) := by
  obtain ⟨v, tree, k, h⟩ : ∃ v tree k,
      (build subscription ⟨.create, false⟩ (.map textMonths)).start .empty =
        (.ok (.ok v, tree), k) := ⟨_, _, _, rfl⟩
  obtain ⟨_, r, hinput, hrun, -, -, hedited⟩ :=
    edited_as_created subscription_wellFormed subscription_generatorsPure h
  cases hinput
  obtain ⟨r', _, s, lost, decisive, hrun', hnode, hsteps, htrials, hlost, hnone⟩ :=
    subscription_report
  obtain rfl : r = r' := Except.ok.inj (Prod.mk.inj (hrun.symm.trans hrun')).1
  have hagain : ∀ q, r.Contains q → ∀ s ∈ q.steps, ∀ t ∈ s.trials.lost,
      t.LacksNames → t.LosesAgain q.node := by
    intro q hq s₀ hs₀ t ht _
    cases hq with
    | self =>
      obtain rfl := List.mem_singleton.1 (hsteps ▸ hs₀)
      rw [htrials] at ht
      obtain rfl := List.mem_singleton.1 ht
      rwa [hnode]
    | child hs₁ hdecisive hu =>
      obtain rfl := List.mem_singleton.1 (hsteps ▸ hs₁)
      rw [htrials] at hdecisive
      cases hdecisive
      rw [hnone] at hu
      cases hu
  obtain ⟨l, hl⟩ := hedited hagain .empty
  exact ⟨v, tree, k, l, h, hl⟩

/-- Where nothing is said of the plan, the card decides: what is created keeps the plan as it was
    sent, and edited it has a paid one. -/
theorem subscription_edited_otherwise : ∃ v w tree tree' k k',
    (build subscription ⟨.create, false⟩ (.map emptyPlan)).start .empty = (.ok (.ok v, tree), k) ∧
      (build subscription ⟨.edit, false⟩ (.map emptyPlan)).start .empty =
        (.ok (.ok w, tree'), k') ∧ v ≠ w :=
  ⟨.record "Subscription" [("plan", .map [])],
    .record "Subscription" [("plan", .record "Paid" [("card", .null), ("months", .null)])],
    _, _, _, _, rfl, rfl, by simp⟩

end Intake.Build
