import Intake.Build.Node
import Intake.Proofs.Run
import Intake.Proofs.Schema.Order

/-!
# Reports of builds

A report tells what happened while a node was built: which entries were evaluated, one after the
other, which fields were tried for each of them, in which scope and to which outcome, and the
reports of the nodes that were built below. `nodeReport` builds a node as `nodeBuilder` does and
reports on it. What is proved of whole builds is proved of their reports, which hold the values that
the build has passed through on its way.

Reports are made along the shape of the builder, one function for each of its functions, and each of
them follows the one that it reports on (`Reporter.Follows`): forgetting all but the outcome gives
the same run. The builder is defined by structural recursion on the schema; the equations
`nodeBuilder_eq_buildWith`, `entryEvaluator_eq` and `fieldEvaluator_eq` say what it does at a node,
an entry and a field, and are how it is unfolded everywhere. The main result, `nodeBuilder_eq`, says
that the result and the tree of the report are those of the build.
-/

namespace Intake.Build

open Intake.Schema Intake.Failure

mutual
/-- A field that was tried: where, the value it was filled with, its outcome, and the reports of the
    nodes built below it. -/
structure Trial where
  field : Field
  scope : Scope
  filled : Option Value
  outcome : Outcome
  reports : List Report

/-- The fields tried for an entry: those that failed while others were left to try, and the one that
    decides. -/
structure Trials where
  lost : List Trial
  decisive : Option Trial

/-- An entry that was evaluated, with the fields tried for it. -/
structure Step where
  entry : Schema.Entry
  trials : Trials

/-- A node that was built: its input, the entries evaluated, the failures of their clauses, the
    resolved tree and the result. -/
structure Report where
  node : Node
  input : Tree
  steps : List Step
  rejected : List (List Failure.Entry)
  tree : Tree
  result : Result
end

namespace Trials

/-- All fields that were tried. -/
def all (ts : Trials) : List Trial :=
  ts.lost ++ ts.decisive.toList

/-- The outcome of the field that decides. -/
def outcome (ts : Trials) : Outcome :=
  (ts.decisive.map Trial.outcome).getD .absent

/-- The trials with one before them that failed. -/
def cons (t : Trial) (ts : Trials) : Trials :=
  ⟨t :: ts.lost, ts.decisive⟩

@[simp] theorem outcome_cons (t : Trial) (ts : Trials) : (cons t ts).outcome = ts.outcome := rfl

@[simp] theorem outcome_decisive (lost : List Trial) (t : Trial) :
    outcome ⟨lost, some t⟩ = t.outcome := rfl

@[simp] theorem outcome_none (lost : List Trial) : outcome ⟨lost, none⟩ = .absent := rfl

end Trials

namespace Step

/-- The outcome of an entry. -/
def outcome (s : Step) : Outcome :=
  s.trials.outcome

/-- The outcomes of entries under their names. -/
def outcomes (ss : List Step) : Outcomes :=
  ss.map fun s => (s.entry.name, s.outcome)

end Step

namespace Report

/-- The result and the tree of a node that was built. -/
def summary (r : Report) : Result × Tree :=
  (r.result, r.tree)

end Report

/-- The building of a node with a report. -/
abbrev Reporter := Context → Option Tree → List (Value × Value) → Run Report

/-- The building of what stands below a field, with the reports of the nodes there. -/
abbrev BelowReporter := Field → Scope → Value → Run (Outcome × List Report)

/-- The record of a value for a field with a node below, with a report. -/
def reportSingle (report : Reporter) : BelowReporter := fun f s v => do
  match v with
  | .map entries =>
    let r ← report s.context (some s.root) entries
    return (.ofNode f v r.summary, [r])
  | _ => return (.present f v [typeFailure f ("Expected map, got " ++ v.typeName)], [])

/-- The records of a list of values for a field with a list of nodes below, with reports. -/
def reportMany (report : Reporter) : BelowReporter := fun f s v => do
  match mapsOf? v with
  | none => return (.present f v [typeFailure f "Expected list of maps"], [])
  | some maps =>
    let rs ← maps.mapM (report s.context (some s.root))
    return (.ofItems f v (.ofResults f.name 0 (rs.map Report.summary)), rs)

/-- The outcome of a field that has a value, with the reports of the nodes below. -/
def reportProcess (owner : Node) (f : Field) (below : Option BelowReporter) (s : Scope) (v : Value) :
    Run (Outcome × List Report) := do
  let (v, failures) ← checked owner f v
  if !failures.isEmpty then return (.present f v failures, [])
  else
    match below with
    | none => return (.present f v [], [])
    | some report => report f s v

/-- The evaluation of a field or a candidate, with the trial it is. -/
abbrev FieldReporter := Scope → Fills → Run (Trial × Fills)

/-- The evaluation of a field of a node, with the trial it is. -/
def reportField (owner : Node) (f : Field) (below : Option BelowReporter) : FieldReporter :=
  fun s fills => do
    match ← Run.ofExcept (blocked? s f) with
    | some path =>
      let sent := (s.tree.sent? f.name).isSome
      let outcome := Outcome.skipped (if sent then [.ofDependency f.name path] else [])
      return (⟨f, s, none, outcome, []⟩, fills)
    | none =>
      match ← fill s f fills with
      | (none, fills) => return (⟨f, s, none, .absent, []⟩, fills)
      | (some v, fills) =>
        let (outcome, reports) ← reportProcess owner f below s v
        return (⟨f, s, some v, outcome, reports⟩, fills)

/-- The trials of candidates, up to the first one without failures. -/
def reportCandidates (s : Scope) : List FieldReporter → Fills → Run Trials
  | [], _ => return ⟨[], none⟩
  | [last], fills => do return ⟨[], some (← last s fills).1⟩
  | candidate :: rest, fills => do
    let (trial, fills) ← candidate s fills
    if trial.outcome.isClean then return ⟨[], some trial⟩
    else return .cons trial (← reportCandidates s rest fills)

/-- The evaluation of an entry, with its trials. -/
abbrev EntryReporter := Scope → Run Trials

/-- An entry of a node with the trials of its evaluation. -/
abbrev ReportPart := Schema.Entry × EntryReporter

/-- The steps of entries evaluated one after the other, and the tree they resolve to. -/
def reportParts (c : Context) (root? : Option Tree) : List ReportPart → Tree →
    Run (List Step × Tree)
  | [], t => return ([], t)
  | (e, report) :: rest, t => do
    let trials ← report (scopeOf c root? t)
    let (steps, t) ← reportParts c root? rest (trials.outcome.resolve e.name t)
    return (⟨e, trials⟩ :: steps, t)

/-- The report on a node for the tree of its input. -/
def reportNode (n : Node) (parts : List ReportPart) (c : Context) (root? : Option Tree) (t : Tree) :
    Run Report := do
  match refusal? n c.mode t with
  | some p => return ⟨n, t, [], [], t, .error p⟩
  | none =>
    let ordered := Slot.arrange (fun p : ReportPart => p.1.slot root?.isNone) parts
    let (steps, tree) ← reportParts c root? ordered t
    let os := Step.outcomes steps
    let rejected ← n.entries.mapM (rejectionsOf n (scopeOf c root? tree) os)
    return ⟨n, t, steps, rejected, tree, ← settle n os rejected⟩

/-- The building of a node with the trials of its entries, with a report. -/
def reportWith (n : Node) (parts : List ReportPart) : Reporter := fun c root? input => do
  let tree ← Run.ofExcept (Tree.read input)
  trace c "build_started" [("schema", .text n.name), ("mode", .text c.mode.name)]
  let r ← reportNode n parts c root? tree
  announce n c r.result
  return r

mutual
/-- The building of a node with a report. -/
def nodeReport (n : Node) : Reporter :=
  match n with
  | ⟨_, entries, _, _, _, _, _, _⟩ => reportWith n (reportPartsOf n entries)
termination_by structural n

/-- The entries of a node with their trials. -/
def reportPartsOf (owner : Node) (es : List Schema.Entry) : List ReportPart :=
  match es with
  | [] => []
  | e :: rest => (e, reportEntry owner e) :: reportPartsOf owner rest
termination_by structural es

/-- The trials of an entry. -/
def reportEntry (owner : Node) (e : Schema.Entry) : EntryReporter :=
  match e with
  | .field f => fun s => reportCandidates s [fieldReporter owner f] []
  | .group g => reportGroup owner g
termination_by structural e

/-- The trials of a group. -/
def reportGroup (owner : Node) (g : Group) : EntryReporter :=
  match g with
  | ⟨_, candidates, _⟩ => fun s => reportCandidates s (fieldReporters owner candidates) []
termination_by structural g

/-- The evaluations of fields, with the trials they are. -/
def fieldReporters (owner : Node) (fs : List Field) : List FieldReporter :=
  match fs with
  | [] => []
  | f :: rest => fieldReporter owner f :: fieldReporters owner rest
termination_by structural fs

/-- The evaluation of a field, with the trial it is. -/
def fieldReporter (owner : Node) (f : Field) : FieldReporter :=
  match f with
  | ⟨_, _, _, _, _, _, _, _, _, _, child⟩ => reportField owner f (childReporter child)
termination_by structural f

/-- The building of what stands below a field, with reports. -/
def childReporter (c : Child) : Option BelowReporter :=
  match c with
  | .none => none
  | .single n => some (reportSingle (nodeReport n))
  | .many n => some (reportMany (nodeReport n))
termination_by structural c
end

/-! ### What is built with a report is what is built -/

/-- The reporter builds what the builder builds. -/
def Reporter.Follows (report : Reporter) (build : Builder) : Prop :=
  ∀ c root? input, build c root? input = Report.summary <$> report c root? input

/-- The reports of what stands below a field come with its outcome. -/
def BelowReporter.Follows (report : BelowReporter) (build : Below) : Prop :=
  ∀ f s v, build f s v = Prod.fst <$> report f s v

theorem reportSingle_follows {report : Reporter} {build : Builder} (h : report.Follows build) :
    BelowReporter.Follows (reportSingle report) (buildSingle build) := by
  intro f s v
  simp only [buildSingle, reportSingle]
  cases v <;> simp [h _ _ _, Report.summary]

/-- The nodes of a list are built as the reports on them say, one by one. -/
theorem reportMany_follows {report : Reporter} {build : Builder} (h : report.Follows build) :
    BelowReporter.Follows (reportMany report) (buildMany build) := by
  intro f s v
  rw [buildMany, reportMany]
  cases mapsOf? v with
  | none => simp
  | some maps =>
    have hbuild : build s.context (some s.root) =
        fun entries => Report.summary <$> report s.context (some s.root) entries :=
      funext fun entries => h _ _ entries
    simp [hbuild, Run.mapM_comp_map]

theorem reportProcess_fst (owner : Node) (f : Field) (s : Scope) (v : Value)
    {report : Option BelowReporter} {build : Option Below}
    (h : Option.Rel BelowReporter.Follows report build) :
    process owner f build s v = Prod.fst <$> reportProcess owner f report s v := by
  rw [process, reportProcess]
  rw [map_bind]
  congr 1
  funext ⟨w, failures⟩
  cases failures with
  | cons e es => simp
  | nil =>
    cases h with
    | none => simp
    | some h => simp [h f s w]

/-- The trial of a field has the outcome of its evaluation. -/
theorem reportField_outcome (owner : Node) (f : Field) (s : Scope) (fills : Fills)
    {report : Option BelowReporter} {build : Option Below}
    (h : Option.Rel BelowReporter.Follows report build) :
    evaluateField owner f build s fills =
      (fun p => (p.1.outcome, p.2)) <$> reportField owner f report s fills := by
  rw [evaluateField, reportField]
  rw [map_bind]
  congr 1
  funext blocked
  -- Both look at the gate, then fill, and then go on with the value.
  cases blocked with
  | some path => simp
  | none =>
    simp only [map_bind]
    congr 1
    funext p
    obtain ⟨v?, fills⟩ := p
    cases v? with
    | none => simp
    | some v => simp [reportProcess_fst owner f s v h]

/-- The evaluations of fields follow one another. -/
def FieldReporter.Follows (report : FieldReporter) (evaluate : FieldEvaluator) : Prop :=
  ∀ s fills, evaluate s fills = (fun p => (p.1.outcome, p.2)) <$> report s fills

/-- The outcome of a group is that of the trials reported. -/
theorem reportCandidates_outcome (s : Scope) {reports : List FieldReporter}
    {evaluators : List FieldEvaluator} (h : List.Forall₂ FieldReporter.Follows reports evaluators)
    (fills : Fills) :
    evaluateCandidates s evaluators fills =
      Trials.outcome <$> reportCandidates s reports fills := by
  induction h generalizing fills with
  | nil => simp [evaluateCandidates, reportCandidates]
  | @cons report evaluate reports evaluators h hs ih =>
    cases hs with
    | nil => simp [evaluateCandidates, reportCandidates, h s fills]
    | cons h' hs' =>
      simp only [evaluateCandidates, reportCandidates, h s fills, map_bind, bind_map_left]
      congr 1
      funext ⟨trial, fills⟩
      cases htrial : trial.outcome.isClean with
      | true => simp
      | false => simp [ih fills]

/-- The trials of an entry have the outcome of its evaluation. -/
def EntryReporter.Follows (report : EntryReporter) (evaluate : EntryEvaluator) : Prop :=
  ∀ s, evaluate s = Trials.outcome <$> report s

/-- A part with a report has the entry of a part, and its trials have the outcome of that. -/
def PartFollows (p : ReportPart) (q : Part) : Prop :=
  p.1 = q.1 ∧ EntryReporter.Follows p.2 q.2

/-- The outcomes of entries one after the other are those of the steps reported. -/
theorem reportParts_outcomes (c : Context) (root? : Option Tree) {ps : List ReportPart}
    {qs : List Part} (h : List.Forall₂ PartFollows ps qs) (t : Tree) :
    evaluateParts c root? qs t =
      (fun p => (Step.outcomes p.1, p.2)) <$> reportParts c root? ps t := by
  induction h generalizing t with
  | nil => simp [evaluateParts, reportParts, Step.outcomes]
  | @cons p q ps qs h hs ih =>
    obtain ⟨e, report⟩ := p
    obtain ⟨e', evaluate⟩ := q
    obtain ⟨rfl, h⟩ := h
    have h : ∀ s, evaluate s = Trials.outcome <$> report s := h
    simp [evaluateParts, reportParts, h, ih, Step.outcomes, Step.outcome]

theorem reportNode_summary (n : Node) (c : Context) (root? : Option Tree) {ps : List ReportPart}
    {qs : List Part} (h : List.Forall₂ PartFollows ps qs) (t : Tree) :
    evaluateNode n qs c root? t = Report.summary <$> reportNode n ps c root? t := by
  rw [evaluateNode, reportNode]
  cases refusal? n c.mode t with
  | some p => simp [Report.summary]
  | none =>
    -- The parts are arranged by their entries, which are the same.
    have hordered : List.Forall₂ PartFollows
        (Slot.arrange (fun p : ReportPart => p.1.slot root?.isNone) ps)
        (orderedParts root?.isNone qs) :=
      Slot.forall₂_arrange (fun p q hpq => by rw [hpq.1]) h
    simp [reportParts_outcomes c root? hordered t, Report.summary]

theorem reportWith_follows (n : Node) {ps : List ReportPart} {qs : List Part}
    (h : List.Forall₂ PartFollows ps qs) :
    Reporter.Follows (reportWith n ps) (buildWith n qs) := by
  intro c root? input
  simp [buildWith, reportWith, reportNode_summary n c root? h, Report.summary]

/-! ### The parts of a node -/

theorem partsOf_eq (owner : Node) (es : List Schema.Entry) :
    partsOf owner es = es.map fun e => (e, entryEvaluator owner e) := by
  induction es with
  | nil => rfl
  | cons e rest ih => rw [partsOf, ih, List.map_cons]

theorem reportPartsOf_eq (owner : Node) (es : List Schema.Entry) :
    reportPartsOf owner es = es.map fun e => (e, reportEntry owner e) := by
  induction es with
  | nil => rfl
  | cons e rest ih => rw [reportPartsOf, ih, List.map_cons]

theorem fieldEvaluators_eq (owner : Node) (fs : List Field) :
    fieldEvaluators owner fs = fs.map (fieldEvaluator owner) := by
  induction fs with
  | nil => rfl
  | cons f rest ih => rw [fieldEvaluators, ih, List.map_cons]

theorem fieldReporters_eq (owner : Node) (fs : List Field) :
    fieldReporters owner fs = fs.map (fieldReporter owner) := by
  induction fs with
  | nil => rfl
  | cons f rest ih => rw [fieldReporters, ih, List.map_cons]

/-- A node is built by evaluating its entries, which is how its builder is taken apart. -/
theorem nodeBuilder_eq_buildWith (n : Node) :
    nodeBuilder n = buildWith n (n.entries.map fun e => (e, entryEvaluator n e)) := by
  rw [← partsOf_eq]
  cases n
  rfl

theorem nodeReport_eq (n : Node) :
    nodeReport n = reportWith n (n.entries.map fun e => (e, reportEntry n e)) := by
  rw [← reportPartsOf_eq]
  cases n
  rfl

/-- The candidates of a group are tried like a field is, which is an entry by itself. -/
theorem entryEvaluator_eq (owner : Node) (e : Schema.Entry) :
    entryEvaluator owner e = fun s =>
      evaluateCandidates s (e.fields.map (fieldEvaluator owner)) [] := by
  cases e with
  | field f => rfl
  | group g =>
    cases g
    rw [Entry.fields, ← fieldEvaluators_eq]
    rfl

theorem reportEntry_eq (owner : Node) (e : Schema.Entry) :
    reportEntry owner e = fun s =>
      reportCandidates s (e.fields.map (fieldReporter owner)) [] := by
  cases e with
  | field f => rfl
  | group g =>
    cases g
    rw [Entry.fields, ← fieldReporters_eq]
    rfl

theorem fieldEvaluator_eq (owner : Node) (f : Field) :
    fieldEvaluator owner f = evaluateField owner f (childBuilder f.child) := by
  cases f
  rfl

theorem fieldReporter_eq (owner : Node) (f : Field) :
    fieldReporter owner f = reportField owner f (childReporter f.child) := by
  cases f
  rfl

/-- The trial of a field has the outcome of its evaluation, where the nodes below follow. -/
theorem fieldReporter_follows_of {n : Node} {f : Field}
    (hbelow : ∀ m, f.child.node? = some m → (nodeReport m).Follows (nodeBuilder m)) :
    FieldReporter.Follows (fieldReporter n f) (fieldEvaluator n f) := by
  intro s fills
  rw [fieldEvaluator_eq, fieldReporter_eq]
  refine reportField_outcome n f s fills ?_
  cases hc : f.child with
  | none => exact .none
  | single m => exact .some (reportSingle_follows (hbelow m (by rw [hc]; rfl)))
  | many m => exact .some (reportMany_follows (hbelow m (by rw [hc]; rfl)))

/-- The trials of an entry have the outcome of its evaluation, where the nodes below follow. -/
theorem reportEntry_follows {n : Node} {e : Schema.Entry}
    (hbelow : ∀ f ∈ e.fields, ∀ m, f.child.node? = some m → (nodeReport m).Follows (nodeBuilder m)) :
    EntryReporter.Follows (reportEntry n e) (entryEvaluator n e) := by
  intro s
  rw [entryEvaluator_eq, reportEntry_eq]
  refine reportCandidates_outcome s ?_ []
  rw [List.forall₂_map_left_iff, List.forall₂_map_right_iff, List.forall₂_same]
  exact fun f hf => fieldReporter_follows_of (hbelow f hf)

/-- Building a node is building it with a report, of which the result and the tree are kept. -/
theorem nodeBuilder_eq (n : Node) : (nodeReport n).Follows (nodeBuilder n) := by
  induction n using Node.below_induction with
  | h n ih =>
    -- The nodes below the fields follow by induction, and with them the entries.
    rw [nodeBuilder_eq_buildWith, nodeReport_eq]
    refine reportWith_follows n ?_
    rw [List.forall₂_map_left_iff, List.forall₂_map_right_iff, List.forall₂_same]
    exact fun e he => ⟨rfl, reportEntry_follows fun f hf => ih f (Node.mem_fields he hf)⟩

theorem fieldReporter_follows (n : Node) (f : Field) :
    FieldReporter.Follows (fieldReporter n f) (fieldEvaluator n f) :=
  fieldReporter_follows_of fun m _ => nodeBuilder_eq m

/-- Evaluating an entry is trying its fields, of which the outcome is kept. -/
theorem entryEvaluator_eq_outcome (n : Node) (e : Schema.Entry) (s : Scope) :
    entryEvaluator n e s = Trials.outcome <$> reportEntry n e s :=
  reportEntry_follows (fun _ _ m _ => nodeBuilder_eq m) s

end Intake.Build
