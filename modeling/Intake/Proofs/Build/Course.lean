import Intake.Build.Node
import Intake.Proofs.Build.Report
import Intake.Proofs.Check.Course
import Intake.Proofs.Schema.Muting

/-!
# The courses of builds

The events of a build, along the shape of the builder: in the course of a node are the events of its
entries and of the nodes below them, and last the node itself, finished. There is one course for each
function of the builder, put together from the courses of the functions that it calls.

The steps within a node raise nothing, so that the quiet run and the loud run of their courses are the
same (`asks_checked`, `asks_fill`, `asks_rejections`, `asks_settle`). They depend on the options to
raise of no node: the muted node takes the same steps as the node. For a node as a whole the two runs
differ. The quiet run of its course builds the muted node, the loud run builds the node as it is:

* `covers_node`: for a node with all that stands below it, by induction on the nodes below;
* `covers_build`: for a whole build, also of an input that is no map;
* `ends_node`, `ends_evaluateNode`: where the quiet run answers, the events of a node are those of its
  entries, its clauses and its main validator, in this order, and then the node, finished.
-/

namespace Intake

/-- The generator of the field may be asked, if it has one. -/
def Powers.Admits (p : Powers) (f : Schema.Field) : Prop :=
  ∀ a, f.auto = some a → p.generators a.generator

theorem Schema.Field.admits_all (f : Field) : Powers.all.Admits f :=
  fun _ _ => trivial

theorem Schema.Field.admits_plain (f : Field) : Powers.plain.Admits f :=
  fun _ _ => trivial

end Intake

namespace Intake.Build

open Intake.Schema Intake.Failure

/-! ### The steps that do not depend on raising -/

section Muted

variable (n : Node) (f : Field)

/-- The reply of a validator is read alike for the muted field. -/
theorem validated_muted (r : Reply) (v : Value) :
    validated n.muted f.muted r v = validated n f r v := by
  simp only [validated, Node.muted_name, Field.muted_name]

/-- A muted field is validated as the field is. -/
theorem validate_muted (v : Value) : validate n.muted f.muted v = validate n f v := by
  simp only [validate, validatorOf, validated_muted, Node.muted_validator, Field.muted_validator,
    Field.muted_name]

/-- A muted field is checked as the field is, by its rule and its validator. -/
theorem checked_muted (v : Value) : checked n.muted f.muted v = checked n f v := by
  simp only [checked, validate_muted, Node.muted_functions, Field.muted_name, Field.muted_rule]

theorem blocked?_muted (s : Scope) : blocked? s f.muted = blocked? s f := by
  simp only [blocked?, Field.gated?, Field.muted_gate]

theorem filled_muted (s : Scope) : filled s f.muted = filled s f := by
  simp only [filled, given, Field.copied?, Field.muted_name, Field.muted_source, Field.muted_auto]

/-- A muted field is filled as the field is. -/
theorem fill_muted (s : Scope) (fills : Fills) : fill s f.muted fills = fill s f fills := by
  simp only [fill, FillKey.ofField, filled_muted, Field.muted_source, Field.muted_auto]

theorem present_muted (v : Value) (failures : List Failure.Entry) :
    Outcome.present f.muted v failures = .present f v failures := by
  simp only [Outcome.present, Field.muted_clauses]

theorem ofNode_muted (v : Value) (p : Result × Tree) :
    Outcome.ofNode f.muted v p = .ofNode f v p := by
  rcases p with ⟨p | m, tree⟩ <;>
    simp only [Outcome.ofNode, Field.muted_clauses, Field.muted_name]

theorem ofItems_muted (v : Value) (items : Items) :
    Outcome.ofItems f.muted v items = .ofItems f v items := by
  simp only [Outcome.ofItems, Field.muted_clauses]

/-- A muted node is refused as the node is. -/
theorem refusal?_muted (mode : Mode) (t : Tree) : refusal? n.muted mode t = refusal? n mode t := by
  simp only [refusal?, unknownNames, missingNames, Node.muted_closed, Node.muted_names,
    Node.muted_required]

theorem outcomes_of_muted (os : Outcomes) (e : Schema.Entry) : os.of e.muted = os.of e := by
  simp only [Outcomes.of, Entry.muted_name]

/-- The clauses of a muted entry are rejected as those of the entry are. -/
theorem rejectionsOf_muted (s : Scope) (os : Outcomes) (e : Schema.Entry) :
    rejectionsOf n.muted s os e.muted = rejectionsOf n s os e := by
  simp only [rejectionsOf, outcomes_of_muted, Entry.muted_name, Node.muted_functions]

theorem valuesOf_muted (os : Outcomes) : valuesOf n.muted os = valuesOf n os := by
  simp only [valuesOf, Node.muted_entries, List.map_map, Function.comp_def, outcomes_of_muted,
    Entry.muted_name, Entry.muted_default]

theorem runMain_muted (values : Tree) : runMain n.muted values = runMain n values := by
  simp only [runMain, mainAnswer, Node.muted_main, Node.muted_name]

theorem recordOf_muted (values : List (Value × Value)) :
    recordOf n.muted values = recordOf n values := by
  simp only [recordOf, Node.muted_names, Node.muted_defaults, Node.muted_name]

/-- A muted node settles for what the node settles for. -/
theorem settle_muted (os : Outcomes) (rejected : List (List Failure.Entry)) :
    settle n.muted os rejected = settle n os rejected := by
  simp only [settle, Node.muted_entries, List.flatMap_map, outcomes_of_muted, valuesOf_muted,
    runMain_muted, recordOf_muted]

end Muted

/-! ### Values -/

/-- A reply that is neither a value accepted nor a message breaks the contract of validators of fields,
    and no other one does. -/
theorem isReading_validated (n : Node) (f : Field) (v : Value) :
    Role.validator.IsReading (n.name ++ "." ++ f.name) (validated n f · v) := by
  intro r
  cases r with
  | err w => cases w <;> rfl
  | _ => rfl

/-- The course of the validator of a field. -/
def validateCourse (n : Node) (f : Field) (v : Value) : Course (Value × List Failure.Entry) :=
  match validatorOf n f with
  | none => return (v, [])
  | some (.inert w) => .ofExcept .callable (.error (.notCallable w.fullTypeName))
  | some (.call validator) =>
    .consult (.validator f.name v validator.label) .validator (n.name ++ "." ++ f.name)
      (validator.run f.name v) (validated n f · v) (isReading_validated n f v)

/-- The events of a validator are those of what is run. -/
theorem asks_validate {p : Powers} (n : Node) (f : Field) (v : Value) :
    (validateCourse n f v).Asks p (validate n f v) := by
  rw [validateCourse, validate]
  cases validatorOf n f with
  | none => exact .pure _
  | some hook =>
    cases hook with
    | inert w => exact .ofExcept .callable (unraised_notCallable w)
    | call validator => exact .consult _ .validator _ _ _ (isReading_validated n f v)

/-- The course of a value checked by the rule and the validator of a field. -/
def checkedCourse (n : Node) (f : Field) (v : Value) : Course (Value × List Failure.Entry) := do
  let (v, failures) ← Check.runRuleCourse n.functions f.name f.rule v
  if failures.isEmpty then validateCourse n f v else return (v, failures)

/-- The events of a checked value are those of its rule, and of the validator if the rule has found
    nothing. -/
theorem asks_checked {p : Powers} (n : Node) (f : Field) (v : Value) :
    (checkedCourse n f v).Asks p (checked n f v) := by
  rw [checkedCourse, checked]
  refine (Check.asks_runRule n.functions f.name f.rule v).bind fun p => ?_
  dsimp only
  split
  · exact asks_validate n f p.1
  · exact .pure _

/-- The course of the value a field is filled with. -/
def filledCourse (s : Scope) (f : Field) : Course (Option Value) := do
  let own ← .ofExcept .lookup (given s f)
  match f.auto with
  | none => return own
  | some auto =>
    if own.any (!·.isEmpty) then return own
    else
      let v ← .generate auto.generator auto.argument
      return if v.isNull then none else some v

/-- A field is filled with what it is given, or a generator is asked, which has to be allowed. -/
theorem asks_filled {p : Powers} (s : Scope) {f : Field} (hauto : p.Admits f) :
    (filledCourse s f).Asks p (filled s f) := by
  rw [filledCourse, filled]
  refine (Course.Asks.ofExcept .lookup (given_unraised s f)).bind fun own => ?_
  cases ha : f.auto with
  | none => exact .pure _
  | some auto =>
    dsimp only
    split
    · exact .pure _
    · exact (Course.Asks.generate (hauto auto ha) _).bind fun v => .pure _

/-- The course of the value a field is filled with, where an earlier fill may be taken. -/
def fillCourse (s : Scope) (f : Field) (fills : Fills) : Course (Option Value × Fills) :=
  let key := FillKey.ofField f
  match fills.find? (·.1.equals key) with
  | some (_, v) => return (v, fills)
  | none => do
    let v ← filledCourse s f
    return (v, fills ++ [(key, v)])

/-- An earlier fill is taken without an event. -/
theorem asks_fill {p : Powers} (s : Scope) {f : Field} (hauto : p.Admits f) (fills : Fills) :
    (fillCourse s f fills).Asks p (fill s f fills) := by
  rw [fillCourse, fill]
  cases fills.find? (·.1.equals (FillKey.ofField f)) with
  | some p => exact .pure _
  | none => exact (asks_filled s hauto).bind fun v => .pure _

/-! ### Fields -/

/-- The course of the building of a node. -/
abbrev BuilderCourse := Context → Option Tree → List (Value × Value) → Course (Result × Tree)

/-- The course of the building of what stands below a field. -/
abbrev BelowCourse := Field → Scope → Value → Course Outcome

/-- The course of the evaluation of a field. -/
abbrev FieldCourse := Scope → Fills → Course (Outcome × Fills)

/-- The course of the evaluation of an entry. -/
abbrev EntryCourse := Scope → Course Outcome

/-- The two runs of a course for the building of a node. -/
def BuilderCourse.Covers (course : BuilderCourse) (quiet loud : Builder) : Prop :=
  ∀ c root? input, (course c root? input).Covers (quiet c root? input) (loud c root? input)

/-- The course of a value for a field with a node below. -/
def singleCourse (build : BuilderCourse) : BelowCourse := fun f s v => do
  match v with
  | .map entries => return .ofNode f v (← build s.context (some s.root) entries)
  | _ => return .present f v [typeFailure f ("Expected map, got " ++ v.typeName)]

/-- The course of a list of values for a field with a list of nodes below. -/
def manyCourse (build : BuilderCourse) : BelowCourse := fun f s v => do
  match mapsOf? v with
  | none => return .present f v [typeFailure f "Expected list of maps"]
  | some maps =>
    let results ← .forEach (build s.context (some s.root)) maps
    return .ofItems f v (.ofResults f.name 0 results)

/-- The two runs of a course for what stands below a field: the quiet one is that of the muted
    field. -/
def BelowCovers : Option BelowCourse → Option Below → Option Below → Prop
  | none, none, none => True
  | some course, some quiet, some loud =>
    ∀ f s v, (course f s v).Covers (quiet f.muted s v) (loud f s v)
  | _, _, _ => False

theorem typeFailure_muted (f : Field) (message : String) :
    typeFailure f.muted message = typeFailure f message := by
  simp only [typeFailure, Field.muted_name]

/-- A field with a node below is muted with it. -/
theorem covers_single {course : BuilderCourse} {quiet loud : Builder}
    (h : course.Covers quiet loud) :
    BelowCovers (some (singleCourse course)) (some (buildSingle quiet))
      (some (buildSingle loud)) := by
  intro f s v
  simp only [singleCourse, buildSingle, typeFailure_muted, present_muted, ofNode_muted]
  cases v with
  | map entries => exact (h _ _ entries).bind fun p => .pure _
  | _ => exact .pure _

/-- A field with a list of nodes below is muted with them, item by item. -/
theorem covers_many {course : BuilderCourse} {quiet loud : Builder}
    (h : course.Covers quiet loud) :
    BelowCovers (some (manyCourse course)) (some (buildMany quiet)) (some (buildMany loud)) := by
  intro f s v
  simp only [manyCourse, buildMany, typeFailure_muted, present_muted, ofItems_muted,
    Field.muted_name]
  cases mapsOf? v with
  | none => exact .pure _
  | some maps => exact (Course.Covers.forEach (h _ _) maps).bind fun results => .pure _

/-- The course of a field that has a value. -/
def processCourse (n : Node) (f : Field) (below : Option BelowCourse) (s : Scope) (v : Value) :
    Course Outcome := do
  let (v, failures) ← checkedCourse n f v
  if !failures.isEmpty then return .present f v failures
  else
    match below with
    | none => return .present f v []
    | some build => build f s v

/-- A value that passes its checks goes on to what stands below the field. -/
theorem covers_process (n : Node) (f : Field) {below : Option BelowCourse}
    {quiet loud : Option Below} (h : BelowCovers below quiet loud) (s : Scope) (v : Value) :
    (processCourse n f below s v).Covers (process n.muted f.muted quiet s v)
      (process n f loud s v) := by
  rw [processCourse, process, process]
  rw [checked_muted]
  refine (asks_checked n f v).covers.bind fun p => ?_
  simp only [present_muted]
  split
  · exact .pure _
  · -- Either nothing stands below the field, or the courses there are those of the runs.
    rcases below with _ | course <;> rcases quiet with _ | quiet <;> rcases loud with _ | loud <;>
      try exact h.elim
    · exact .pure _
    · exact h f s p.1

/-- The course of a field of a node. -/
def evaluateFieldCourse (n : Node) (f : Field) (below : Option BelowCourse) : FieldCourse :=
  fun s fills => do
    match ← Course.ofExcept .lookup (blocked? s f) with
    | some path =>
      let sent := (s.tree.sent? f.name).isSome
      return (.skipped (if sent then [.ofDependency f.name path] else []), fills)
    | none =>
      match ← fillCourse s f fills with
      | (none, fills) => return (.absent, fills)
      | (some v, fills) => return (← processCourse n f below s v, fills)

/-- The gate and the fill of a muted field are those of the field, and then its value is worked on. -/
theorem covers_evaluateField (n : Node) (f : Field) {below : Option BelowCourse}
    {quiet loud : Option Below} (h : BelowCovers below quiet loud) (s : Scope) (fills : Fills) :
    (evaluateFieldCourse n f below s fills).Covers (evaluateField n.muted f.muted quiet s fills)
      (evaluateField n f loud s fills) := by
  rw [evaluateFieldCourse, evaluateField, evaluateField]
  simp only [blocked?_muted, fill_muted, Field.muted_name]
  refine (Course.Asks.ofExcept .lookup (blocked?_unraised s f)).covers.bind fun blocked => ?_
  cases blocked with
  | some path => exact .pure _
  | none =>
    refine (asks_fill s f.admits_all fills).covers.bind fun p => ?_
    rcases p with ⟨_ | v, fills⟩
    · exact .pure _
    · exact (covers_process n f h s v).bind fun o => .pure _

/-- The course of candidates, up to the first one without failures. -/
def candidatesCourse (s : Scope) : List FieldCourse → Fills → Course Outcome
  | [], _ => return .absent
  | [last], fills => do return (← last s fills).1
  | candidate :: rest, fills => do
    let (outcome, fills) ← candidate s fills
    if outcome.isClean then return outcome else candidatesCourse s rest fills

/-- The first candidate without failures decides, by induction on the candidates. -/
theorem covers_candidates (s : Scope) {course : Field → FieldCourse}
    {quiet loud : Field → FieldEvaluator} {fs : List Field}
    (h : ∀ f ∈ fs, ∀ fills, (course f s fills).Covers (quiet f s fills) (loud f s fills))
    (fills : Fills) :
    (candidatesCourse s (fs.map course) fills).Covers (evaluateCandidates s (fs.map quiet) fills)
      (evaluateCandidates s (fs.map loud) fills) := by
  induction fs generalizing fills with
  | nil => exact .pure _
  | cons f rest ih =>
    have hfirst := h f List.mem_cons_self fills
    have ih := ih fun g hg => h g (List.mem_cons_of_mem f hg)
    cases rest with
    | nil =>
      simp only [List.map_cons, List.map_nil, candidatesCourse, evaluateCandidates]
      exact hfirst.bind fun p => .pure _
    | cons g rest =>
      simp only [List.map_cons, candidatesCourse, evaluateCandidates]
      refine hfirst.bind fun p => ?_
      split
      · exact .pure _
      · exact ih p.2

/-! ### Nodes -/

/-- An entry of a node with the course of its evaluation. -/
abbrev PartCourse := Schema.Entry × EntryCourse

/-- The course of entries evaluated one after the other. -/
def partsCourse (c : Context) (root? : Option Tree) :
    List PartCourse → Tree → Course (Outcomes × Tree)
  | [], t => return ([], t)
  | (e, evaluate) :: rest, t => do
    let o ← evaluate (scopeOf c root? t)
    let (os, t) ← partsCourse c root? rest (o.resolve e.name t)
    return ((e.name, o) :: os, t)

/-- Entries one after the other, each in the tree that the ones before it have left. -/
theorem covers_parts (c : Context) (root? : Option Tree) {course : Schema.Entry → EntryCourse}
    {quiet loud : Schema.Entry → EntryEvaluator} {es : List Schema.Entry}
    (h : ∀ e ∈ es, ∀ s, (course e s).Covers (quiet e s) (loud e s)) (t : Tree) :
    (partsCourse c root? (es.map fun e => (e, course e)) t).Covers
      (evaluateParts c root? (es.map fun e => (e.muted, quiet e)) t)
      (evaluateParts c root? (es.map fun e => (e, loud e)) t) := by
  induction es generalizing t with
  | nil => exact .pure _
  | cons e rest ih =>
    simp only [List.map_cons, partsCourse, evaluateParts, Entry.muted_name]
    refine (h e List.mem_cons_self _).bind fun o => ?_
    exact (ih (fun e' he' => h e' (List.mem_cons_of_mem e he')) _).bind fun p => .pure _

/-- The course of the clauses of an entry. -/
def rejectionsCourse (n : Node) (s : Scope) (os : Outcomes) (e : Schema.Entry) :
    Course (List Failure.Entry) :=
  let o := os.of e
  if o.resolved.isSome then Domain.evaluateCourse n.functions s.lookup e.name o.clauses
  else return []

/-- The events of the clauses of an entry are those of what is evaluated. -/
theorem asks_rejections {p : Powers} (n : Node) (s : Scope) (os : Outcomes) (e : Schema.Entry) :
    (rejectionsCourse n s os e).Asks p (rejectionsOf n s os e) := by
  rw [rejectionsCourse, rejectionsOf]
  split
  · exact Domain.asks_evaluate n.functions s.lookup_unraised e.name _
  · exact .pure _

/-- A reply that is no map accepted, no message and no payload breaks the contract of main validators,
    and no other one does. -/
theorem isReading_mainAnswer (n : Node) : Role.main.IsReading n.name (mainAnswer n) := by
  intro r
  cases r with
  | ok v => cases v <;> rfl
  | err v => cases v <;> rfl
  | _ => rfl

/-- The course of the main validator. -/
def mainCourse (n : Node) (values : Tree) : Course (Except Payload (List (Value × Value))) :=
  match n.main with
  | none => return .ok (values.map fun e => (.text e.1, e.2))
  | some (.inert w) => .ofExcept .callable (.error (.notCallable w.fullTypeName))
  | some (.call f) =>
    .consult (.main values.toValue) .main n.name (f values.toValue) (mainAnswer n)
      (isReading_mainAnswer n)

/-- The events of the main validator are those of what is run. -/
theorem asks_main {p : Powers} (n : Node) (values : Tree) :
    (mainCourse n values).Asks p (runMain n values) := by
  rw [mainCourse, runMain]
  cases n.main with
  | none => exact .pure _
  | some hook =>
    cases hook with
    | inert w => exact .ofExcept .callable (unraised_notCallable w)
    | call f => exact .consult _ .main n.name _ _ (isReading_mainAnswer n)

/-- The course of the settling of a node. -/
def settleCourse (n : Node) (os : Outcomes) (rejected : List (List Failure.Entry)) :
    Course Result := do
  let failures := n.entries.flatMap fun e => (os.of e).failures
  match aggregate (failures ++ rejected.flatten) with
  | some p => return .error p
  | none =>
    match ← mainCourse n (valuesOf n os) with
    | .error p => return .error p
    | .ok values => return .ok (← .ofExcept .record (recordOf n values))

/-- The main validator is asked if nothing has failed, and a record is made of what it accepts. -/
theorem asks_settle {p : Powers} (n : Node) (os : Outcomes) (rejected : List (List Failure.Entry)) :
    (settleCourse n os rejected).Asks p (settle n os rejected) := by
  simp only [settleCourse, settle]
  cases aggregate ((n.entries.flatMap fun e => (os.of e).failures) ++ rejected.flatten) with
  | some p => exact .pure _
  | none =>
    refine (asks_main n _).bind fun answer => ?_
    cases answer with
    | error p => exact .pure _
    | ok values =>
      exact (Course.Asks.ofExcept .record (recordOf_unraised n values)).bind fun v => .pure _

/-- The course of a node for the tree of its input. -/
def evaluateNodeCourse (n : Node) (parts : List PartCourse) (c : Context) (root? : Option Tree)
    (t : Tree) : Course (Result × Tree) := do
  match refusal? n c.mode t with
  | some p => return (.error p, t)
  | none =>
    let ordered := Slot.arrange (fun p : PartCourse => p.1.slot root?.isNone) parts
    let (os, t) ← partsCourse c root? ordered t
    let rejected ← .forEach (rejectionsCourse n (scopeOf c root? t) os) n.entries
    return (← settleCourse n os rejected, t)

/-- The parts of a muted node are evaluated in the order of the node. -/
theorem orderedParts_muted (atRoot : Bool) (evaluate : Schema.Entry → EntryEvaluator)
    (es : List Schema.Entry) :
    orderedParts atRoot (es.map fun e => (e.muted, evaluate e)) =
      (evaluationOrder atRoot es).map fun e => (e.muted, evaluate e) := by
  have hslot : (fun p : Part => p.1.slot atRoot) ∘ (fun e => (e.muted, evaluate e)) =
      Entry.slot atRoot :=
    funext fun e => e.slot_muted atRoot
  rw [orderedParts, Slot.arrange_map, hslot]
  rfl

/-- A node that is not refused is evaluated entry by entry, as the muted node is. -/
theorem covers_evaluateNode (n : Node) {course : Schema.Entry → EntryCourse}
    {quiet loud : Schema.Entry → EntryEvaluator}
    (h : ∀ e ∈ n.entries, ∀ s, (course e s).Covers (quiet e s) (loud e s)) (c : Context)
    (root? : Option Tree) (t : Tree) :
    (evaluateNodeCourse n (n.entries.map fun e => (e, course e)) c root? t).Covers
      (evaluateNode n.muted (n.entries.map fun e => (e.muted, quiet e)) c root? t)
      (evaluateNode n (n.entries.map fun e => (e, loud e)) c root? t) := by
  rw [evaluateNodeCourse, evaluateNode, evaluateNode]
  rw [refusal?_muted]
  cases refusal? n c.mode t with
  | some p => exact .pure _
  | none =>
    dsimp only
    rw [orderedParts_muted, Slot.arrange_map, orderedParts, Slot.arrange_map]
    refine (covers_parts c root? (fun e he => h e ?_) t).bind fun p => ?_
    · exact Node.mem_evaluationOrder.1 he
    · simp only [Node.muted_entries, List.mapM_map, Function.comp_def, rejectionsOf_muted,
        settle_muted]
      refine (Course.Asks.forEach (asks_rejections n _ p.1) n.entries).covers.bind ?_
      exact fun rejected => (asks_settle n p.1 rejected).covers.bind fun result => .pure _

/-- The course of a step that is logged if the build is traced. -/
def traceCourse (c : Context) (event : String) (details : List (String × Value)) : Course Unit :=
  if c.traced then .log event details else pure ()

/-- What is traced is no event of the course, but may tell of nodes. -/
theorem asks_trace {p : Powers} (hp : p.marks) (c : Context) (event : String)
    (details : List (String × Value)) :
    (traceCourse c event details).Asks p (trace c event details) := by
  rw [traceCourse, trace]
  split
  · exact .log (fun _ => hp) details
  · exact .pure _

/-- The course of the end of a node. -/
def announceCourse (n : Node) (c : Context) (result : Result) : Course Unit := do
  match result with
  | .error p => traceCourse c "build_failed" [("schema", .text n.name), ("kind", .text p.kind)]
  | .ok _ => traceCourse c "build_succeeded" [("schema", .text n.name)]
  .finish n result

/-- The end of a node, where the loud run raises the failure if the node asks for it. -/
theorem covers_announce (n : Node) (c : Context) (result : Result) :
    (announceCourse n c result).Covers (announce n.muted c result) (announce n c result) := by
  cases result with
  | error p =>
    simp only [announceCourse, announce, Node.muted_name, Node.muted_raises, Bool.false_eq_true,
      if_false]
    exact (asks_trace trivial c _ _).covers.bind fun _ => ⟨rfl, rfl⟩
  | ok v =>
    simp only [announceCourse, announce, Node.muted_name]
    rw [← bind_pure_unit (x := trace c _ _)]
    exact (asks_trace trivial c _ _).covers.bind fun _ => ⟨rfl, rfl⟩

/-- The course of the building of a node with those of its entries. -/
def buildWithCourse (n : Node) (parts : List PartCourse) : BuilderCourse := fun c root? input => do
  let tree ← .ofExcept .names (Tree.read input)
  traceCourse c "build_started" [("schema", .text n.name), ("mode", .text c.mode.name)]
  let (result, tree) ← evaluateNodeCourse n parts c root? tree
  announceCourse n c result
  return (result, tree)

/-- A node is built by its courses if its entries are evaluated by theirs. -/
theorem covers_buildWith (n : Node) {course : Schema.Entry → EntryCourse}
    {quiet loud : Schema.Entry → EntryEvaluator}
    (h : ∀ e ∈ n.entries, ∀ s, (course e s).Covers (quiet e s) (loud e s)) :
    BuilderCourse.Covers (buildWithCourse n (n.entries.map fun e => (e, course e)))
      (buildWith n.muted (n.entries.map fun e => (e.muted, quiet e)))
      (buildWith n (n.entries.map fun e => (e, loud e))) := by
  intro c root? input
  simp only [buildWithCourse, buildWith, Node.muted_name]
  refine (Course.Asks.ofExcept .names (Tree.read_unraised input)).covers.bind fun tree => ?_
  refine (asks_trace trivial c _ _).covers.bind fun _ => ?_
  refine (covers_evaluateNode n h c root? tree).bind fun p => ?_
  exact (covers_announce n c p.1).bind fun _ => .pure _

mutual
/-- The course of the building of a node. -/
def nodeCourse (n : Node) : BuilderCourse :=
  match n with
  | ⟨_, entries, _, _, _, _, _, _⟩ => buildWithCourse n (partCoursesOf n entries)
termination_by structural n

/-- The entries of a node with their courses. -/
def partCoursesOf (owner : Node) (es : List Schema.Entry) : List PartCourse :=
  match es with
  | [] => []
  | e :: rest => (e, entryCourse owner e) :: partCoursesOf owner rest
termination_by structural es

/-- The course of an entry. -/
def entryCourse (owner : Node) (e : Schema.Entry) : EntryCourse :=
  match e with
  | .field f => fun s => do return (← fieldCourse owner f s []).1
  | .group g => groupCourse owner g
termination_by structural e

/-- The course of a group. -/
def groupCourse (owner : Node) (g : Group) : EntryCourse :=
  match g with
  | ⟨_, candidates, _⟩ => fun s => candidatesCourse s (fieldCourses owner candidates) []
termination_by structural g

/-- The courses of fields. -/
def fieldCourses (owner : Node) (fs : List Field) : List FieldCourse :=
  match fs with
  | [] => []
  | f :: rest => fieldCourse owner f :: fieldCourses owner rest
termination_by structural fs

/-- The course of a field. -/
def fieldCourse (owner : Node) (f : Field) : FieldCourse :=
  match f with
  | ⟨_, _, _, _, _, _, _, _, _, _, child⟩ => evaluateFieldCourse owner f (childCourse child)
termination_by structural f

/-- The course of what stands below a field. -/
def childCourse (c : Child) : Option BelowCourse :=
  match c with
  | .none => none
  | .single n => some (singleCourse (nodeCourse n))
  | .many n => some (manyCourse (nodeCourse n))
termination_by structural c
end

theorem nodeCourse_eq (n : Node) :
    nodeCourse n = buildWithCourse n (n.entries.map fun e => (e, entryCourse n e)) := by
  have hparts : ∀ es, partCoursesOf n es = es.map fun e => (e, entryCourse n e) := fun es => by
    induction es with
    | nil => rfl
    | cons e rest ih => rw [partCoursesOf, ih, List.map_cons]
  rw [← hparts]
  cases n
  rfl

theorem fieldCourse_eq (n : Node) (f : Field) :
    fieldCourse n f = evaluateFieldCourse n f (childCourse f.child) := by
  cases f
  rfl

theorem entryCourse_eq (n : Node) (e : Schema.Entry) :
    entryCourse n e = fun s => candidatesCourse s (e.fields.map (fieldCourse n)) [] := by
  have hfields : ∀ fs, fieldCourses n fs = fs.map (fieldCourse n) := fun fs => by
    induction fs with
    | nil => rfl
    | cons f rest ih => rw [fieldCourses, ih, List.map_cons]
  cases e with
  | field f => rfl
  | group g =>
    cases g
    rw [Entry.fields, ← hfields]
    rfl

theorem covers_child_of {c : Child}
    (h : ∀ m, c.node? = some m → (nodeCourse m).Covers (nodeBuilder m.muted) (nodeBuilder m)) :
    BelowCovers (childCourse c) (childBuilder c.muted) (childBuilder c) := by
  cases c with
  | none => trivial
  | single m => exact covers_single (h m rfl)
  | many m => exact covers_many (h m rfl)

theorem covers_field {n : Node} {f : Field}
    (h : ∀ m, f.child.node? = some m → (nodeCourse m).Covers (nodeBuilder m.muted) (nodeBuilder m))
    (s : Scope) (fills : Fills) :
    (fieldCourse n f s fills).Covers (fieldEvaluator n.muted f.muted s fills)
      (fieldEvaluator n f s fills) := by
  rw [fieldCourse_eq, fieldEvaluator_eq, fieldEvaluator_eq, Field.muted_child]
  exact covers_evaluateField n f (covers_child_of h) s fills

/-- The entries are covered where the nodes below their fields are. -/
theorem covers_entry_of {n : Node} {e : Schema.Entry}
    (h : ∀ f ∈ e.fields, ∀ m, f.child.node? = some m →
      (nodeCourse m).Covers (nodeBuilder m.muted) (nodeBuilder m)) (s : Scope) :
    (entryCourse n e s).Covers (entryEvaluator n.muted e.muted s) (entryEvaluator n e s) := by
  rw [entryCourse_eq, entryEvaluator_eq, entryEvaluator_eq, Entry.muted_fields, List.map_map]
  exact covers_candidates s (fun f hf fills => covers_field (h f hf) s fills) []

/-- The quiet run of the course of a node builds the muted node, the loud one builds the node. -/
theorem covers_node (n : Node) : (nodeCourse n).Covers (nodeBuilder n.muted) (nodeBuilder n) := by
  induction n using Node.below_induction with
  | h n ih =>
    -- The nodes below the fields are covered by induction, and with them the entries.
    rw [nodeCourse_eq, nodeBuilder_eq_buildWith, nodeBuilder_eq_buildWith, Node.muted_entries,
      List.map_map]
    exact covers_buildWith n fun e he s =>
      covers_entry_of (fun f hf => ih f (Node.mem_fields he hf)) s

theorem covers_child (c : Child) :
    BelowCovers (childCourse c) (childBuilder c.muted) (childBuilder c) :=
  covers_child_of fun m _ => covers_node m

/-- The course of a build. -/
def buildCourse (n : Node) (c : Context) (input : Value) : Course (Result × Option Tree) := do
  match input with
  | .map entries =>
    let (result, tree) ← nodeCourse n c none entries
    return (result, some tree)
  | _ =>
    let p := Payload.bad [.field n.name "type" ("Expected map, got " ++ input.typeName)]
    .finish n (.error p)
    return (.error p, none)

/-- An input that is no map is the failure of a node that has not begun. -/
theorem covers_finish {α : Type} (n : Node) (p : Payload) (a : α) :
    (do Course.finish n (.error p); return a : Course α).Covers (return a)
      (if n.raises then raisePayload p n.name else return a) := by
  refine ⟨rfl, ?_⟩
  change ((if n.raises then raisePayload p n.name else pure ()) >>= fun _ => pure a) = _
  cases n.raises <;> rfl

/-- The quiet run of the course of a build is that of the muted node, the loud one is the build. -/
theorem covers_build (n : Node) (c : Context) (input : Value) :
    (buildCourse n c input).Covers (build n.muted c input) (build n c input) := by
  cases input with
  | map entries => exact (covers_node n c none entries).bind fun p => .pure _
  | _ =>
    simp only [buildCourse, build, Node.muted_name, Node.muted_raises, Bool.false_eq_true,
      if_false]
    exact covers_finish n _ _

/-! ### The events of a node -/

end Intake.Build
