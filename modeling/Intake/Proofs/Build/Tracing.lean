import Intake.Proofs.Build.Copies
import Intake.Proofs.Build.Steps
import Intake.Proofs.Build.Within

/-!
# Traces of builds

A traced build logs when a node is begun and how it is finished. Where the build answers, these
marks are those of the tree of nodes that were built: the marks of the nodes below a node stand
between its own two (`Report.marks`), also those of candidates that lose and of the items of lists.
Where a payload is raised, the node that raises it is the last to be finished, and the nodes around
it stay open (`BrokenOff`).

Which nodes a sequence of marks leaves open can be told from the marks alone (`unclosed`). The main
result is `build_traced`.
-/

namespace Intake.Build

open Intake.Schema Intake.Failure

/-! ### Marks -/

/-- What is logged of a node: that it is begun, that it has failed or succeeded, and that its
    payload is raised. -/
inductive Mark where
  | started (schema mode : String)
  | failed (schema kind : String)
  | succeeded (schema : String)
  | raised (schema kind : String)

/-- The record of a mark in the journal. -/
def Mark.record : Mark → Record
  | started schema mode => ⟨"build_started", [("schema", .text schema), ("mode", .text mode)]⟩
  | failed schema kind => ⟨"build_failed", [("schema", .text schema), ("kind", .text kind)]⟩
  | succeeded schema => ⟨"build_succeeded", [("schema", .text schema)]⟩
  | raised schema kind => ⟨"build_error_raised", [("schema", .text schema), ("kind", .text kind)]⟩

/-- The schemas of the nodes that are open behind a mark, innermost first, if a mark that closes a
    node closes the innermost one that is open. A payload that is raised closes none. -/
def Mark.step : Mark → List String → Option (List String)
  | started schema _, opened => some (schema :: opened)
  | failed schema _, innermost :: opened => if schema = innermost then some opened else none
  | succeeded schema, innermost :: opened => if schema = innermost then some opened else none
  | raised _ _, opened => some opened
  | _, [] => none

/-- The schemas of the nodes that are left open by marks, innermost first. -/
def unclosed (opened : List String) (ms : List Mark) : Option (List String) :=
  ms.foldlM (fun opened m => m.step opened) opened

@[simp] theorem unclosed_nil (opened : List String) : unclosed opened [] = some opened := rfl

@[simp] theorem unclosed_started (opened : List String) (schema mode : String) (ms : List Mark) :
    unclosed opened (.started schema mode :: ms) = unclosed (schema :: opened) ms := rfl

@[simp] theorem unclosed_failed (opened : List String) (schema kind : String) (ms : List Mark) :
    unclosed (schema :: opened) (.failed schema kind :: ms) = unclosed opened ms := by
  simp [unclosed, Mark.step]

@[simp] theorem unclosed_succeeded (opened : List String) (schema : String) (ms : List Mark) :
    unclosed (schema :: opened) (.succeeded schema :: ms) = unclosed opened ms := by
  simp [unclosed, Mark.step]

@[simp] theorem unclosed_raised (opened : List String) (schema kind : String) (ms : List Mark) :
    unclosed opened (.raised schema kind :: ms) = unclosed opened ms := rfl

/-- Which nodes are left open by marks and then others can be told step by step. -/
@[simp] theorem unclosed_append (opened : List String) (ms ms' : List Mark) :
    unclosed opened (ms ++ ms') = (unclosed opened ms).bind (unclosed · ms') :=
  List.foldlM_append

/-! ### The marks of nodes that were built -/

/-- The reports of the nodes that were built while an entry was evaluated. -/
def Trials.reports (ts : Trials) : List Report :=
  ts.all.flatMap Trial.reports

/-- The reports of the nodes that were built right below a node, in the order in which they were. -/
def Report.inner (r : Report) : List Report :=
  r.steps.flatMap fun s => s.trials.reports

/-- The reports of the nodes below are smaller, on which the recursion of the marks rests. -/
theorem Report.sizeOf_inner {r u : Report} (h : u ∈ r.inner) : sizeOf u < sizeOf r := by
  obtain ⟨s, hs, hu⟩ := List.mem_flatMap.1 h
  obtain ⟨t, ht, hu⟩ := List.mem_flatMap.1 hu
  -- The size falls at each step: from the node to the step, to the trial, and to what is below.
  have hreport : sizeOf u < sizeOf t := by
    have := List.sizeOf_lt_of_mem hu
    rcases t with ⟨_, _, _, _, reports⟩
    simp only at this
    simp only [Trial.mk.sizeOf_spec]
    omega
  have htrial : sizeOf t < sizeOf s := by
    rcases s with ⟨_, lost, decisive⟩
    rcases List.mem_append.1 ht with ht | ht
    · have := List.sizeOf_lt_of_mem ht
      simp only at this
      simp only [Step.mk.sizeOf_spec, Trials.mk.sizeOf_spec]
      omega
    · obtain rfl : decisive = some t := Option.mem_toList.1 ht
      simp only [Step.mk.sizeOf_spec, Trials.mk.sizeOf_spec, Option.some.sizeOf_spec]
      omega
  have hstep : sizeOf s < sizeOf r := by
    have := List.sizeOf_lt_of_mem hs
    rcases r with ⟨_, _, steps, _, _, _⟩
    simp only at this
    simp only [Report.mk.sizeOf_spec]
    omega
  omega

/-- How a node was finished. -/
def closing (n : Node) : Result → Mark
  | .error p => .failed n.name p.kind
  | .ok _ => .succeeded n.name

/-- The marks of a node that was built: between its own ones stand those of the nodes below it. -/
def Report.marks (mode : String) (r : Report) : List Mark :=
  .started r.node.name mode ::
    (r.inner.attach.flatMap (fun u => u.1.marks mode) ++ [closing r.node r.result])
termination_by sizeOf r
decreasing_by exact Report.sizeOf_inner u.2

/-- The marks of nodes that were built one after the other. -/
def marksOf (mode : String) (rs : List Report) : List Mark :=
  rs.flatMap (Report.marks mode)

/-- The marks of a node: its beginning, those of the nodes below, and its end. -/
theorem Report.marks_eq (mode : String) (r : Report) :
    r.marks mode =
      .started r.node.name mode :: (marksOf mode r.inner ++ [closing r.node r.result]) := by
  rw [Report.marks, marksOf]
  simp

/-- The end of a node closes it, whether it has failed or succeeded. -/
theorem unclosed_closing (n : Node) (result : Result) (opened : List String) :
    unclosed (n.name :: opened) [closing n result] = some opened := by
  cases result <;> simp [closing]

theorem unclosed_marksOf_of {mode : String} {rs : List Report}
    (h : ∀ r ∈ rs, ∀ opened, unclosed opened (r.marks mode) = some opened)
    (opened : List String) : unclosed opened (marksOf mode rs) = some opened := by
  induction rs with
  | nil => rfl
  | cons r rs ih =>
    obtain ⟨hr, hrs⟩ := List.forall_mem_cons.1 h
    rw [marksOf, List.flatMap_cons, unclosed_append, hr, Option.bind_some]
    exact ih hrs

/-- A node that was built leaves none open. -/
theorem unclosed_marks (mode : String) (r : Report) (opened : List String) :
    unclosed opened (r.marks mode) = some opened := by
  induction r using Report.marks.induct generalizing opened with
  | case1 r ih =>
    have hinner := unclosed_marksOf_of fun u hu => ih ⟨u, hu⟩
    rw [Report.marks_eq, unclosed_started, unclosed_append, hinner, Option.bind_some,
      unclosed_closing]

/-- The marks of nodes one after the other leave nothing open. -/
theorem unclosed_marksOf (mode : String) (rs : List Report) (opened : List String) :
    unclosed opened (marksOf mode rs) = some opened :=
  unclosed_marksOf_of (fun r _ => unclosed_marks mode r) opened

/-! ### What runs tell of nodes -/

/-- From the first journal to the second, these marks are logged and nothing else of nodes. -/
def Logs (ms : List Mark) (j k : Journal) : Prop :=
  k.nodeRecords = j.nodeRecords ++ ms.map Mark.record

theorem Logs.nil (j : Journal) : Logs [] j j :=
  (List.append_nil _).symm

/-- What is logged first and what is logged then is logged altogether. -/
theorem Logs.append {ms ms' : List Mark} {i j k : Journal} (h : Logs ms j i) (h' : Logs ms' i k) :
    Logs (ms ++ ms') j k := by
  rw [Logs] at h h' ⊢
  rw [h', h, List.map_append, List.append_assoc]

theorem logs_mark (m : Mark) (j : Journal) :
    Logs [m] j { j with records := j.records ++ [m.record] } := by
  have hevent : m.record.event ∈ nodeEvents := by cases m <;> simp [Mark.record, nodeEvents]
  simp [Logs, Journal.nodeRecords, List.filter_append, hevent]

/-! ### Builds that are broken off -/

/-- The building of a node, begun in a journal, is broken off as `m` raises its payload: the node is
    `m` itself, or the building of a node right below it is broken off. On the path are the nodes on
    the way to `m`, outermost first, which are begun and not finished; some nodes may have been
    built before each of those that follow. -/
inductive BrokenOff (c : Context) (m : Node) (p : Payload) (k : Journal) :
    Node → Journal → List Node → List Mark → Prop
  | self {root? : Option Tree} {input : List (Value × Value)} {j : Journal} (rs : List Report)
    {ms : List Mark} :
    (nodeBuilder m c root? input).start j = (.error (.build p m.name), k) →
      ms = .started m.name c.mode.name ::
        (marksOf c.mode.name rs ++ [.failed m.name p.kind, .raised m.name p.kind]) →
      Logs ms j k → BrokenOff c m p k m j [] ms
  | through {n b : Node} {root? : Option Tree} {input : List (Value × Value)} {i j : Journal}
    {path : List Node} (rs : List Report) {ms : List Mark} :
    (nodeBuilder n c root? input).start j = (.error (.build p m.name), k) → b ∈ n.children →
      Logs (.started n.name c.mode.name :: marksOf c.mode.name rs) j i →
      BrokenOff c m p k b i path ms →
      BrokenOff c m p k n j (n :: path)
        (.started n.name c.mode.name :: (marksOf c.mode.name rs ++ ms))

namespace BrokenOff

variable {c : Context} {m n : Node} {p : Payload} {j k : Journal} {path : List Node}
  {ms : List Mark}

/-- What was logged of a build that was broken off are its marks. -/
theorem logs (h : BrokenOff c m p k n j path ms) : Logs ms j k := by
  induction h with
  | self rs _ _ hlogs => exact hlogs
  | through rs _ _ hlogs _ ih => exact hlogs.append ih

/-- The marks end with the failure of the node that raises, and its payload, raised. -/
theorem exists_before (h : BrokenOff c m p k n j path ms) :
    ∃ before, ms = before ++ [.failed m.name p.kind, .raised m.name p.kind] := by
  induction h with
  | self rs _ hms _ => exact ⟨.started m.name c.mode.name :: marksOf c.mode.name rs, hms⟩
  | @through n _ _ _ _ _ _ rs _ _ _ _ _ ih =>
    obtain ⟨before, rfl⟩ := ih
    exact ⟨.started n.name c.mode.name :: (marksOf c.mode.name rs ++ before), by simp⟩

/-- The nodes on the way stay open. -/
theorem unclosed_eq (h : BrokenOff c m p k n j path ms) (opened : List String) :
    unclosed opened ms = some ((path.map Node.name).reverse ++ opened) := by
  induction h generalizing opened with
  | self rs _ hms _ => simp [hms, unclosed_marksOf]
  | through rs _ _ _ _ ih => simp [unclosed_marksOf, ih]

end BrokenOff

/-- From one journal to the other, the building of the node is broken off by a payload that is
    raised for a node of the name. -/
def BreaksOff (mode : Mode) (n : Node) (p : Payload) (name : String) (j k : Journal) : Prop :=
  ∃ m path ms, m.raises = true ∧ m.name = name ∧ BrokenOff ⟨mode, true⟩ m p k n j path ms

/-! ### What runs show of the nodes below a node -/

variable {α β : Type}

/-- The run builds nodes that stand right below a node: where it answers, those that are known of
    the answer; where a payload is raised, some of them, and then one that is broken off. -/
structure Shows (mode : Mode) (n : Node) (x : Run α) (R : α → List Report → Prop) : Prop where
  answers {j : Journal} {a : α} {k : Journal} :
    x.start j = (.ok a, k) → ∃ rs, R a rs ∧ Logs (marksOf mode.name rs) j k
  breaks {j : Journal} {p : Payload} {name : String} {k : Journal} :
    x.start j = (.error (.build p name), k) →
      ∃ b ∈ n.children, ∃ rs i, Logs (marksOf mode.name rs) j i ∧ BreaksOff mode b p name i k

namespace Shows

variable {mode : Mode} {n : Node} {x : Run α} {R : α → List Report → Prop}

/-- A plain run builds no node. -/
theorem of_plain (hx : Run.Within .plain x) : Shows mode n x fun _ rs => rs = [] where
  answers {j a k} h := by
    have hsame := hx.nodeRecords_eq id j
    rw [h] at hsame
    refine ⟨[], rfl, ?_⟩
    rw [Logs, hsame]
    exact (List.append_nil _).symm
  breaks {j p name k} h :=
    absurd (congrArg Prod.fst h) ((hx.isLocal id).unraised j p name)

theorem pure {a : α} (h : R a []) : Shows mode n (Pure.pure a) R where
  answers {j _ _} hstart := by
    cases hstart
    exact ⟨[], h, .nil j⟩
  breaks hstart := by cases hstart

/-- The nodes that a run builds are those of its first part and then those of its second. -/
theorem bind {S : β → List Report → Prop} {f : α → Run β} (hx : Shows mode n x R)
    (hf : ∀ a rs, R a rs → Shows mode n (f a) fun b rs' => S b (rs ++ rs')) :
    Shows mode n (x >>= f) S where
  answers h := by
    obtain ⟨a, i, hstart, hrest⟩ := Run.start_bind_eq_ok.1 h
    obtain ⟨rs, ha, hlogs⟩ := hx.answers hstart
    obtain ⟨rs', hb, hlogs'⟩ := (hf a rs ha).answers hrest
    refine ⟨rs ++ rs', hb, ?_⟩
    rw [marksOf, List.flatMap_append]
    exact hlogs.append hlogs'
  breaks h := by
    rcases Run.start_bind_eq_error.1 h with hstart | ⟨a, i, hstart, hrest⟩
    · exact hx.breaks hstart
    · obtain ⟨rs, ha, hlogs⟩ := hx.answers hstart
      obtain ⟨b, hb, rs', l, hlogs', hbreaks⟩ := (hf a rs ha).breaks hrest
      refine ⟨b, hb, rs ++ rs', l, ?_, hbreaks⟩
      rw [marksOf, List.flatMap_append]
      exact hlogs.append hlogs'

/-- Nodes built one after the other are logged one after the other. -/
theorem mapM {f : α → Run Report} (hf : ∀ a, Shows mode n (f a) fun r rs => rs = [r])
    (as : List α) : Shows mode n (as.mapM f) fun us rs => rs = us := by
  induction as with
  | nil => exact .pure rfl
  | cons a as ih =>
    rw [List.mapM_cons]
    refine (hf a).bind ?_
    rintro r _ rfl
    refine ih.bind ?_
    rintro us _ rfl
    exact .pure (by simp)

end Shows

/-- The node is logged as it is built: where it is finished, with the nodes below it between its own
    marks; where it is broken off, with the nodes on the way left open. -/
structure Traced (mode : Mode) (n : Node) : Prop where
  answers {root? : Option Tree} {input : List (Value × Value)} {j : Journal} {r : Report}
    {k : Journal} :
    (nodeReport n ⟨mode, true⟩ root? input).start j = (.ok r, k) → Logs (r.marks mode.name) j k
  breaks {root? : Option Tree} {input : List (Value × Value)} {j : Journal} {p : Payload}
    {name : String} {k : Journal} :
    (nodeReport n ⟨mode, true⟩ root? input).start j = (.error (.build p name), k) →
      BreaksOff mode n p name j k

section Walk

variable {mode : Mode} {n : Node}

theorem Traced.shows {b : Node} (h : Traced mode b) (hb : b ∈ n.children) (root? : Option Tree)
    (input : List (Value × Value)) :
    Shows mode n (nodeReport b ⟨mode, true⟩ root? input) fun r rs => rs = [r] where
  answers hstart := ⟨_, rfl, by simpa [marksOf] using h.answers hstart⟩
  breaks hstart := ⟨b, hb, [], _, .nil _, h.breaks hstart⟩

/-- What stands below the field is logged as it is built. -/
def TracedBelow (mode : Mode) (f : Field) : Prop :=
  ∀ b, f.child.node? = some b → Traced mode b

variable {f : Field} {s : Scope}

/-- A value that passes its checks is worked on below, by one node or by one for each item. -/
theorem shows_process (hf : f ∈ n.fields) (hbelow : TracedBelow mode f)
    (hs : s.context = ⟨mode, true⟩) (v : Value) :
    Shows mode n (reportProcess n f (childReporter f.child) s v) fun q rs => rs = q.2 := by
  rw [reportProcess]
  refine (Shows.of_plain (asks_checked n f v).within).bind ?_
  rintro ⟨w, failures⟩ _ rfl
  dsimp only
  split
  · exact .pure rfl
  cases hc : f.child with
  | none => exact .pure rfl
  | single b =>
    have hb : f.child.node? = some b := by rw [hc]; rfl
    simp only [childReporter, reportSingle, hs]
    split
    · refine ((hbelow b hb).shows (Node.mem_children.2 ⟨f, hf, hb⟩) _ _).bind ?_
      rintro r _ rfl
      exact .pure rfl
    · exact .pure rfl
  | many b =>
    have hb : f.child.node? = some b := by rw [hc]; rfl
    simp only [childReporter, reportMany, hs]
    split
    · exact .pure rfl
    · refine (Shows.mapM (fun input =>
        (hbelow b hb).shows (Node.mem_children.2 ⟨f, hf, hb⟩) _ input) _).bind ?_
      rintro us _ rfl
      exact .pure (by simp)

/-- A field builds the nodes of its trial. -/
theorem shows_field (hf : f ∈ n.fields) (hbelow : TracedBelow mode f)
    (hs : s.context = ⟨mode, true⟩) (fills : Fills) :
    Shows mode n (fieldReporter n f s fills) fun q rs => rs = q.1.reports := by
  rw [fieldReporter_eq, reportField]
  refine (Shows.of_plain (.ofExcept (blocked?_unraised s f))).bind ?_
  rintro blocked _ rfl
  cases blocked with
  | some path => exact .pure rfl
  | none =>
    refine (Shows.of_plain (asks_fill s f.admits_plain fills).within).bind ?_
    rintro ⟨_ | v, fills⟩ _ rfl
    · exact .pure rfl
    · refine (shows_process hf hbelow hs v).bind ?_
      rintro ⟨o, reports⟩ _ rfl
      exact .pure (by simp)

/-- The candidates of a group build the nodes of all trials, also of those that lost. -/
theorem shows_candidates {fs : List Field} (hfs : ∀ f ∈ fs, f ∈ n.fields)
    (hbelow : ∀ f ∈ fs, TracedBelow mode f) (hs : s.context = ⟨mode, true⟩) (fills : Fills) :
    Shows mode n (reportCandidates s (fs.map (fieldReporter n)) fills)
      fun ts rs => rs = ts.reports := by
  induction fs generalizing fills with
  | nil => exact .pure rfl
  | cons f rest ih =>
    have hfirst := shows_field (s := s) (hfs f List.mem_cons_self) (hbelow f List.mem_cons_self) hs
      fills
    have ih := ih (fun g hg => hfs g (List.mem_cons_of_mem f hg)) fun g hg =>
      hbelow g (List.mem_cons_of_mem f hg)
    cases rest with
    | nil =>
      simp only [List.map_cons, List.map_nil, reportCandidates]
      refine hfirst.bind ?_
      rintro q _ rfl
      exact .pure (by simp [Trials.reports, Trials.all])
    | cons g rest =>
      simp only [List.map_cons, reportCandidates]
      refine hfirst.bind ?_
      rintro q _ rfl
      split
      · exact .pure (by simp [Trials.reports, Trials.all])
      · refine (ih q.2).bind ?_
        rintro ts _ rfl
        exact .pure (by simp [Trials.reports, Trials.all, Trials.cons])

/-- Entries evaluated one after the other build the nodes of their steps. -/
theorem shows_parts (hbelow : ∀ f ∈ n.fields, TracedBelow mode f) (root? : Option Tree)
    {es : List Schema.Entry} (hes : ∀ e ∈ es, e ∈ n.entries) (t : Tree) :
    Shows mode n (reportParts ⟨mode, true⟩ root? (es.map fun e => (e, reportEntry n e)) t)
      fun q rs => rs = q.1.flatMap fun s => s.trials.reports := by
  induction es generalizing t with
  | nil => exact .pure rfl
  | cons e rest ih =>
    have hfields : ∀ f ∈ e.fields, f ∈ n.fields := fun f hf =>
      Node.mem_fields (hes e List.mem_cons_self) hf
    simp only [List.map_cons, reportParts, reportEntry_eq]
    refine (shows_candidates hfields (fun f hf => hbelow f (hfields f hf)) rfl []).bind ?_
    rintro ts _ rfl
    simp only [reportEntry_eq] at ih
    refine (ih (fun e' he' => hes e' (List.mem_cons_of_mem e he')) _).bind ?_
    rintro ⟨steps, u⟩ _ rfl
    exact .pure (by simp)

/-- A node builds the nodes of its report below it, and none if it is refused. -/
theorem shows_node (hbelow : ∀ f ∈ n.fields, TracedBelow mode f) (root? : Option Tree) (t : Tree) :
    Shows mode n (reportNode n (n.entries.map fun e => (e, reportEntry n e)) ⟨mode, true⟩ root? t)
      fun r rs => r.node = n ∧ rs = r.inner := by
  rw [reportNode]
  cases refusal? n mode t with
  | some p => exact .pure ⟨rfl, rfl⟩
  | none =>
    dsimp only
    rw [arrange_reportParts]
    refine (shows_parts hbelow root? (fun e he => Node.mem_evaluationOrder.1 he) t).bind ?_
    rintro ⟨steps, u⟩ _ rfl
    refine (Shows.of_plain (.mapM (fun e => (asks_rejections n _ _ e).within) n.entries)).bind ?_
    rintro rejected _ rfl
    refine (Shows.of_plain (asks_settle n _ _).within).bind ?_
    rintro result _ rfl
    exact .pure (by simp [Report.inner])

end Walk

/-! ### Nodes -/

section Node

variable {mode : Mode} {n : Node} {j k : Journal}

/-- What is traced is one mark. -/
theorem logs_trace {m : Mark}
    (h : (trace ⟨mode, true⟩ m.record.event m.record.details).start j = (.ok (), k)) :
    Logs [m] j k := by
  cases h
  exact logs_mark m j

/-- A node that is not broken off is logged as finished. -/
theorem logs_closing {result : Result}
    (h : (announce n ⟨mode, true⟩ result).start j = (.ok (), k)) :
    Logs [closing n result] j k := by
  cases result with
  | ok v => exact logs_trace (m := .succeeded n.name) h
  | error p =>
    rw [announce, Run.start_bind_eq_ok] at h
    obtain ⟨_, i, hfailed, hrest⟩ := h
    split at hrest
    · simp only [raisePayload, Run.start_bind_eq_ok, Run.start_throw] at hrest
      obtain ⟨_, _, -, heq⟩ := hrest
      cases heq
    · cases hrest
      exact logs_trace (m := .failed n.name p.kind) hfailed

/-- The payload that is raised once a node is logged as failed is that of the node. -/
theorem logs_raised {result : Result} {p : Payload} {name : String}
    (h : (announce n ⟨mode, true⟩ result).start j = (.error (.build p name), k)) :
    n.raises = true ∧ n.name = name ∧ Logs [.failed n.name p.kind, .raised n.name p.kind] j k := by
  cases result with
  | ok v => cases h
  | error q =>
    rw [announce, Run.start_bind_eq_error] at h
    rcases h with h | ⟨_, i, hfailed, hrest⟩
    · cases h
    · split at hrest
      · next hraises =>
        cases hrest
        have hfailed := logs_trace (m := .failed n.name p.kind) hfailed
        exact ⟨hraises, rfl, hfailed.append (logs_mark (.raised n.name p.kind) i)⟩
      · cases hrest

theorem logs_of_finished (hbelow : ∀ f ∈ n.fields, TracedBelow mode f) {root? : Option Tree}
    {input : List (Value × Value)} {r : Report}
    (h : (nodeReport n ⟨mode, true⟩ root? input).start j = (.ok r, k)) :
    Logs (r.marks mode.name) j k := by
  simp only [nodeReport_eq, reportWith, Run.start_bind_eq_ok, Run.start_ofExcept_eq_ok,
    Run.start_pure] at h
  obtain ⟨t, _, ⟨-, rfl⟩, _, i, hstarted, r', l, hr, _, _, hannounce, heq⟩ := h
  cases heq
  obtain ⟨_, ⟨hn, rfl⟩, hlogs⟩ := (shows_node hbelow root? t).answers hr
  have hstarted := logs_trace (m := .started n.name mode.name) hstarted
  rw [Report.marks_eq, hn]
  exact hstarted.append (hlogs.append (logs_closing hannounce))

theorem breaksOff_of_raised (hbelow : ∀ f ∈ n.fields, TracedBelow mode f) {root? : Option Tree}
    {input : List (Value × Value)} {p : Payload} {name : String}
    (h : (nodeReport n ⟨mode, true⟩ root? input).start j = (.error (.build p name), k)) :
    BreaksOff mode n p name j k := by
  have hbuild : (nodeBuilder n ⟨mode, true⟩ root? input).start j = (.error (.build p name), k) := by
    rwa [nodeBuilder_eq, Run.start_map_eq_error]
  simp only [nodeReport_eq, reportWith] at h
  -- Neither the keys of the input nor the first mark raise a payload.
  rcases Run.start_bind_eq_error.1 h with hread | ⟨t, _, hread, h⟩
  · rw [Run.start_ofExcept] at hread
    exact absurd (congrArg Prod.fst hread) (Tree.read_unraised input p name)
  obtain ⟨-, rfl⟩ := Run.start_ofExcept_eq_ok.1 hread
  rcases Run.start_bind_eq_error.1 h with hstarted | ⟨_, i, hstarted, h⟩
  · cases hstarted
  have hstarted := logs_trace (m := .started n.name mode.name) hstarted
  rcases Run.start_bind_eq_error.1 h with hr | ⟨r, l, hr, h⟩
  · -- The payload is raised further below.
    obtain ⟨b, hb, rs, i', hlogs, m, path, ms, hraises, rfl, hbroken⟩ :=
      (shows_node hbelow root? t).breaks hr
    exact ⟨m, n :: path, _, hraises, rfl, .through rs hbuild hb (hstarted.append hlogs) hbroken⟩
  · rcases Run.start_bind_eq_error.1 h with hannounce | ⟨_, _, -, h⟩
    · -- The node itself raises its payload.
      obtain ⟨_, -, hlogs⟩ := (shows_node hbelow root? t).answers hr
      obtain ⟨hraises, rfl, hraised⟩ := logs_raised hannounce
      exact ⟨n, [], _, hraises, rfl,
        .self _ hbuild rfl (hstarted.append (hlogs.append hraised))⟩
    · cases h

end Node

theorem traced (mode : Mode) (n : Node) : Traced mode n := by
  induction n using Node.below_induction with
  | h n ih => exact ⟨logs_of_finished ih, breaksOff_of_raised ih⟩

/-- What a traced build of a map logs of nodes. Where it answers, these are the marks of the node
    and of all that were built below it, nested as these are, and none is left open. Where a payload
    is raised, the last marks are that the node that raises it has failed, and that the payload is
    raised; the nodes around this node are those that are left open. -/
theorem build_traced (n : Node) (mode : Mode) (input : List (Value × Value)) (j : Journal) :
    (∀ result tree k, (build n ⟨mode, true⟩ (.map input)).start j = (.ok (result, tree), k) →
      ∃ r, (nodeReport n ⟨mode, true⟩ none input).start j = (.ok r, k) ∧ r.result = result ∧
        k.nodeRecords = j.nodeRecords ++ (r.marks mode.name).map Mark.record ∧
        unclosed [] (r.marks mode.name) = some []) ∧
    ∀ p name k, (build n ⟨mode, true⟩ (.map input)).start j = (.error (.build p name), k) →
      ∃ m path ms, m.raises = true ∧ m.name = name ∧
        BrokenOff ⟨mode, true⟩ m p k n j path ms ∧
        k.nodeRecords = j.nodeRecords ++ ms.map Mark.record ∧
        (∃ before, ms = before ++ [.failed m.name p.kind, .raised m.name p.kind]) ∧
        unclosed [] ms = some (path.map Node.name).reverse := by
  constructor
  · intro result tree k h
    obtain ⟨r, hr, hresult, -⟩ := exists_reported_of_build h
    exact ⟨r, hr, hresult, (traced mode n).answers hr, unclosed_marks mode.name r []⟩
  · intro p name k h
    have hreport :
        (nodeReport n ⟨mode, true⟩ none input).start j = (.error (.build p name), k) := by
      rcases Run.start_bind_eq_error.1 h with h | ⟨_, _, -, h⟩
      · rwa [nodeBuilder_eq, Run.start_map_eq_error] at h
      · cases h
    obtain ⟨m, path, ms, hraises, hname, hbroken⟩ := (traced mode n).breaks hreport
    refine ⟨m, path, ms, hraises, hname, hbroken, hbroken.logs, hbroken.exists_before, ?_⟩
    rw [hbroken.unclosed_eq, List.append_nil]

/-- A stop of a trip: it has to have a city. A failure is raised. -/
def stop : Node :=
  { plainNode "Stop" [.field { plainField "city" with enforce := some true }] with raises := true }

/-- One who gives lodging: the street is needed. -/
def host : Node :=
  plainNode "Host" [.field { plainField "street" with enforce := some true }]

/-- Where one stays: with a host, or anywhere. -/
def lodging : Group :=
  ⟨"lodging", [{ plainField "lodging" with child := .single host }, plainField "lodging"], none⟩

/-- A trip, with a lodging and stops. -/
def trip : Node :=
  plainNode "Trip" [.group lodging, .field { plainField "stops" with child := .many stop }]

/-- A trip with a host who has no street, to Oslo and to these further stops. -/
def tripTo (further : List Value) : List (Value × Value) :=
  [(.text "lodging", .map []),
   (.text "stops", .list (.map [(.text "city", .text "Oslo")] :: further))]

theorem trip_traced :
    (∃ result tree k, ∃ r : Report,
      (build trip ⟨.create, true⟩ (.map (tripTo []))).start .empty = (.ok (result, tree), k) ∧
      r.result = result ∧ k.nodeRecords = (r.marks "CREATE").map Mark.record ∧
      unclosed [] (r.marks "CREATE") = some []) ∧
    ∃ m k path ms,
      (build trip ⟨.create, true⟩ (.map (tripTo [.map []]))).start .empty =
        (.error (.build (.required ["city"]) m.name), k) ∧
      BrokenOff ⟨.create, true⟩ m (.required ["city"]) k trip .empty path ms ∧
      k.nodeRecords = ms.map Mark.record ∧
      unclosed [] ms = some (path.map Node.name).reverse := by
  constructor
  · obtain ⟨⟨result, tree⟩, k, h⟩ := Run.exists_of_isOk
      (show ((build trip ⟨.create, true⟩ (.map (tripTo []))).start .empty).1.isOk = true by
        decide +kernel)
    obtain ⟨r, -, hresult, hlogs, hclosed⟩ :=
      (build_traced trip .create (tripTo []) .empty).1 result tree k h
    exact ⟨result, tree, k, r, h, hresult, hlogs, hclosed⟩
  · have h : (build trip ⟨.create, true⟩ (.map (tripTo [.map []]))).start .empty =
        (.error (.build (.required ["city"]) "Stop"), _) := rfl
    obtain ⟨m, path, ms, -, hname, hbroken, hlogs, -, hopen⟩ :=
      (build_traced trip .create (tripTo [.map []]) .empty).2 _ _ _ h
    exact ⟨m, _, path, ms, by rw [hname, h], hbroken, hlogs, hopen⟩

/-- The host loses, and the first stop is finished before the second one breaks off the trip. -/
example :
    ((build trip ⟨.create, true⟩ (.map (tripTo [.map []]))).start .empty).2.nodeRecords =
      [.started "Trip" "CREATE", .started "Host" "CREATE", .failed "Host" "required_fields",
        .started "Stop" "CREATE", .succeeded "Stop", .started "Stop" "CREATE",
        .failed "Stop" "required_fields", .raised "Stop" "required_fields"].map Mark.record := by
  rfl

end Intake.Build
