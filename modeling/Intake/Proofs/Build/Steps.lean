import Intake.Proofs.Build.Report
import Intake.Proofs.Tree

/-!
# The steps of a build

What a report says about a build that answered. A report comes from the input of its node
(`Reported`); each of its steps was taken at a tree that holds the resolved values of the entries
before it and the values sent for the others (`Step.Taken`); each trial of a step evaluated a field
of the entry there (`mem_trials`), and came out in one of three ways (`Tried`); the reports below it
are those of the node below its field, built against the same root (`Tried.reported`).
-/

namespace Intake.Build

open Intake.Schema Intake.Failure

/-- The report is that of a build of the node that answered. -/
def Reported (n : Node) (c : Context) (root? : Option Tree) (input : List (Value × Value))
    (r : Report) : Prop :=
  ∃ j k, (nodeReport n c root? input).start j = (.ok r, k)

/-- A run of a build that answers is a run that reports. -/
theorem exists_reported {n : Node} {c : Context} {root? : Option Tree}
    {input : List (Value × Value)} {j k : Journal} {result : Result} {tree : Tree}
    (h : (nodeBuilder n c root? input).start j = (.ok (result, tree), k)) :
    ∃ r, (nodeReport n c root? input).start j = (.ok r, k) ∧ r.result = result ∧ r.tree = tree := by
  rw [nodeBuilder_eq n c root? input, Run.start_map_eq_ok] at h
  obtain ⟨r, hr, hsummary⟩ := h
  cases hsummary
  exact ⟨r, hr, rfl, rfl⟩

/-- A build of a map that answers is a run that reports on the root. -/
theorem exists_reported_of_build {n : Node} {c : Context} {input : List (Value × Value)}
    {j k : Journal} {result : Result} {tree : Option Tree}
    (h : (build n c (.map input)).start j = (.ok (result, tree), k)) :
    ∃ r, (nodeReport n c none input).start j = (.ok r, k) ∧ r.result = result ∧
      some r.tree = tree := by
  simp only [build, Run.start_bind_eq_ok, Run.start_pure] at h
  obtain ⟨⟨result, tree⟩, _, hbuild, heq⟩ := h
  cases heq
  obtain ⟨r, hrun, hresult, htree⟩ := exists_reported hbuild
  exact ⟨r, hrun, hresult, congrArg some htree⟩

/-- Anything but a map is a failure of type. -/
theorem result_of_not_map {n : Node} {c : Context} {input : Value} {j k : Journal}
    {result : Result} {tree : Option Tree} (hinput : ∀ es, input ≠ .map es)
    (h : (build n c input).start j = (.ok (result, tree), k)) :
    result =
      .error (.bad [.field n.name "type" ("Expected map, got " ++ input.typeName)]) := by
  unfold build at h
  split at h
  · exact absurd rfl (hinput _)
  · dsimp only at h
    split at h
    · -- The failure is raised.
      simp only [raisePayload, Run.start_bind_eq_ok, Run.start_throw] at h
      obtain ⟨_, _, -, heq⟩ := h
      cases heq
    · cases h
      rfl

/-- What a build accepts is a map, and the run reports on the root. -/
theorem exists_reported_of_accepted {n : Node} {c : Context} {input v : Value}
    {tree : Option Tree} {j k : Journal}
    (h : (build n c input).start j = (.ok (.ok v, tree), k)) :
    ∃ es r, input = .map es ∧ (nodeReport n c none es).start j = (.ok r, k) ∧ r.result = .ok v ∧
      some r.tree = tree := by
  by_cases hmap : ∃ es, input = .map es
  · obtain ⟨es, rfl⟩ := hmap
    obtain ⟨r, hrun, hresult, htree⟩ := exists_reported_of_build h
    exact ⟨es, r, rfl, hrun, hresult, htree⟩
  · cases result_of_not_map (not_exists.1 hmap) h

/-! ### The course of a node -/

/-- The entries of a node in the order of evaluation, with their trials. -/
theorem arrange_reportParts (n : Node) (atRoot : Bool) (es : List Schema.Entry) :
    Slot.arrange (fun p : ReportPart => p.1.slot atRoot) (es.map fun e => (e, reportEntry n e)) =
      (evaluationOrder atRoot es).map fun e => (e, reportEntry n e) :=
  Slot.arrange_map _ _ _

/-- What a report on a node that was not refused consists of. -/
structure Report.Evaluated (n : Node) (c : Context) (root? : Option Tree) (r : Report) : Prop where
  steps : ∃ j k, (reportParts c root?
    ((evaluationOrder root?.isNone n.entries).map fun e => (e, reportEntry n e)) r.input).start j =
      (.ok (r.steps, r.tree), k)
  rejected : ∃ j k, (n.entries.mapM
    (rejectionsOf n (scopeOf c root? r.tree) (Step.outcomes r.steps))).start j = (.ok r.rejected, k)
  result : ∃ j k, (settle n (Step.outcomes r.steps) r.rejected).start j = (.ok r.result, k)

/-- A report starts from the tree of the input. Its node was refused at once, or evaluated. -/
theorem Reported.cases {n : Node} {c : Context} {root? : Option Tree}
    {input : List (Value × Value)} {r : Report} (h : Reported n c root? input r) :
    r.node = n ∧ Tree.read input = .ok r.input ∧
      ((∃ p, refusal? n c.mode r.input = some p ∧ r = ⟨n, r.input, [], [], r.input, .error p⟩) ∨
        refusal? n c.mode r.input = none ∧ r.Evaluated n c root?) := by
  obtain ⟨j, k, h⟩ := h
  simp only [nodeReport_eq, reportWith, Run.start_bind_eq_ok, Run.start_ofExcept_eq_ok,
    Run.start_pure] at h
  obtain ⟨t, _, ⟨ht, -⟩, _, _, -, r', i, hr, _, _, -, heq⟩ := h
  cases heq
  rw [reportNode] at hr
  cases hrefusal : refusal? n c.mode t with
  | some p =>
    rw [hrefusal] at hr
    cases hr
    exact ⟨rfl, ht, .inl ⟨p, hrefusal, rfl⟩⟩
  | none =>
    rw [hrefusal] at hr
    simp only [arrange_reportParts, Run.start_bind_eq_ok, Run.start_pure] at hr
    obtain ⟨⟨steps, tree⟩, _, hsteps, rejected, _, hrejected, result, _, hresult, heq⟩ := hr
    cases heq
    exact ⟨rfl, ht, .inr ⟨hrefusal, ⟨_, _, hsteps⟩, ⟨_, _, hrejected⟩, ⟨_, _, hresult⟩⟩⟩

theorem Reported.node {n : Node} {c : Context} {root? : Option Tree} {input : List (Value × Value)}
    {r : Report} (h : Reported n c root? input r) : r.node = n :=
  h.cases.1

/-- The step was taken while entries were evaluated from the tree `t` to the tree `u`: at the tree
    `here`, behind the entries `pre` and before the entries `post`. -/
structure Step.Taken (n : Node) (c : Context) (root? : Option Tree) (es : List Schema.Entry)
    (t u : Tree) (s : Step) (pre post : List Schema.Entry) (here : Tree) : Prop where
  split : es = pre ++ s.entry :: post
  trials : ∃ j k, (reportEntry n s.entry (scopeOf c root? here)).start j = (.ok s.trials, k)
  unresolved : ∀ x, x ∉ pre.map Entry.name → here.get? x = t.get? x
  resolved : ∀ x, x ≠ s.entry.name → x ∉ post.map Entry.name → u.get? x = here.get? x
  own : s.entry.name ∉ post.map Entry.name →
    u.get? s.entry.name = (s.outcome.resolve s.entry.name here).get? s.entry.name

theorem Outcome.get?_resolve_of_ne {o : Outcome} {name x : String} {t : Tree} (h : x ≠ name) :
    (o.resolve name t).get? x = t.get? x := by
  rw [Outcome.resolve]
  cases o.resolved with
  | none => rfl
  | some r => exact Tree.get?_put_of_ne t r.tree h

section Parts

variable {n : Node} {c : Context} {root? : Option Tree} {es : List Schema.Entry} {t u : Tree}
  {steps : List Step} {j k : Journal}

/-- What each of the entries keeps when it is resolved, all of them keep one after the other. -/
theorem reportParts_keeps {P : Tree → Prop}
    (hkeeps : ∀ e ∈ es, ∀ (o : Outcome) t, P t → P (o.resolve e.name t))
    (h : (reportParts c root? (es.map fun e => (e, reportEntry n e)) t).start j =
      (.ok (steps, u), k)) (ht : P t) : P u := by
  induction es generalizing t j steps with
  | nil =>
    cases h
    exact ht
  | cons e es ih =>
    simp only [List.map_cons, reportParts, Run.start_bind_eq_ok, Run.start_pure] at h
    obtain ⟨trials, _, -, ⟨rest, u'⟩, _, hrest, heq⟩ := h
    cases heq
    rw [List.forall_mem_cons] at hkeeps
    exact ih hkeeps.2 hrest (hkeeps.1 _ t ht)

/-- Entries evaluated one after the other change the tree under their names only. -/
theorem reportParts_frame
    (h : (reportParts c root? (es.map fun e => (e, reportEntry n e)) t).start j =
      (.ok (steps, u), k)) {x : String} (hx : x ∉ es.map Entry.name) : u.get? x = t.get? x := by
  refine reportParts_keeps (P := fun t' => t'.get? x = t.get? x) (fun e he o t' ht' => ?_) h rfl
  have hne : x ≠ e.name := fun heq => hx (heq ▸ List.mem_map_of_mem he)
  rw [Outcome.get?_resolve_of_ne hne, ht']

/-- Entries evaluated one after the other leave distinct names distinct. -/
theorem reportParts_nodup
    (h : (reportParts c root? (es.map fun e => (e, reportEntry n e)) t).start j =
      (.ok (steps, u), k)) (ht : t.names.Nodup) : u.names.Nodup := by
  refine reportParts_keeps (P := fun t => t.names.Nodup) (fun e _ o t ht => ?_) h ht
  rw [Outcome.resolve]
  split
  · exact Tree.nodup_put ht _ _
  · exact ht

/-- The steps of entries evaluated one after the other are those of the entries, in order. -/
theorem reportParts_steps
    (h : (reportParts c root? (es.map fun e => (e, reportEntry n e)) t).start j =
      (.ok (steps, u), k)) :
    steps.map Step.entry = es ∧
      ∀ s ∈ steps, ∃ pre post here, s.Taken n c root? es t u pre post here := by
  induction es generalizing t j steps with
  | nil =>
    cases h
    exact ⟨rfl, fun _ hs => absurd hs List.not_mem_nil⟩
  | cons e es ih =>
    simp only [List.map_cons, reportParts, Run.start_bind_eq_ok, Run.start_pure] at h
    obtain ⟨trials, _, htrials, ⟨rest, u'⟩, _, hrest, heq⟩ := h
    cases heq
    obtain ⟨hentries, htaken⟩ := ih hrest
    refine ⟨by rw [List.map_cons, hentries], fun s hs => ?_⟩
    rcases List.mem_cons.1 hs with rfl | hs
    · -- The first entry is evaluated at the tree that the entries begin with. The later ones leave
      -- its name alone.
      exact ⟨[], es, t, rfl, ⟨_, _, htrials⟩, fun _ _ => rfl,
        fun x hne hx => (reportParts_frame hrest hx).trans (Outcome.get?_resolve_of_ne hne),
        fun hx => reportParts_frame hrest hx⟩
    · -- A later entry: by induction, from the tree that the first one resolves to.
      obtain ⟨pre, post, here, hs⟩ := htaken s hs
      refine ⟨e :: pre, post, here, by rw [hs.split, List.cons_append], hs.trials, ?_, hs.resolved,
        hs.own⟩
      intro x hx
      rw [List.map_cons, List.mem_cons, not_or] at hx
      rw [hs.unresolved x hx.2, Outcome.get?_resolve_of_ne hx.1]

/-- Entries are evaluated as their fields are tried, and the outcomes are those of the steps. -/
theorem evaluateParts_eq_ok {os : Outcomes} :
    (evaluateParts c root? (es.map fun e => (e, entryEvaluator n e)) t).start j =
        (.ok (os, u), k) ↔
      ∃ steps, (reportParts c root? (es.map fun e => (e, reportEntry n e)) t).start j =
        (.ok (steps, u), k) ∧ Step.outcomes steps = os := by
  have hfollows : List.Forall₂ PartFollows (es.map fun e => (e, reportEntry n e))
      (es.map fun e => (e, entryEvaluator n e)) := by
    rw [List.forall₂_map_left_iff, List.forall₂_map_right_iff, List.forall₂_same]
    exact fun e _ => ⟨rfl, entryEvaluator_eq_outcome n e⟩
  rw [reportParts_outcomes c root? hfollows, Run.start_map_eq_ok]
  constructor
  · rintro ⟨⟨steps, _⟩, h, heq⟩
    cases heq
    exact ⟨steps, h, rfl⟩
  · rintro ⟨steps, h, rfl⟩
    exact ⟨(steps, u), h, rfl⟩

end Parts

/-! ### Fills -/

/-- What a field is filled with when the value it has by itself is given: this value, unless there
    is a generator and the value is missing or empty. -/
def Keeps (auto : Option Auto) (own v : Option Value) : Prop :=
  (auto = none → v = own) ∧ ∀ w, own = some w → w.isEmpty = false → v = some w

theorem filled_given {s : Scope} {f : Field} {v : Option Value} {j k : Journal}
    (h : (filled s f).start j = (.ok v, k)) : ∃ own, given s f = .ok own ∧ Keeps f.auto own v := by
  rw [filled] at h
  rw [Run.start_bind_eq_ok] at h
  obtain ⟨own, i, hown, h⟩ := h
  refine ⟨own, (Run.start_ofExcept_eq_ok.1 hown).1, ?_⟩
  cases hauto : f.auto with
  | none =>
    rw [hauto] at h
    cases h
    exact ⟨fun _ => rfl, fun w hw _ => hw⟩
  | some auto =>
    rw [hauto] at h
    dsimp only at h
    split at h
    · -- The value is there and not empty, so that the generator is not asked.
      cases h
      exact ⟨fun _ => rfl, fun w hw _ => hw⟩
    · next hempty =>
      -- A generated value replaces nothing but an empty one.
      refine ⟨by simp, fun w hw hne => absurd ?_ hempty⟩
      simp [hw, hne]

/-- The fills were made for fields of one name in one scope. -/
def Fills.Made (s : Scope) (name : String) (fills : Fills) : Prop :=
  ∀ p ∈ fills, ∃ f : Field, f.name = name ∧ p.1 = FillKey.ofField f ∧
    ∃ j k, (filled s f).start j = (.ok p.2, k)

theorem FillKey.sameAuto_none {a b : Option Auto} (h : FillKey.sameAuto a b = true) :
    a = none ↔ b = none := by
  cases a <;> cases b <;> simp_all [FillKey.sameAuto]

theorem given_congr {s : Scope} {f g : Field} (hname : g.name = f.name)
    (hsource : g.source = f.source) : given s g = given s f := by
  rw [given, given, Field.copied?, Field.copied?]
  rw [hname, hsource]

/-- A field is filled with the value it has by itself also where an earlier fill is taken, because
    this was made for the same name and the same source. -/
theorem fill_given {s : Scope} {f : Field} {fills fills' : Fills} {v : Option Value}
    {j k : Journal} (hmade : fills.Made s f.name)
    (h : (fill s f fills).start j = (.ok (v, fills'), k)) :
    fills'.Made s f.name ∧ ∃ own, given s f = .ok own ∧ Keeps f.auto own v := by
  unfold fill at h
  dsimp only at h
  split at h
  · next key w hfind =>
    cases h
    refine ⟨hmade, ?_⟩
    -- The earlier fill was made for a field of the same name, source and generator.
    obtain ⟨g, hname, rfl, _, _, hg⟩ := hmade _ (List.mem_of_find?_eq_some hfind)
    have hkey : (FillKey.ofField g).equals (FillKey.ofField f) = true := by
      simpa using List.find?_some hfind
    rw [FillKey.equals] at hkey
    rw [Bool.and_eq_true, beq_iff_eq] at hkey
    obtain ⟨own, hown, hauto, hfull⟩ := filled_given hg
    exact ⟨own, given_congr hname hkey.1 ▸ hown,
      fun hf => hauto ((FillKey.sameAuto_none hkey.2).2 hf), hfull⟩
  · simp only [Run.start_bind_eq_ok, Run.start_pure] at h
    obtain ⟨w, _, hw, heq⟩ := h
    cases heq
    refine ⟨fun p hp => ?_, filled_given hw⟩
    rcases List.mem_append.1 hp with hp | hp
    · exact hmade p hp
    · obtain rfl := List.mem_singleton.1 hp
      exact ⟨f, rfl, rfl, _, _, hw⟩

/-! ### The trials of an entry -/

/-- A candidate without failures decides, and so does the last one. Behind any other candidate the
    rest are tried, with the fills it made. -/
theorem reportCandidates_cons_eq_ok {s : Scope} {report : FieldReporter}
    {reports : List FieldReporter} {fills : Fills} {ts : Trials} {j k : Journal} :
    (reportCandidates s (report :: reports) fills).start j = (.ok ts, k) ↔
      ∃ t fills' i, (report s fills).start j = (.ok (t, fills'), i) ∧
        ((t.outcome.isClean = true ∨ reports = []) ∧ ts = ⟨[], some t⟩ ∧ i = k ∨
          (t.outcome.isClean = false ∧ reports ≠ []) ∧
            ∃ us, (reportCandidates s reports fills').start i = (.ok us, k) ∧ ts = .cons t us) := by
  cases reports with
  | nil =>
    rw [reportCandidates, Run.start_bind_eq_ok]
    constructor
    · rintro ⟨⟨t, fills'⟩, i, hreport, heq⟩
      cases heq
      exact ⟨t, fills', _, hreport, .inl ⟨.inr rfl, rfl, rfl⟩⟩
    · rintro ⟨t, fills', i, hreport, ⟨-, rfl, rfl⟩ | ⟨⟨-, hne⟩, -⟩⟩
      · exact ⟨_, _, hreport, rfl⟩
      · exact absurd rfl hne
  | cons next reports =>
    simp only [reportCandidates, Run.start_bind_eq_ok]
    constructor
    · rintro ⟨⟨t, fills'⟩, i, hreport, h⟩
      refine ⟨t, fills', i, hreport, ?_⟩
      split at h
      · next hclean =>
        cases h
        exact .inl ⟨.inl hclean, rfl, rfl⟩
      · next hfails =>
        obtain ⟨us, _, hrest, heq⟩ := Run.start_bind_eq_ok.1 h
        cases heq
        exact .inr ⟨⟨Bool.eq_false_iff.2 hfails, List.cons_ne_nil next reports⟩, us, hrest, rfl⟩
    · rintro ⟨t, fills', i, hreport, ⟨hlast, rfl, rfl⟩ | ⟨⟨hfails, -⟩, us, hrest, rfl⟩⟩
      · have hclean := hlast.resolve_right (List.cons_ne_nil next reports)
        refine ⟨_, _, hreport, ?_⟩
        simp only [hclean, if_true, Run.start_pure]
      · refine ⟨_, _, hreport, ?_⟩
        simp only [hfails, Bool.false_eq_true, if_false]
        exact Run.start_bind_eq_ok.2 ⟨_, _, hrest, rfl⟩

/-- The trials of candidates are trials of their evaluations, with fills as these keep them. -/
theorem mem_reportCandidates {P : Fills → Prop} {s : Scope} {reports : List FieldReporter}
    (hkeep : ∀ report ∈ reports, ∀ fills t fills' i l, P fills →
      (report s fills).start i = (.ok (t, fills'), l) → P fills')
    {fills : Fills} (hfills : P fills) {ts : Trials} {j k : Journal}
    (h : (reportCandidates s reports fills).start j = (.ok ts, k)) :
    ∀ t ∈ ts.all, ∃ report ∈ reports, ∃ fills, P fills ∧ ∃ fills' i l,
      (report s fills).start i = (.ok (t, fills'), l) := by
  induction reports generalizing fills j ts with
  | nil =>
    cases h
    exact fun t ht => absurd ht List.not_mem_nil
  | cons report reports ih =>
    obtain ⟨t, fills', i, hreport, hcases⟩ := reportCandidates_cons_eq_ok.1 h
    have hfirst : ∃ report' ∈ report :: reports, ∃ fills, P fills ∧ ∃ fills' i l,
        (report' s fills).start i = (.ok (t, fills'), l) :=
      ⟨report, List.mem_cons_self, _, hfills, _, _, _, hreport⟩
    obtain ⟨-, rfl, rfl⟩ | ⟨-, us, hrest, rfl⟩ := hcases
    · -- The candidate decides.
      intro t' ht'
      obtain rfl : t' = t := by simpa [Trials.all] using ht'
      exact hfirst
    · -- It leaves the others to be tried, with the fills it made.
      have hfills' := hkeep report List.mem_cons_self _ _ _ _ _ hfills hreport
      intro t' ht'
      rcases List.mem_cons.1 (show t' ∈ t :: us.all from ht') with rfl | ht'
      · exact hfirst
      · obtain ⟨report', hmem, h'⟩ :=
          ih (fun r hr => hkeep r (List.mem_cons_of_mem _ hr)) hfills' hrest t' ht'
        exact ⟨report', List.mem_cons_of_mem _ hmem, h'⟩

/-- How a field works on a value, to which outcome, and with the reports of which nodes: its rule or
    its validator rejects the value; nothing stands below the field; the value is of another type
    than the nodes below need; or these are built of it, against the root of the scope. -/
inductive Processed (n : Node) (f : Field) (s : Scope) (v : Value) : Outcome → List Report → Prop
  | rejected {w : Value} {es : List Failure.Entry} {j k : Journal} :
    (checked n f v).start j = (.ok (w, es), k) → es ≠ [] → Processed n f s v (.present f w es) []
  | plain {w : Value} {j k : Journal} :
    (checked n f v).start j = (.ok (w, []), k) → f.child = .none →
      Processed n f s v (.present f w []) []
  | mistyped {w : Value} {m : Node} {message : String} {j k : Journal} :
    (checked n f v).start j = (.ok (w, []), k) → f.child.node? = some m →
      Processed n f s v (.present f w [typeFailure f message]) []
  | single {w : Value} {m : Node} {input : List (Value × Value)} {u : Report} {j k : Journal} :
    (checked n f v).start j = (.ok (w, []), k) → f.child = .single m → w = .map input →
      Reported m s.context (some s.root) input u → Processed n f s v (.ofNode f w u.summary) [u]
  | many {w : Value} {m : Node} {maps : List (List (Value × Value))} {us : List Report}
      {j k : Journal} :
    (checked n f v).start j = (.ok (w, []), k) → f.child = .many m → mapsOf? w = some maps →
      List.Forall₂ (Reported m s.context (some s.root)) maps us →
      Processed n f s v (.ofItems f w (.ofResults f.name 0 (us.map Report.summary))) us

theorem processed_of_reportProcess {n : Node} {f : Field} {s : Scope} {v : Value} {o : Outcome}
    {rs : List Report} {j k : Journal}
    (h : (reportProcess n f (childReporter f.child) s v).start j = (.ok (o, rs), k)) :
    Processed n f s v o rs := by
  rw [reportProcess] at h
  rw [Run.start_bind_eq_ok] at h
  obtain ⟨⟨w, es⟩, _, hchecked, h⟩ := h
  cases es with
  | cons e es =>
    cases h
    exact .rejected hchecked (List.cons_ne_nil e es)
  | nil =>
    cases hc : f.child with
    | none =>
      rw [hc] at h
      cases h
      exact .plain hchecked hc
    | single m =>
      rw [hc] at h
      simp only [List.isEmpty_nil, Bool.not_true, Bool.false_eq_true, if_false, childReporter,
        reportSingle] at h
      split at h
      · simp only [Run.start_bind_eq_ok, Run.start_pure] at h
        obtain ⟨u, _, hu, heq⟩ := h
        cases heq
        exact .single hchecked hc rfl ⟨_, _, hu⟩
      · cases h
        exact .mistyped hchecked (by rw [hc]; rfl)
    | many m =>
      rw [hc] at h
      simp only [List.isEmpty_nil, Bool.not_true, Bool.false_eq_true, if_false, childReporter,
        reportMany] at h
      split at h
      · cases h
        exact .mistyped hchecked (by rw [hc]; rfl)
      · next maps hmaps =>
        simp only [Run.start_bind_eq_ok, Run.start_pure] at h
        obtain ⟨us, _, hus, heq⟩ := h
        cases heq
        exact .many hchecked hc hmaps (Run.forall₂_of_mapM hus)

/-- The outcome of a field behind a gate: it is passed over, and this is a failure if it was
    sent. -/
def Outcome.ofGate (s : Scope) (f : Field) (path : String) : Outcome :=
  .skipped (if (s.tree.sent? f.name).isSome then [.ofDependency f.name path] else [])

/-- How the trial of a field runs: behind a gate the field is passed over, else it is filled, and what
    it was filled with is worked on. -/
theorem reportField_runs {n : Node} {f : Field} {below : Option BelowReporter} {s : Scope}
    {fills fills' : Fills} {t : Trial} {j k : Journal}
    (h : (reportField n f below s fills).start j = (.ok (t, fills'), k)) :
    t.field = f ∧ t.scope = s ∧
      ((∃ path, blocked? s f = .ok (some path) ∧ t.filled = none ∧ t.outcome = .ofGate s f path ∧
          t.reports = [] ∧ fills' = fills) ∨
        blocked? s f = .ok none ∧
          (∃ i l, (fill s f fills).start i = (.ok (t.filled, fills'), l)) ∧
          ((t.filled = none ∧ t.outcome = .absent ∧ t.reports = []) ∨
            ∃ v, t.filled = some v ∧ ∃ i l,
              (reportProcess n f below s v).start i = (.ok (t.outcome, t.reports), l))) := by
  rw [reportField] at h
  rw [Run.start_bind_eq_ok] at h
  obtain ⟨blocked, i, hblocked, h⟩ := h
  obtain ⟨hgate, rfl⟩ := Run.start_ofExcept_eq_ok.1 hblocked
  cases blocked with
  | some path =>
    cases h
    exact ⟨rfl, rfl, .inl ⟨path, hgate, rfl, rfl, rfl, rfl⟩⟩
  | none =>
    rw [Run.start_bind_eq_ok] at h
    obtain ⟨⟨v?, fills''⟩, _, hfill, h⟩ := h
    cases v? with
    | none =>
      cases h
      exact ⟨rfl, rfl, .inr ⟨hgate, ⟨_, _, hfill⟩, .inl ⟨rfl, rfl, rfl⟩⟩⟩
    | some v =>
      simp only [Run.start_bind_eq_ok, Run.start_pure] at h
      obtain ⟨⟨o, rs⟩, _, hprocess, heq⟩ := h
      cases heq
      exact ⟨rfl, rfl, .inr ⟨hgate, ⟨_, _, hfill⟩, .inr ⟨v, rfl, _, _, hprocess⟩⟩⟩

/-- What the trial of a field is, which was passed over, or else filled and worked on. -/
theorem reportField_cases {n : Node} {f : Field} {s : Scope} {fills fills' : Fills} {t : Trial}
    {j k : Journal}
    (h : (reportField n f (childReporter f.child) s fills).start j = (.ok (t, fills'), k)) :
    t.field = f ∧ t.scope = s ∧
      ((∃ path, blocked? s f = .ok (some path) ∧ t.filled = none ∧ t.outcome = .ofGate s f path ∧
          t.reports = [] ∧ fills' = fills) ∨
        blocked? s f = .ok none ∧
          (∃ i l, (fill s f fills).start i = (.ok (t.filled, fills'), l)) ∧
          ((t.filled = none ∧ t.outcome = .absent ∧ t.reports = []) ∨
            ∃ v, t.filled = some v ∧ Processed n f s v t.outcome t.reports)) := by
  obtain ⟨hfield, hscope, hgated | ⟨hgate, hfill, hnone | ⟨v, hv, _, _, hprocess⟩⟩⟩ :=
    reportField_runs h
  · exact ⟨hfield, hscope, .inl hgated⟩
  · exact ⟨hfield, hscope, .inr ⟨hgate, hfill, .inl hnone⟩⟩
  · exact ⟨hfield, hscope, .inr ⟨hgate, hfill, .inr ⟨v, hv, processed_of_reportProcess hprocess⟩⟩⟩

/-- A trial of an entry evaluated one of its fields, with fills made for the entry. -/
theorem mem_trials {n : Node} {e : Schema.Entry} (hname : ∀ f ∈ e.fields, f.name = e.name)
    {s : Scope} {ts : Trials} {j k : Journal}
    (h : (reportEntry n e s).start j = (.ok ts, k)) :
    ∀ t ∈ ts.all, ∃ f ∈ e.fields, ∃ fills : Fills, fills.Made s e.name ∧ ∃ fills' i l,
      (reportField n f (childReporter f.child) s fills).start i = (.ok (t, fills'), l) := by
  have hkeep : ∀ report ∈ e.fields.map (fieldReporter n), ∀ fills t fills' i l,
      Fills.Made s e.name fills → (report s fills).start i = (.ok (t, fills'), l) →
        fills'.Made s e.name := by
    intro report hreport fills t fills' i l hmade hrun
    obtain ⟨f, hf, rfl⟩ := List.mem_map.1 hreport
    rw [fieldReporter_eq] at hrun
    -- Behind a gate nothing is filled; else what is filled is kept for the name of the entry.
    obtain ⟨-, -, ⟨_, -, -, -, -, rfl⟩ | ⟨-, ⟨_, _, hfill⟩, -⟩⟩ := reportField_cases hrun
    · exact hmade
    · rw [← hname f hf] at hmade ⊢
      exact (fill_given hmade hfill).1
  intro t ht
  rw [reportEntry_eq] at h
  have hnone : Fills.Made s e.name [] := fun p hp => absurd hp List.not_mem_nil
  obtain ⟨report, hreport, fills, hmade, fills', i, l, ht⟩ :=
    mem_reportCandidates hkeep hnone h t ht
  obtain ⟨f, hf, rfl⟩ := List.mem_map.1 hreport
  rw [fieldReporter_eq] at ht
  exact ⟨f, hf, fills, hmade, fills', i, l, ht⟩

/-! ### How a trial came out -/

theorem gated?_of_blocked? {s : Scope} {f : Field} {path : String}
    (h : blocked? s f = .ok (some path)) : f.gated? = some path := by
  rw [blocked?] at h
  split at h
  · cases h
  · next path' hpath =>
    cases hlookup : s.lookup path' with
    | error e =>
      rw [hlookup] at h
      cases h
    | ok found =>
      rw [hlookup] at h
      cases found with
      | none =>
        cases h
        exact hpath
      | some v => cases h

/-- How a field that was tried came to its outcome, and to the reports below: it was passed over for
    its gate, it had no value, or it was worked on with the value it had. -/
inductive Tried (n : Node) (f : Field) (s : Scope) : Outcome → List Report → Prop
  | gated {path : String} : f.gated? = some path → Tried n f s (.ofGate s f path) []
  | absent : Tried n f s .absent []
  | processed {v : Value} {o : Outcome} {rs : List Report} :
    Processed n f s v o rs → Tried n f s o rs

theorem tried_of_reportField {n : Node} {f : Field} {s : Scope} {fills fills' : Fills} {t : Trial}
    {j k : Journal}
    (h : (reportField n f (childReporter f.child) s fills).start j = (.ok (t, fills'), k)) :
    t.field = f ∧ t.scope = s ∧ Tried n f s t.outcome t.reports := by
  obtain ⟨hfield, hscope, ⟨_, hblocked, -, houtcome, hnil, -⟩ |
    ⟨-, -, ⟨-, houtcome, hnil⟩ | ⟨_, -, hprocessed⟩⟩⟩ := reportField_cases h
  · rw [houtcome, hnil]
    exact ⟨hfield, hscope, .gated (gated?_of_blocked? hblocked)⟩
  · rw [houtcome, hnil]
    exact ⟨hfield, hscope, .absent⟩
  · exact ⟨hfield, hscope, .processed hprocessed⟩

section Tried

variable {n : Node} {f : Field} {s : Scope} {v : Value} {o : Outcome} {rs : List Report}

theorem Processed.reported (h : Processed n f s v o rs) :
    ∀ r ∈ rs, ∃ m, f.child.node? = some m ∧
      ∃ input, Reported m s.context (some s.root) input r := by
  intro r hr
  cases h with
  | rejected | plain | mistyped => exact absurd hr List.not_mem_nil
  | @single w m input _ _ _ _ hm _ hu =>
    obtain rfl := List.mem_singleton.1 hr
    exact ⟨m, by rw [hm]; rfl, input, hu⟩
  | @many w m maps _ _ _ _ hm _ hus =>
    obtain ⟨input, -, hu⟩ := Run.exists_left hus r hr
    exact ⟨m, by rw [hm]; rfl, input, hu⟩

/-- The reports below a trial are those of the node below its field. -/
theorem Tried.reported (h : Tried n f s o rs) :
    ∀ r ∈ rs, ∃ m, f.child.node? = some m ∧
      ∃ input, Reported m s.context (some s.root) input r := by
  cases h with
  | gated | absent => exact fun r hr => absurd hr List.not_mem_nil
  | processed h => exact h.reported

theorem present_ofNode (f : Field) (v : Value) (p : Result × Tree) :
    (Outcome.ofNode f v p).resolved.isSome = true ∧ (Outcome.ofNode f v p).clauses = f.clauses := by
  obtain ⟨_ | _, _⟩ := p <;> exact ⟨rfl, rfl⟩

/-- A field that has a value is present, with its clauses. -/
theorem Processed.present (h : Processed n f s v o rs) :
    o.resolved.isSome = true ∧ o.clauses = f.clauses := by
  cases h with
  | rejected | plain | mistyped | many => exact ⟨rfl, rfl⟩
  | single => exact present_ofNode f _ _

/-- A field that is present was worked on. -/
theorem Tried.exists_processed (h : Tried n f s o rs) {w : Resolved} (hw : o.resolved = some w) :
    ∃ v, Processed n f s v o rs := by
  cases h with
  | gated | absent => cases hw
  | processed h => exact ⟨_, h⟩

/-- A node was built below a field that is present. -/
theorem Tried.present_of_reports (h : Tried n f s o rs) {r : Report} (hr : r ∈ rs) :
    ∃ w, o.resolved = some w := by
  cases h with
  | gated | absent => exact absurd hr List.not_mem_nil
  | processed h => exact Option.isSome_iff_exists.1 h.present.1

theorem Tried.clauses (h : Tried n f s o rs) : o.clauses = [] ∨ o.clauses = f.clauses := by
  cases h with
  | gated | absent => exact .inl rfl
  | processed h => exact .inr h.present.2

end Tried

/-- The steps of a report are those of the entries of its node. -/
theorem Reported.taken {n : Node} {c : Context} {root? : Option Tree}
    {input : List (Value × Value)} {r : Report} (h : Reported n c root? input r) :
    ∀ s ∈ r.steps, s.entry ∈ n.entries ∧ ∃ pre post here,
      s.Taken n c root? (evaluationOrder root?.isNone n.entries) r.input r.tree pre post here := by
  intro s hs
  obtain ⟨-, -, ⟨p, -, hr⟩ | ⟨-, ⟨_, _, hsteps⟩, -, -⟩⟩ := h.cases
  · rw [hr] at hs
    exact absurd hs List.not_mem_nil
  · obtain ⟨hentries, htaken⟩ := reportParts_steps hsteps
    have hmem : s.entry ∈ r.steps.map Step.entry := List.mem_map_of_mem hs
    rw [hentries] at hmem
    exact ⟨Node.mem_evaluationOrder.1 hmem, htaken s hs⟩

/-! ### Present entries -/

theorem Trials.decisive_of_resolved {ts : Trials} {w : Resolved}
    (h : ts.outcome.resolved = some w) : ∃ t, ts.decisive = some t := by
  obtain ⟨lost, _ | t⟩ := ts
  · cases h
  · exact ⟨t, rfl⟩

theorem Trials.outcome_of_decisive {ts : Trials} {t : Trial} (h : ts.decisive = some t) :
    ts.outcome = t.outcome := by
  rw [outcome, h]
  rfl

theorem Trials.mem_all_of_decisive {ts : Trials} {t : Trial} (h : ts.decisive = some t) :
    t ∈ ts.all := by
  rw [Trials.all, h]
  exact List.mem_append_right _ List.mem_cons_self

/-- The clauses of an outcome are those of a field of the entry, if there are any. -/
theorem clauses_of_entryEvaluator {n : Node} {e : Schema.Entry}
    (hname : ∀ f ∈ e.fields, f.name = e.name) {s : Scope} {o : Outcome} {j k : Journal}
    (h : (entryEvaluator n e s).start j = (.ok o, k)) :
    o.clauses = [] ∨ ∃ f ∈ e.fields, o.clauses = f.clauses := by
  rw [entryEvaluator_eq_outcome, Run.start_map_eq_ok] at h
  obtain ⟨ts, htrials, rfl⟩ := h
  obtain ⟨lost, _ | t⟩ := ts
  · exact .inl rfl
  have ht : t ∈ Trials.all ⟨lost, some t⟩ := Trials.mem_all_of_decisive rfl
  obtain ⟨f, hf, _, -, _, _, _, hfield⟩ := mem_trials hname htrials t ht
  rw [Trials.outcome_decisive]
  exact (tried_of_reportField hfield).2.2.clauses.imp_right fun h => ⟨f, hf, h⟩

/-- What was built while an entry was evaluated was built below one of its fields, against the root
    of the scope. -/
theorem exists_reported_below {n : Node} {e : Schema.Entry}
    (hname : ∀ f ∈ e.fields, f.name = e.name) {s : Scope} {ts : Trials} {j k : Journal}
    (h : (reportEntry n e s).start j = (.ok ts, k)) {t : Trial} (ht : t ∈ ts.all) {u : Report}
    (hu : u ∈ t.reports) :
    ∃ f ∈ e.fields, ∃ m, f.child.node? = some m ∧
      ∃ input, Reported m s.context (some s.root) input u := by
  obtain ⟨f, hf, _, -, _, _, _, hfield⟩ := mem_trials hname h t ht
  exact ⟨f, hf, (tried_of_reportField hfield).2.2.reported u hu⟩

/-- What decided for an entry: a field of it, which was tried against the root of the scope. -/
theorem Reported.decided {n : Node} {c : Context} {root? : Option Tree}
    {input : List (Value × Value)} {r : Report} (h : Reported n c root? input r) (hn : n.IsProper)
    {s : Step} (hs : s ∈ r.steps) {t : Trial} (ht : s.trials.decisive = some t) :
    s.entry ∈ n.entries ∧ t.field ∈ s.entry.fields ∧ t.outcome = s.outcome ∧
      ∃ here, Tried n t.field (scopeOf c root? here) t.outcome t.reports := by
  obtain ⟨hentry, _, _, here, htaken⟩ := h.taken s hs
  obtain ⟨_, _, htrials⟩ := htaken.trials
  obtain ⟨f, hf, _, -, _, _, _, hfield⟩ :=
    mem_trials (hn.name_of_mem _ hentry) htrials t (Trials.mem_all_of_decisive ht)
  obtain ⟨rfl, -, htried⟩ := tried_of_reportField hfield
  exact ⟨hentry, hf, (Trials.outcome_of_decisive ht).symm, here, htried⟩

end Intake.Build
