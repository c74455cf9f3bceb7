import Intake.Proofs.Build.Slicing
import Intake.Proofs.Build.Steps

/-!
# Shared fills

The candidates of a group share what they are filled with. What carries over from one candidate to
the next are fills that each of the others would be filled with as well (`Fills.Fit`), if generators
give the same value where they count as the same (`EqualFills`).

So the sharing is not seen in what is decided: the group decides as if each candidate were evaluated
as an entry of its own (`Decides`, `Sharing.decided_iff`), and the entries behind the group go on
from there (`Sharing.parts_agree`). It is seen in the calls only: the generator of a key is called for
the first candidate that asks for it, and for no other one (`turns_of_candidates`).
-/

namespace Intake.Build

open Intake.Schema Intake.Failure

/-! ### Fills that are shared -/

/-- Generators of the candidates that count as the same give the same value. -/
def EqualFills (g : Group) : Prop :=
  ∀ f ∈ g.candidates, ∀ f' ∈ g.candidates, ∀ a a', f.auto = some a → f'.auto = some a' →
    FillKey.sameAuto (some a) (some a') = true →
      ∀ i k, a.generator.run i a.argument = a'.generator.run k a'.argument

/-- The fills hold, under each key, the value that candidates with this key are filled with. -/
def Fills.Fit (s : Scope) (fs : List Field) (fills : Fills) : Prop :=
  ∀ p ∈ fills, ∀ f ∈ fs, p.1.equals (.ofField f) = true → Run.Answers (filled s f) p.2

/-- Candidates of one name and one key are filled with the same value. -/
theorem filled_agree_of_key {g : Group} (hfills : EqualFills g) {f f' : Field}
    (hf : f ∈ g.candidates) (hf' : f' ∈ g.candidates) (hname : f'.name = f.name)
    (hkey : (FillKey.ofField f).equals (.ofField f') = true) (s : Scope) :
    Run.Agree Eq (filled s f) (filled s f') := by
  rw [FillKey.equals, Bool.and_eq_true, beq_iff_eq] at hkey
  obtain ⟨hsource, hauto⟩ := hkey
  rw [filled, filled, given_congr hname hsource.symm]
  refine Run.Agree.bind (Run.steady_ofExcept _) fun own _ heq => ?_
  subst heq
  -- Either both have a generator, of the same value, or none.
  change FillKey.sameAuto f.auto f'.auto = true at hauto
  cases ha : f.auto with
  | none =>
    rw [(FillKey.sameAuto_none hauto).1 ha]
    exact .pure rfl
  | some a =>
    cases ha' : f'.auto with
    | none =>
      rw [(FillKey.sameAuto_none hauto).2 ha'] at ha
      cases ha
    | some a' =>
      rw [ha, ha'] at hauto
      dsimp only
      split
      · exact .pure rfl
      · have hgenerate : Run.Agree Eq (Run.generate a.generator a.argument)
            (Run.generate a'.generator a'.argument) :=
          fun _ _ => hfills f hf f' hf' a a' ha ha' hauto _ _
        refine hgenerate.bind fun v _ heq => ?_
        subst heq
        exact .pure rfl

/-- A candidate is filled with the same value in the group as alone, and the fills stay such. -/
theorem fill_agree_alone {g : Group} (hfills : EqualFills g) {f : Field} (hf : f ∈ g.candidates)
    (hname : ∀ f' ∈ g.candidates, f'.name = f.name)
    (hauto : ∀ a, f.auto = some a → a.generator.IsPure) {s : Scope} {fills : Fills}
    (hfit : fills.Fit s g.candidates) :
    Run.Agree (fun p q => p.1 = q.1 ∧ p.2.Fit s g.candidates) (fill s f fills) (fill s f []) := by
  have hsteady := (asks_filled (p := .steady) s hauto).steady
  cases hfind : fills.find? (·.1.equals (FillKey.ofField f)) with
  | some p =>
    -- An earlier candidate of the same key was filled with the value.
    have hkey : p.1.equals (FillKey.ofField f) = true := by simpa using List.find?_some hfind
    have hgroup : Run.Answers (fill s f fills) (p.2, fills) := by
      rw [fill, hfind]
      exact .pure _
    have halone : Run.Answers (fill s f []) (p.2, [(FillKey.ofField f, p.2)]) :=
      (hfit p (List.mem_of_find?_eq_some hfind) f hf hkey).bind (.pure _)
    exact hgroup.agree halone ⟨rfl, hfit⟩
  | none =>
    have hgroup : fill s f fills =
        filled s f >>= fun v => pure (v, fills ++ [(FillKey.ofField f, v)]) := by
      rw [fill, hfind]
    rw [hgroup]
    have hanswers : Run.Agree (fun v w => v = w ∧ Run.Answers (filled s f) v) (filled s f)
        (filled s f) :=
      hsteady.and_left fun _ _ _ => hsteady.answers
    refine hanswers.bind fun v w h => ?_
    obtain ⟨rfl, hv⟩ := h
    refine .pure ⟨rfl, ?_⟩
    intro p hp f' hf' hkey
    rcases List.mem_append.1 hp with hp | hp
    · exact hfit p hp f' hf' hkey
    · obtain rfl := List.mem_singleton.1 hp
      intro j
      obtain ⟨i, hi⟩ := hv j
      obtain ⟨w, l, hw, rfl⟩ :=
        (filled_agree_of_key hfills hf hf' (hname f' hf') hkey s).answer hi j
      exact ⟨l, hw⟩

/-- A field that is filled with the same value has the same outcome. -/
theorem fieldEvaluator_agree_of_fill {n : Node} {f : Field} (hbelow : WithinBelow .steady f)
    {s : Scope} {P : Fills → Prop} {fills fills' : Fills} (hP : P fills)
    (hfill : Run.Agree (fun p q => p.1 = q.1 ∧ P p.2) (fill s f fills) (fill s f fills')) :
    Run.Agree (fun p q => p.1 = q.1 ∧ P p.2) (fieldEvaluator n f s fills)
      (fieldEvaluator n f s fills') := by
  rw [fieldEvaluator_eq, evaluateField, evaluateField]
  refine Run.Agree.bind (Run.steady_ofExcept _) fun blocked _ heq => ?_
  subst heq
  cases blocked with
  | some path => exact .pure ⟨rfl, hP⟩
  | none =>
    refine hfill.bind fun p q h => ?_
    obtain ⟨v?, left⟩ := p
    obtain ⟨_, right⟩ := q
    obtain ⟨rfl, hP'⟩ := h
    cases v? with
    | none => exact .pure ⟨rfl, hP'⟩
    | some v =>
      refine Run.Agree.bind (process_within n hbelow s v).steady fun o _ heq => ?_
      exact .pure ⟨heq, hP'⟩

/-! ### Who decides -/

/-- Of fields that are each evaluated as an entry of its own, this one decides, with its outcome:
    those before it have failures, and it has none, or no other one is left. -/
def Decides (n : Node) (s : Scope) (fs : List Field) (f : Field) (o : Outcome) : Prop :=
  ∃ pre post, fs = pre ++ f :: post ∧
    (∀ f' ∈ pre, ∃ o', Run.Answers (entryEvaluator n (.field f') s) o' ∧ o'.isClean = false) ∧
    Run.Answers (entryEvaluator n (.field f) s) o ∧ (o.isClean = true ∨ post = [])

section Decides

variable {n : Node} {s : Scope}

theorem decides_head {f : Field} {fs : List Field} {o : Outcome}
    (ho : Run.Answers (entryEvaluator n (.field f) s) o) (h : o.isClean = true ∨ fs = []) :
    Decides n s (f :: fs) f o :=
  ⟨[], fs, rfl, by simp, ho, h⟩

theorem Decides.cons {f f' : Field} {fs : List Field} {o o' : Outcome}
    (hlost : Run.Answers (entryEvaluator n (.field f') s) o') (hfails : o'.isClean = false)
    (h : Decides n s fs f o) : Decides n s (f' :: fs) f o := by
  obtain ⟨pre, post, rfl, hpre, ho, hlast⟩ := h
  exact ⟨f' :: pre, post, rfl, List.forall_mem_cons.2 ⟨⟨o', hlost, hfails⟩, hpre⟩, ho, hlast⟩

theorem Decides.mem {f : Field} {fs : List Field} {o : Outcome} (h : Decides n s fs f o) :
    f ∈ fs := by
  obtain ⟨pre, post, rfl, -⟩ := h
  exact List.mem_append_right _ List.mem_cons_self

/-- Where all fields answer, one of them decides. -/
theorem exists_decides {fs : List Field} (hne : fs ≠ [])
    (h : ∀ f ∈ fs, ∃ o, Run.Answers (entryEvaluator n (.field f) s) o) :
    ∃ f o, Decides n s fs f o := by
  induction fs with
  | nil => exact absurd rfl hne
  | cons f fs ih =>
    obtain ⟨⟨o, ho⟩, hrest⟩ := List.forall_mem_cons.1 h
    by_cases hlast : o.isClean = true ∨ fs = []
    · exact ⟨f, o, decides_head ho hlast⟩
    · rw [not_or, Bool.not_eq_true] at hlast
      obtain ⟨f', o', hdecides⟩ := ih hlast.2 hrest
      exact ⟨f', o', hdecides.cons ho hlast.1⟩

end Decides

/-! ### Candidates alone and in the group -/

/-- The group is one of the node, and what its candidates share are values that each of them would
    be filled with as well. -/
structure Sharing (n : Node) (g : Group) : Prop where
  generators : GeneratorsPure n
  mem : .group g ∈ n.entries
  name : ∀ f ∈ g.candidates, f.name = g.name
  fills : EqualFills g

namespace Sharing

variable {n : Node} {g : Group} {s : Scope}

/-- The trial of a candidate in the group has the outcome that it has as an entry of its own. -/
theorem trial_agree (h : Sharing n g) {f : Field} (hf : f ∈ g.candidates) {fills : Fills}
    (hfit : fills.Fit s g.candidates) :
    Run.Agree (fun p o => p.1.outcome = o ∧ p.1.field = f ∧ p.2.Fit s g.candidates)
      (fieldReporter n f s fills) (entryEvaluator n (.field f) s) := by
  have hmem : f ∈ n.fields := Node.mem_fields h.mem hf
  have hname : ∀ f' ∈ g.candidates, f'.name = f.name := fun f' hf' =>
    (h.name f' hf').trans (h.name f hf).symm
  have hevaluate := fieldEvaluator_agree_of_fill (n := n) (h.generators.below hmem) hfit
    (fill_agree_alone h.fills hf hname (h.generators.auto hmem) hfit)
  rw [fieldReporter_follows n f s fills] at hevaluate
  have hfield : ∀ j p k, (fieldReporter n f s fills).start j = (.ok p, k) → p.1.field = f := by
    intro j p k hrun
    rw [fieldReporter_eq] at hrun
    exact (reportField_runs hrun).1
  have htrial : Run.Agree (fun p o => p.1.outcome = o ∧ p.1.field = f ∧ p.2.Fit s g.candidates)
      (id <$> fieldReporter n f s fills) (Prod.fst <$> fieldEvaluator n f s []) :=
    (hevaluate.of_map.and_left hfield).map fun p q ⟨⟨houtcome, hfit⟩, hf⟩ =>
      ⟨houtcome, hf, hfit⟩
  rwa [id_map, map_eq_pure_bind] at htrial

/-- What a candidate answers as an entry of its own, it answers in the group. -/
theorem trial_answers (h : Sharing n g) {f : Field} (hf : f ∈ g.candidates) {fills : Fills}
    (hfit : fills.Fit s g.candidates) {o : Outcome}
    (ho : Run.Answers (entryEvaluator n (.field f) s) o) (j : Journal) :
    ∃ t fills' k, (fieldReporter n f s fills).start j = (.ok (t, fills'), k) ∧ t.outcome = o ∧
      t.field = f ∧ Fills.Fit s g.candidates fills' := by
  have hagree : Run.Agree (fun o p => p.1.outcome = o ∧ p.1.field = f ∧ p.2.Fit s g.candidates)
      (entryEvaluator n (.field f) s) (fieldReporter n f s fills) :=
    (h.trial_agree hf hfit).symm fun _ _ h => h
  obtain ⟨i, hi⟩ := ho j
  obtain ⟨⟨t, fills'⟩, k, ht, houtcome, hfield, hfit'⟩ := hagree.answer hi j
  exact ⟨t, fills', k, ht, houtcome, hfield, hfit'⟩

/-- What a candidate answers in the group, it answers as an entry of its own. -/
theorem answers_of_trial (h : Sharing n g) {f : Field} (hf : f ∈ g.candidates)
    {fills fills' : Fills} (hfit : fills.Fit s g.candidates) {t : Trial} {j k : Journal}
    (ht : (fieldReporter n f s fills).start j = (.ok (t, fills'), k)) :
    t.field = f ∧ fills'.Fit s g.candidates ∧
      Run.Answers (entryEvaluator n (.field f) s) t.outcome := by
  have hagree := h.trial_agree hf hfit
  obtain ⟨_, _, _, -, hfield, hfit'⟩ := hagree.answer ht j
  refine ⟨hfield, hfit', fun i => ?_⟩
  obtain ⟨o, l, ho, rfl, -⟩ := hagree.answer ht i
  exact ⟨l, ho⟩

/-- Among candidates that are tried in the group, the one that decides would do so if each were an
    entry of its own. -/
theorem decides_of_run (h : Sharing n g) {fs : List Field} (hfs : ∀ f ∈ fs, f ∈ g.candidates)
    {fills : Fills} (hfit : fills.Fit s g.candidates) {ts : Trials} {t : Trial} {j k : Journal}
    (hrun : (reportCandidates s (fs.map (fieldReporter n)) fills).start j = (.ok ts, k))
    (ht : ts.decisive = some t) : Decides n s fs t.field t.outcome := by
  induction fs generalizing fills ts j with
  | nil =>
    cases hrun
    cases ht
  | cons f fs ih =>
    obtain ⟨hf, hfs⟩ := List.forall_mem_cons.1 hfs
    obtain ⟨t', fills', i, htrial, hcases⟩ := reportCandidates_cons_eq_ok.1 hrun
    obtain ⟨hfield, hfit', ho⟩ := h.answers_of_trial hf hfit htrial
    obtain ⟨hlast, rfl, -⟩ | ⟨⟨hfails, -⟩, us, hrest, rfl⟩ := hcases
    · obtain rfl := Option.some.inj ht
      rw [hfield]
      exact decides_head ho (hlast.imp_right List.map_eq_nil_iff.1)
    · exact (ih hfs hfit' hrest ht).cons ho hfails

/-- A candidate that would decide if each were an entry of its own decides in the group. -/
theorem run_of_decides (h : Sharing n g) {pre post : List Field} {f : Field}
    (hpre : ∀ f' ∈ pre, f' ∈ g.candidates) (hf : f ∈ g.candidates) {o : Outcome}
    (hlost : ∀ f' ∈ pre, ∃ o', Run.Answers (entryEvaluator n (.field f') s) o' ∧
      o'.isClean = false)
    (ho : Run.Answers (entryEvaluator n (.field f) s) o) (hlast : o.isClean = true ∨ post = [])
    {fills : Fills} (hfit : fills.Fit s g.candidates) (j : Journal) :
    ∃ ts t k,
      (reportCandidates s ((pre ++ f :: post).map (fieldReporter n)) fills).start j = (.ok ts, k) ∧
        ts.decisive = some t ∧ t.field = f ∧ t.outcome = o := by
  induction pre generalizing fills j with
  | nil =>
    obtain ⟨t, fills', k, ht, rfl, hfield, -⟩ := h.trial_answers hf hfit ho j
    have hlast : t.outcome.isClean = true ∨ post.map (fieldReporter n) = [] :=
      hlast.imp_right List.map_eq_nil_iff.2
    exact ⟨⟨[], some t⟩, t, k,
      reportCandidates_cons_eq_ok.2 ⟨t, fills', k, ht, .inl ⟨hlast, rfl, rfl⟩⟩, rfl, hfield, rfl⟩
  | cons first pre ih =>
    obtain ⟨hfirst, hpre⟩ := List.forall_mem_cons.1 hpre
    obtain ⟨⟨o', ho', hfails⟩, hlost⟩ := List.forall_mem_cons.1 hlost
    obtain ⟨t, fills', l, ht, rfl, -, hfit'⟩ := h.trial_answers hfirst hfit ho' j
    obtain ⟨ts, t', k, hrun, hdecisive, hfield⟩ := ih hpre hlost hfit' l
    -- There is another candidate behind the first one, be it the one that decides.
    have hmore : (pre ++ f :: post).map (fieldReporter n) ≠ [] := by simp
    exact ⟨.cons t ts, t', k,
      reportCandidates_cons_eq_ok.2 ⟨t, fills', l, ht, .inr ⟨⟨hfails, hmore⟩, ts, hrun, rfl⟩⟩,
      hdecisive, hfield⟩

/-- A candidate decides in the group if it would do so were each candidate an entry of its own, and
    the group has its outcome. -/
theorem decided_iff (h : Sharing n g) (s : Scope) (j : Journal) {f : Field} {o : Outcome} :
    (∃ ts t k, (reportEntry n (.group g) s).start j = (.ok ts, k) ∧
        (entryEvaluator n (.group g) s).start j = (.ok o, k) ∧
        ts.decisive = some t ∧ t.field = f ∧ t.outcome = o) ↔
      Decides n s g.candidates f o := by
  have hall : ∀ f ∈ g.candidates, f ∈ g.candidates := fun _ hf => hf
  have hnone : Fills.Fit s g.candidates [] := fun p hp => absurd hp List.not_mem_nil
  rw [entryEvaluator_eq_outcome, reportEntry_eq]
  change (∃ ts t k, (reportCandidates s (g.candidates.map (fieldReporter n)) []).start j = _ ∧
    (Trials.outcome <$> reportCandidates s (g.candidates.map (fieldReporter n)) []).start j = _ ∧
    _) ↔ _
  constructor
  · rintro ⟨ts, t, k, hrun, -, ht, rfl, rfl⟩
    exact h.decides_of_run hall hnone hrun ht
  · rintro ⟨pre, post, hsplit, hlost, ho, hlast⟩
    have hmem : ∀ f' ∈ pre ++ f :: post, f' ∈ g.candidates := fun f' hf' => hsplit ▸ hf'
    obtain ⟨ts, t, k, hrun, ht, rfl, rfl⟩ :=
      h.run_of_decides (fun f' hf' => hmem f' (List.mem_append_left _ hf')) (hmem f (by simp))
        hlost ho hlast hnone j
    rw [← hsplit] at hrun
    have houtcome := Run.start_map_eq_ok.2 ⟨ts, hrun, Trials.outcome_of_decisive ht⟩
    exact ⟨ts, t, k, hrun, houtcome, ht, rfl, rfl⟩

/-- The entries behind the group go on as they would behind the candidate that decides, were this an
    entry in the place of the group. -/
theorem parts_agree (h : Sharing n g) {c : Context} {root? : Option Tree} {t : Tree} {f : Field}
    {o : Outcome} (hdecides : Decides n (scopeOf c root? t) g.candidates f o)
    {es : List Schema.Entry} (hes : ∀ e ∈ es, e ∈ n.entries) :
    Run.Agree Eq (evaluateParts c root? (partsOf n (.group g :: es)) t)
      (evaluateParts c root? (partsOf n (.field f :: es)) t) := by
  have hgroup : Run.Answers (entryEvaluator n (.group g) (scopeOf c root? t)) o := by
    intro j
    obtain ⟨_, _, k, -, hrun, -⟩ := (h.decided_iff _ j).2 hdecides
    exact ⟨k, hrun⟩
  have hfield : Run.Answers (entryEvaluator n (.field f) (scopeOf c root? t)) o := by
    obtain ⟨_, _, -, -, ho, -⟩ := hdecides
    exact ho
  have hrest : ∀ u, Run.Steady (evaluateParts c root? (partsOf n es) u) := by
    rw [partsOf_eq]
    refine fun u => (evaluateParts_within (fun part hpart s => ?_) u).steady
    obtain ⟨e, he, rfl⟩ := List.mem_map.1 hpart
    exact h.generators.entryEvaluator_within (hes e he) s
  have hname : (Schema.Entry.field f).name = (Schema.Entry.group g).name :=
    h.name f hdecides.mem
  rw [partsOf, partsOf, evaluateParts, evaluateParts, hname]
  refine (hgroup.agree hfield (R := Eq) rfl).bind fun o _ heq => ?_
  subst heq
  exact (hrest _).bind fun p => .pure rfl

end Sharing

/-! ### The calls of a group -/

/-- A field that was tried for a group, with the calls that were made to fill it, and then to work on
    what it was filled with. -/
structure Turn where
  field : Field
  filling : List Call
  working : List Call

namespace Turn

/-- The calls of a turn, in order. -/
def calls (u : Turn) : List Call :=
  u.filling ++ u.working

/-- To fill the field nothing is called, or its generator is, once; the other calls are those of an
    evaluation of the field that has its value already. -/
structure Taken (n : Node) (s : Scope) (u : Turn) : Prop where
  filling : u.filling = [] ∨ ∃ a, u.field.auto = some a ∧
    u.filling = [.generator a.generator.label a.argument.toList]
  working : u.working = [] ∨ ∃ v i o l,
    (process n u.field (childBuilder u.field.child) s v).start i = (.ok o, l) ∧
      l.calls = i.calls ++ u.working

/-- The turn leaves the fills as they are, and calls nothing to fill the field; or its key is new, and
    is filled. -/
def Extends (u : Turn) (fills fills' : Fills) : Prop :=
  (u.filling = [] ∧ fills' = fills) ∨
    (∀ p ∈ fills, p.1.equals (.ofField u.field) = false) ∧
      ∃ v, fills' = fills ++ [(.ofField u.field, v)]

section Extends

variable {u : Turn} {fills fills' : Fills} (h : u.Extends fills fills')
include h

theorem Extends.subset : fills ⊆ fills' := by
  obtain ⟨-, rfl⟩ | ⟨-, v, rfl⟩ := h
  · exact List.Subset.refl _
  · exact List.subset_append_left _ _

/-- Something is called to fill the field only if its key is new, and then it is filled. -/
theorem Extends.of_filling (hne : u.filling ≠ []) :
    (∀ p ∈ fills, p.1.equals (.ofField u.field) = false) ∧
      ∃ v, (FillKey.ofField u.field, v) ∈ fills' := by
  obtain ⟨hnew, v, rfl⟩ := h.resolve_left fun hnil => hne hnil.1
  exact ⟨hnew, v, List.mem_append_right _ (List.mem_singleton_self _)⟩

end Extends

end Turn

theorem calls_of_filled {s : Scope} {f : Field} {v : Option Value} {j k : Journal}
    (h : (filled s f).start j = (.ok v, k)) :
    ∃ calls, k.calls = j.calls ++ calls ∧ (calls = [] ∨ ∃ a, f.auto = some a ∧
      calls = [.generator a.generator.label a.argument.toList]) := by
  rw [filled] at h
  rw [Run.start_bind_eq_ok] at h
  obtain ⟨own, i, hown, h⟩ := h
  obtain ⟨-, rfl⟩ := Run.start_ofExcept_eq_ok.1 hown
  cases hauto : f.auto with
  | none =>
    rw [hauto] at h
    cases h
    exact ⟨[], (List.append_nil _).symm, .inl rfl⟩
  | some a =>
    rw [hauto] at h
    dsimp only at h
    split at h
    · cases h
      exact ⟨[], (List.append_nil _).symm, .inl rfl⟩
    · cases h
      exact ⟨_, rfl, .inr ⟨a, rfl, rfl⟩⟩

/-- To fill a field, nothing is called for a key that is there already; else the key is added. -/
theorem calls_of_fill {s : Scope} {f : Field} {fills fills' : Fills} {v : Option Value}
    {j k : Journal} (h : (fill s f fills).start j = (.ok (v, fills'), k)) :
    ∃ calls, k.calls = j.calls ++ calls ∧
      (calls = [] ∨ ∃ a, f.auto = some a ∧
        calls = [.generator a.generator.label a.argument.toList]) ∧
      ((calls = [] ∧ fills' = fills) ∨
        (∀ p ∈ fills, p.1.equals (.ofField f) = false) ∧
          fills' = fills ++ [(.ofField f, v)]) := by
  rw [fill] at h
  cases hfind : fills.find? (·.1.equals (FillKey.ofField f)) with
  | some p =>
    rw [hfind] at h
    cases h
    exact ⟨[], (List.append_nil _).symm, .inl rfl, .inl ⟨rfl, rfl⟩⟩
  | none =>
    rw [hfind] at h
    obtain ⟨w, _, hfilled, heq⟩ := Run.start_bind_eq_ok.1 h
    cases heq
    obtain ⟨calls, hcalls, hfilling⟩ := calls_of_filled hfilled
    refine ⟨calls, hcalls, hfilling, .inr ⟨fun p hp => ?_, rfl⟩⟩
    exact Bool.eq_false_iff.2 (List.find?_eq_none.1 hfind p hp)

theorem calls_of_process {n : Node} {f : Field} {s : Scope} {v : Value} {o : Outcome}
    {j k : Journal} (h : (process n f (childBuilder f.child) s v).start j = (.ok o, k)) :
    ∃ calls, k.calls = j.calls ++ calls :=
  ⟨_, (covers_process n f (covers_child f.child) s v).calls h⟩

/-- The turn of a field. -/
theorem turn_of_field {n : Node} {f : Field} {s : Scope} {fills fills' : Fills} {o : Outcome}
    {j k : Journal} (h : (fieldEvaluator n f s fills).start j = (.ok (o, fills'), k)) :
    ∃ u : Turn, u.field = f ∧ u.Taken n s ∧ k.calls = j.calls ++ u.calls ∧
      u.Extends fills fills' := by
  rw [fieldEvaluator_eq, evaluateField] at h
  obtain ⟨blocked, i, hblocked, h⟩ := Run.start_bind_eq_ok.1 h
  obtain ⟨-, rfl⟩ := Run.start_ofExcept_eq_ok.1 hblocked
  cases blocked with
  | some path =>
    cases h
    exact ⟨⟨f, [], []⟩, rfl, ⟨.inl rfl, .inl rfl⟩, (List.append_nil _).symm, .inl ⟨rfl, rfl⟩⟩
  | none =>
    obtain ⟨⟨v?, fills''⟩, l, hfill, h⟩ := Run.start_bind_eq_ok.1 h
    obtain ⟨filling, hl, hfilling, hkey⟩ := calls_of_fill hfill
    cases v? with
    | none =>
      cases h
      refine ⟨⟨f, filling, []⟩, rfl, ⟨hfilling, .inl rfl⟩, ?_, hkey.imp_right ?_⟩
      · rw [hl, Turn.calls, List.append_nil]
      · exact fun h => ⟨h.1, _, h.2⟩
    | some v =>
      obtain ⟨o', _, hprocess, heq⟩ := Run.start_bind_eq_ok.1 h
      cases heq
      obtain ⟨working, hk⟩ := calls_of_process hprocess
      refine ⟨⟨f, filling, working⟩, rfl, ⟨hfilling, .inr ⟨v, _, _, _, hprocess, hk⟩⟩, ?_,
        hkey.imp_right ?_⟩
      · rw [hk, hl, Turn.calls, List.append_assoc]
      · exact fun h => ⟨h.1, _, h.2⟩

theorem turn_of_trial {n : Node} {f : Field} {s : Scope} {fills fills' : Fills} {t : Trial}
    {j k : Journal} (h : (fieldReporter n f s fills).start j = (.ok (t, fills'), k)) :
    t.field = f ∧ ∃ u : Turn, u.field = f ∧ u.Taken n s ∧ k.calls = j.calls ++ u.calls ∧
      u.Extends fills fills' := by
  have hevaluate : (fieldEvaluator n f s fills).start j = (.ok (t.outcome, fills'), k) := by
    rw [fieldReporter_follows n f s fills]
    exact Run.start_map_eq_ok.2 ⟨_, h, rfl⟩
  rw [fieldReporter_eq] at h
  exact ⟨(reportField_runs h).1, turn_of_field hevaluate⟩

/-- The turns of the fields that were tried for a group, in order: no generator is called for a key
    that is filled already, and none twice for one key. -/
structure Turns (n : Node) (s : Scope) (fills : Fills) (ts : Trials) (us : List Turn) : Prop where
  fields : us.map Turn.field = ts.all.map Trial.field
  taken : ∀ u ∈ us, u.Taken n s
  unfilled : ∀ u ∈ us, u.filling ≠ [] → ∀ p ∈ fills, p.1.equals (.ofField u.field) = false
  once : us.Pairwise fun u u' => u.filling ≠ [] → u'.filling ≠ [] →
    (FillKey.ofField u.field).equals (.ofField u'.field) = false

theorem Turns.single {n : Node} {s : Scope} {fills fills' : Fills} {t : Trial} {u : Turn}
    (hu : u.Taken n s) (hfield : u.field = t.field) (h : u.Extends fills fills') :
    Turns n s fills ⟨[], some t⟩ [u] where
  fields := by simp [Trials.all, hfield]
  taken := List.forall_mem_singleton.2 hu
  unfilled := List.forall_mem_singleton.2 fun hne => (h.of_filling hne).1
  once := List.pairwise_singleton _ _

/-- A turn before others: what it has filled stays filled, so that it is not filled again. -/
theorem Turns.cons {n : Node} {s : Scope} {fills fills' : Fills} {t : Trial} {ts : Trials} {u : Turn}
    {us : List Turn} (hus : Turns n s fills' ts us) (hu : u.Taken n s) (hfield : u.field = t.field)
    (h : u.Extends fills fills') : Turns n s fills (.cons t ts) (u :: us) where
  fields := by
    change u.field :: us.map Turn.field = t.field :: ts.all.map Trial.field
    rw [hfield, hus.fields]
  taken := List.forall_mem_cons.2 ⟨hu, hus.taken⟩
  unfilled := List.forall_mem_cons.2
    ⟨fun hne => (h.of_filling hne).1, fun u' hu' hne p hp => hus.unfilled u' hu' hne p (h.subset hp)⟩
  once := by
    refine List.pairwise_cons.2 ⟨fun u' hu' hne hne' => ?_, hus.once⟩
    obtain ⟨-, v, hv⟩ := h.of_filling hne
    exact hus.unfilled u' hu' hne' _ hv

theorem turns_of_candidates {n : Node} {s : Scope} {fs : List Field} {fills : Fills} {ts : Trials}
    {j k : Journal}
    (h : (reportCandidates s (fs.map (fieldReporter n)) fills).start j = (.ok ts, k)) :
    ∃ us : List Turn, Turns n s fills ts us ∧ k.calls = j.calls ++ us.flatMap Turn.calls := by
  induction fs generalizing fills ts j with
  | nil =>
    cases h
    exact ⟨[], ⟨rfl, by simp, by simp, .nil⟩, by simp⟩
  | cons f fs ih =>
    obtain ⟨t, fills', i, ht, hcases⟩ := reportCandidates_cons_eq_ok.1 h
    obtain ⟨hfield, u, hu, htaken, hcalls, hextends⟩ := turn_of_trial ht
    have hsame : u.field = t.field := hu.trans hfield.symm
    obtain ⟨-, rfl, rfl⟩ | ⟨-, ts', hrest, rfl⟩ := hcases
    · -- The turn of a field that decides is the only one.
      exact ⟨[u], .single htaken hsame hextends, by simpa using hcalls⟩
    · obtain ⟨us, hus, hk⟩ := ih hrest
      refine ⟨u :: us, hus.cons htaken hsame hextends, ?_⟩
      rw [hk, hcalls, List.flatMap_cons, List.append_assoc]

/-- The candidates of a group of a node share what they are filled with, and this changes nothing but
    how often generators are called. In whatever scope, a candidate decides, with its outcome,
    exactly if it would do so were each candidate evaluated as an entry of its own; and one does, if
    they all answer then. Each candidate is tried in the scope of the group. The calls are those of
    the candidates tried, in order, where no generator is called twice for one key. Behind the group,
    all goes on as it would behind the candidate that decides, were this an entry in the place of
    the group. -/
theorem shared_fills_transparent {n : Node} (hn : n.IsProper) (hpure : GeneratorsPure n) {g : Group}
    (hg : .group g ∈ n.entries) (hfills : EqualFills g) (s : Scope) :
    (∀ j f o,
      (∃ ts t k, (reportEntry n (.group g) s).start j = (.ok ts, k) ∧
          (entryEvaluator n (.group g) s).start j = (.ok o, k) ∧
          ts.decisive = some t ∧ t.field = f ∧ t.outcome = o) ↔
        Decides n s g.candidates f o) ∧
    (g.candidates ≠ [] →
      (∀ f ∈ g.candidates, ∃ o, Run.Answers (entryEvaluator n (.field f) s) o) →
        ∃ f o, Decides n s g.candidates f o) ∧
    (∀ j ts k, (reportEntry n (.group g) s).start j = (.ok ts, k) →
      (∀ t ∈ ts.all, t.scope = s) ∧
        ∃ us, Turns n s [] ts us ∧ k.calls = j.calls ++ us.flatMap Turn.calls) ∧
    ∀ f o c root? t es, Decides n s g.candidates f o → scopeOf c root? t = s →
      (∀ e ∈ es, e ∈ n.entries) →
        Run.Agree Eq (evaluateParts c root? (partsOf n (.group g :: es)) t)
          (evaluateParts c root? (partsOf n (.field f :: es)) t) := by
  have hname : ∀ f ∈ g.candidates, f.name = g.name := hn.name_of_mem _ hg
  have h : Sharing n g := ⟨hpure, hg, hname, hfills⟩
  refine ⟨fun j f o => h.decided_iff s j, exists_decides, fun j ts k hrun => ⟨?_, ?_⟩, ?_⟩
  · intro t ht
    obtain ⟨f, -, fills, -, fills', i, l, htrial⟩ := mem_trials (e := .group g) hname hrun t ht
    exact (reportField_runs htrial).2.1
  · rw [reportEntry_eq] at hrun
    exact turns_of_candidates hrun
  · rintro f o c root? t es hdecides rfl hes
    exact h.parts_agree hdecides hes

/-- A generator of serial numbers. -/
def serial : Generator :=
  ⟨"serial", fun _ _ => .text "K-7"⟩

/-- A label with a serial number. -/
def serialField : Field :=
  { plainField "label" with auto := some ⟨serial, none⟩ }

/-- A label that has to be a number, with a serial number. -/
def numberedField : Field :=
  { serialField with rule := [("validate", [⟨"integer", .none⟩])] }

/-- A label is a number, or else it may be anything; in either case it is a serial number if none
    was sent. -/
def serialGroup : Group :=
  ⟨"label", [numberedField, serialField], none⟩

/-- A parcel has a label. -/
def parcel : Node :=
  plainNode "Parcel" [.group serialGroup]

/-- Nothing was sent for a parcel. -/
def parcelScope : Scope :=
  scopeOf ⟨.create, false⟩ none []

/-- The serial number is no number, but it is good for the second candidate, and it is generated
    once. -/
theorem serial_shared :
    parcel.IsProper ∧ GeneratorsPure parcel ∧ EqualFills serialGroup ∧
    ∃ o ts t k us, Decides parcel parcelScope serialGroup.candidates serialField o ∧
      (reportEntry parcel (.group serialGroup) parcelScope).start .empty = (.ok ts, k) ∧
      ts.decisive = some t ∧ t.field = serialField ∧ t.outcome = o ∧ o.isClean = true ∧
      Turns parcel parcelScope [] ts us ∧ us.flatMap Turn.calls = [.generator "serial" []] := by
  have hauto : ∀ f ∈ serialGroup.candidates, f.auto = some ⟨serial, none⟩ := by
    simp [serialGroup, numberedField, serialField]
  have hpure : GeneratorsPure parcel := by
    refine Node.forall_spans_of_leaf rfl ?_
    intro f hf a ha i k b
    rw [hauto f (by simpa [parcel, plainNode, Node.fields, Entry.fields] using hf)] at ha
    obtain rfl := Option.some.inj ha
    rfl
  have hproper : parcel.IsProper :=
    ⟨by decide, by simp [parcel, serialGroup, numberedField, serialField, plainNode, Entry.fields,
      Entry.name, plainField]⟩
  have hfills : EqualFills serialGroup := by
    intro f hf f' hf' a a' ha ha' _ i k
    rw [hauto f hf] at ha
    rw [hauto f' hf'] at ha'
    obtain rfl := Option.some.inj ha
    obtain rfl := Option.some.inj ha'
    rfl
  have hsteady : ∀ f ∈ serialGroup.candidates,
      Run.Steady (entryEvaluator parcel (.field f) parcelScope) := by
    intro f hf
    have hmem : f ∈ parcel.fields := Node.mem_fields (List.mem_singleton_self _) hf
    exact (entryEvaluator_within (p := .steady) (e := .field f)
      (List.forall_mem_singleton.2 (hpure.auto hmem))
      (List.forall_mem_singleton.2 (hpure.below hmem)) _).steady
  -- Alone, the first candidate fails, and the second one does not.
  have hlost : ∃ o, Run.Answers (entryEvaluator parcel (.field numberedField) parcelScope) o ∧
      o.isClean = false :=
    ⟨_, (hsteady _ List.mem_cons_self).answers (j := .empty) rfl, rfl⟩
  have ho : Run.Answers (entryEvaluator parcel (.field serialField) parcelScope)
      (.present serialField (.text "K-7") []) :=
    fun _ => ⟨_, rfl⟩
  have hdecides : Decides parcel parcelScope serialGroup.candidates serialField
      (.present serialField (.text "K-7") []) :=
    ⟨[numberedField], [], rfl, List.forall_mem_singleton.2 hlost, ho, .inl rfl⟩
  obtain ⟨hdecided, -, hturns, -⟩ := shared_fills_transparent hproper hpure
    (List.mem_singleton_self _) hfills parcelScope
  obtain ⟨ts, t, k, hrun, -, ht, hfield, houtcome⟩ := (hdecided .empty _ _).2 hdecides
  obtain ⟨-, us, hus, hk⟩ := hturns _ _ _ hrun
  have hcalls : ((reportEntry parcel (.group serialGroup) parcelScope).start .empty).2.calls =
      [.generator "serial" []] := rfl
  rw [hrun, hk] at hcalls
  exact ⟨hproper, hpure, hfills, _, ts, t, k, us, hdecides, hrun, ht, hfield, houtcome, rfl, hus,
    hcalls⟩

/-- A label that waits for an item under an index that is none. -/
def itemField : Field :=
  { plainField "label" with gate := some "items.--1" }

/-- A label waits for an item, or else it may be anything. -/
def itemGroup : Group :=
  ⟨"label", [itemField, plainField "label"], none⟩

/-- A shelf has items and a label. -/
def shelf : Node :=
  plainNode "Shelf" [.field (plainField "items"), .group itemGroup]

/-- A shelf with an item and a label. -/
def shelfScope : Scope :=
  scopeOf ⟨.create, false⟩ none [("items", .list [.text "a"]), ("label", .text "x")]

/-- There is no item under the index, and the second candidate is good; but the gate of the first one
    is not closed, it ends the run. -/
theorem malformed_index_ends_run :
    (∃ o, Run.Answers (entryEvaluator shelf (.field (plainField "label")) shelfScope) o ∧
      o.isClean = true) ∧
    ((entryEvaluator shelf (.group itemGroup) shelfScope).start .empty).1.isOk = false :=
  ⟨⟨_, fun _ => ⟨_, rfl⟩, rfl⟩, rfl⟩

end Intake.Build
