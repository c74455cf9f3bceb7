import Intake.Proofs.Build.Raising
import Intake.Proofs.Check.Standard
import Intake.Proofs.Domain

/-!
# Payloads of missing names

Where a record is edited, the builder never asks for required names. A payload that says that names
are missing can then only be one that a callable of the user replied with: as a whole, or inside of
the payload it replied with (`Supplied`). It has replied before the node is finished whose payload
this one occurs in; with that, nodes that raise their failures are covered as well.

The courses of values and clauses are followed to what they answer with (`supplied_of_checked`). The
courses in which nodes are finished have the property along the way too (`Course.Founded`), and it
is put together as the courses are.
-/

namespace Intake

open Intake.Schema Intake.Build Intake.Failure

/-! ### Payloads and entries -/

/-- Each payload of missing names in this one occurs in a payload that a callable has replied
    with. -/
def Supplied (es : List Event) (p : Payload) : Prop :=
  ∀ names, (Payload.required names).Occurs p → ∃ call role name q,
    .replied call role name (.refused q) ∈ es ∧ (Payload.required names).Occurs q

/-- What is nested in the entry was supplied. -/
def SuppliedEntry (es : List Event) (x : Failure.Entry) : Prop :=
  ∀ field p index, x = .nested field p index → Supplied es p

section Supplied

variable {es es' : List Event}

theorem Supplied.mono {p : Payload} (h : Supplied es p) (hsub : es ⊆ es') : Supplied es' p :=
  fun names hoccurs =>
    let ⟨call, role, name, q, hq, hin⟩ := h names hoccurs
    ⟨call, role, name, q, hsub hq, hin⟩

theorem SuppliedEntry.mono {x : Failure.Entry} (h : SuppliedEntry es x) (hsub : es ⊆ es') :
    SuppliedEntry es' x :=
  fun field p index hx => (h field p index hx).mono hsub

/-- A payload that a callable has replied with is supplied. -/
theorem supplied_of_replied {call : Call} {role : Role} {name : String} {p : Payload}
    (h : .replied call role name (.refused p) ∈ es) : Supplied es p :=
  fun _ hoccurs => ⟨call, role, name, p, h, hoccurs⟩

/-- A payload that is not itself one of missing names was supplied where its entries were. -/
theorem supplied_of_entries {p : Payload} (hp : ∀ names, p ≠ .required names)
    (h : ∀ x ∈ p.entries, SuppliedEntry es x) : Supplied es p := by
  intro names hoccurs
  cases hoccurs with
  | self => exact absurd rfl (hp names)
  | nested hmem hoccurs => exact h _ hmem _ _ _ rfl names hoccurs

theorem Supplied.entries {p : Payload} (h : Supplied es p) : ∀ x ∈ p.entries, SuppliedEntry es x := by
  rintro x hx field q index rfl names hoccurs
  exact h names (.nested hx hoccurs)

theorem suppliedEntry_field (field action message : String) :
    SuppliedEntry es (.field field action message) := by
  rintro _ _ _ ⟨⟩

theorem suppliedEntry_ofDomain (field path : String) (missing : Bool) :
    SuppliedEntry es (.ofDomain field path missing) := by
  rintro _ _ _ ⟨⟩

theorem suppliedEntry_ofDependency (field path : String) :
    SuppliedEntry es (.ofDependency field path) := by
  rintro _ _ _ ⟨⟩

theorem suppliedEntry_nested {field : String} {p : Payload} {index : Option Int}
    (h : Supplied es p) : SuppliedEntry es (.nested field p index) := by
  rintro _ _ _ ⟨⟩
  exact h

/-- The payload of collected failures was supplied where they were. -/
theorem supplied_of_aggregate {xs : List Failure.Entry} {p : Payload} (h : aggregate xs = some p)
    (hxs : ∀ x ∈ xs, SuppliedEntry es x) : Supplied es p := by
  have hentries := (aggregate_eq_some h).1
  refine supplied_of_entries (fun names hp => ?_) fun x hx => hxs x ?_
  · rw [hp] at hentries
    cases hentries
  · rwa [Payload.entries, hentries] at hx

end Supplied

end Intake

namespace Intake.Check

open Intake.Rule Intake.Failure

/-! ### Checks -/

variable {functions : Functions}

/-- The payload of a verdict was supplied. -/
theorem supplied_of_run {d : Directive} {v : Value} {x : Verdict} {j k : Journal}
    {es : List Event} (h : (runCourse functions d v).Ends j x k es) :
    ∀ p, x.payload? = some p → Supplied es p := by
  intro p hp
  obtain ⟨name, a⟩ := d
  by_cases hcustom : name = "custom"
  · subst hcustom
    rw [runCourse, if_pos (by rfl)] at h
    cases a with
    | function f =>
      simp only [customCourse, askedRef] at h
      split at h
      · obtain ⟨r, -, hread, rfl⟩ := Course.ends_consult h
        -- Only a payload that was replied is one of the verdict.
        cases r with
        | refused q =>
          cases hread
          cases hp
          exact supplied_of_replied (List.mem_singleton_self _)
        | _ =>
          rw [payload?_ofReply (by rintro _ ⟨⟩) hread] at hp
          cases hp
      · obtain ⟨heq, -⟩ := Course.ends_ofExcept.1 h
        cases heq
      · cases h.start
    | _ =>
      obtain ⟨rfl, -⟩ := Course.ends_pure.1 h
      cases hp
  · have hstart := h.start
    rw [(asks_run (p := .all) functions _ v).quiet] at hstart
    rw [(run_isStandard hcustom hstart).payload?] at hp
    cases hp

theorem supplied_of_entriesOf {field : String} {d : Directive} {x : Verdict} {es : List Event}
    (h : ∀ p, x.payload? = some p → Supplied es p) :
    ∀ y ∈ entriesOf field d x, SuppliedEntry es y := by
  intro y hy
  cases x with
  | pass normalized => cases hy
  | reject message constraint expected actual payload =>
    cases payload with
    | none =>
      rw [List.mem_singleton.1 hy]
      exact suppliedEntry_field _ _ _
    | some p =>
      have hp := h p rfl
      dsimp only [entriesOf] at hy
      split at hy
      · rw [List.mem_singleton.1 hy]
        exact suppliedEntry_nested hp
      · exact hp.entries y hy

/-- The failures of a stage were supplied. -/
theorem supplied_of_runStage {field : String} {ds : List Directive} {v w : Value}
    {xs : List Entry} {j k : Journal} {es : List Event}
    (h : (runStageCourse functions field ds v).Ends j (w, xs) k es) :
    ∀ x ∈ xs, SuppliedEntry es x := by
  induction ds generalizing v j k xs es with
  | nil =>
    obtain ⟨heq, -, -⟩ := Course.ends_pure.1 h
    cases heq
    exact fun x hx => absurd hx List.not_mem_nil
  | cons d ds ih =>
    obtain ⟨verdict, _, first, rest, hverdict, h₁, rfl⟩ := Course.ends_bind.1 h
    obtain ⟨⟨w', ys⟩, _, more, _, hrest, h₂, rfl⟩ := Course.ends_bind.1 h₁
    obtain ⟨heq, -, rfl⟩ := Course.ends_pure.1 h₂
    cases heq
    rw [List.append_nil]
    intro x hx
    rcases List.mem_append.1 hx with hx | hx
    · exact (supplied_of_entriesOf (supplied_of_run hverdict) x hx).mono
        (List.subset_append_left _ _)
    · exact (ih hrest x hx).mono (List.subset_append_right _ _)

end Intake.Check

namespace Intake.Build

open Intake.Schema Intake.Failure

/-! ### Values, clauses and settling -/

/-- The failures of the validator of a field are its own. -/
theorem supplied_of_validate {n : Node} {f : Field} {v w : Value} {xs : List Failure.Entry}
    {j k : Journal} {es : List Event} (h : (validateCourse n f v).Ends j (w, xs) k es) :
    ∀ x ∈ xs, SuppliedEntry es x := by
  unfold validateCourse at h
  split at h
  · obtain ⟨heq, -⟩ := Course.ends_pure.1 h
    cases heq
    exact fun x hx => absurd hx List.not_mem_nil
  · obtain ⟨heq, -⟩ := Course.ends_ofExcept.1 h
    cases heq
  · obtain ⟨r, -, hread, -⟩ := Course.ends_consult h
    unfold validated at hread
    split at hread <;> cases hread
    · exact fun x hx => absurd hx List.not_mem_nil
    · intro x hx
      rw [List.mem_singleton.1 hx]
      exact suppliedEntry_field _ _ _

/-- The failures of the rule and of the validator of a field were supplied. -/
theorem supplied_of_checked {n : Node} {f : Field} {v w : Value} {xs : List Failure.Entry}
    {j k : Journal} {es : List Event} (h : (checkedCourse n f v).Ends j (w, xs) k es) :
    ∀ x ∈ xs, SuppliedEntry es x := by
  obtain ⟨⟨u, ys⟩, _, first, rest, hrule, h₁, rfl⟩ := Course.ends_bind.1 h
  obtain ⟨cleaned, _, _, stage, hclean, hstage, rfl⟩ := Course.ends_bind.1 hrule
  cases ys with
  | nil =>
    exact fun x hx => (supplied_of_validate h₁ x hx).mono (List.subset_append_right _ _)
  | cons y ys =>
    obtain ⟨heq, -, rfl⟩ := Course.ends_pure.1 h₁
    cases heq
    intro x hx
    refine (Check.supplied_of_runStage hstage x hx).mono ?_
    exact List.Subset.trans (List.subset_append_right _ _) (List.subset_append_left _ _)

/-- The failures of clauses are those of a domain. -/
theorem supplied_of_rejections {n : Node} {s : Scope} {os : Outcomes} {e : Schema.Entry}
    {xs : List Failure.Entry} {j k : Journal} (es : List Event)
    (h : (rejectionsOf n s os e).start j = (.ok xs, k)) : ∀ x ∈ xs, SuppliedEntry es x := by
  intro x hx
  rw [rejectionsOf] at h
  split at h
  · obtain ⟨c, -, missing, rfl⟩ := Domain.ofDomain_of_evaluate h x hx
    exact suppliedEntry_ofDomain _ _ _
  · cases h
    cases hx

/-- What a main validator refuses the values with was supplied by it. -/
theorem supplied_of_main {n : Node} {values : Tree} {p : Payload} {j k : Journal}
    {es : List Event} (h : (mainCourse n values).Ends j (.error p) k es) : Supplied es p := by
  unfold mainCourse at h
  split at h
  · obtain ⟨heq, -⟩ := Course.ends_pure.1 h
    cases heq
  · obtain ⟨heq, -⟩ := Course.ends_ofExcept.1 h
    cases heq
  · obtain ⟨r, -, hread, rfl⟩ := Course.ends_consult h
    unfold mainAnswer at hread
    split at hread <;> cases hread
    · -- A message is told as a failure of the node.
      refine supplied_of_entries (by rintro _ ⟨⟩) fun x hx => ?_
      rw [List.mem_singleton.1 hx]
      exact suppliedEntry_field _ _ _
    · exact supplied_of_replied (List.mem_singleton_self _)

/-- The payload that a node settles for was supplied where the failures of its entries were. -/
theorem supplied_of_settle {n : Node} {os : Outcomes} {rejected : List (List Failure.Entry)}
    {p : Payload} {j k : Journal} {es before : List Event}
    (h : (settleCourse n os rejected).Ends j (.error p) k es)
    (hos : ∀ e : Schema.Entry, ∀ x ∈ (os.of e).failures, SuppliedEntry before x)
    (hrejected : ∀ xs ∈ rejected, ∀ x ∈ xs, SuppliedEntry before x) :
    Supplied (before ++ es) p := by
  rw [settleCourse] at h
  split at h
  · next q haggregate =>
    obtain ⟨heq, -⟩ := Course.ends_pure.1 h
    cases heq
    refine (supplied_of_aggregate haggregate fun x hx => ?_).mono (List.subset_append_left _ _)
    rcases List.mem_append.1 hx with hx | hx
    · obtain ⟨e, -, hx⟩ := List.mem_flatMap.1 hx
      exact hos e x hx
    · obtain ⟨xs, hxs, hx⟩ := List.mem_flatten.1 hx
      exact hrejected xs hxs x hx
  · obtain ⟨answer, _, first, rest, hmain, h, rfl⟩ := Course.ends_bind.1 h
    cases answer with
    | error q =>
      obtain ⟨heq, -, rfl⟩ := Course.ends_pure.1 h
      cases heq
      rw [List.append_nil]
      exact (supplied_of_main hmain).mono (List.subset_append_right _ _)
    | ok values =>
      obtain ⟨_, _, _, _, -, h, -⟩ := Course.ends_bind.1 h
      obtain ⟨heq, -⟩ := Course.ends_pure.1 h
      cases heq

end Intake.Build

namespace Intake.Course

open Intake.Schema Intake.Build Intake.Failure

/-! ### Courses in which nodes are finished -/

variable {α β : Type}

/-- Behind the events that came before, each node that fails in the course does so with a payload
    that was supplied until then, and the answer is good after the events of the course. -/
structure Founded (before : List Event) (x : Course α) (P : List Event → α → Prop) : Prop where
  finished : ∀ j pre n p post, x.events j = pre ++ .finished n (.error p) :: post →
    Supplied (before ++ pre) p
  answer : ∀ j a k es, x.Ends j a k es → P (before ++ es) a

section Founded

variable {before : List Event} {P : List Event → α → Prop}

/-- Of a course in which no node is finished, only the answer counts. -/
theorem Asks.founded {x : Course α} {run : Run α} (h : x.Asks .all run)
    (hgood : ∀ j a k es, x.Ends j a k es → P (before ++ es) a) : Founded before x P where
  finished j pre n p post hsplit := by
    have hmem : Event.finished n (.error p) ∈ x.events j := by simp [hsplit]
    exact absurd hmem (h.still j n _)
  answer := hgood

theorem founded_pure {a : α} (h : P before a) : Founded before (Pure.pure a) P :=
  (Asks.pure a).founded fun j b k es hb => by
    obtain ⟨rfl, -, rfl⟩ := ends_pure.1 hb
    rwa [List.append_nil]

/-- Courses that are founded may be put together: the second one is founded on the events of the
    first as well. -/
theorem Founded.bind {x : Course α} {next : α → Course β} {Q : List Event → β → Prop}
    (hx : Founded before x P)
    (hnext : ∀ a es, before ⊆ es → P es a → Founded es (next a) Q) :
    Founded before (x >>= next) Q where
  finished j pre n p post hsplit := by
    change x.followed next j = _ at hsplit
    rcases hstart : x.quiet.start j with ⟨e | a, k⟩
    · rw [followed_error hstart] at hsplit
      exact hx.finished j pre n p post hsplit
    · have hnext := hnext a _ (List.subset_append_left _ _)
        (hx.answer j a k _ (ends_of_start hstart))
      rw [followed_ok hstart, List.append_eq_append_iff] at hsplit
      rcases hsplit with ⟨mid, rfl, hrest⟩ | ⟨mid, hfirst, hrest⟩
      · -- The node is finished in the second course.
        rw [← List.append_assoc]
        exact hnext.finished k mid n p post hrest
      · cases mid with
        | nil =>
          rw [List.append_nil] at hfirst
          have := hnext.finished k [] n p post hrest.symm
          rwa [List.append_nil, hfirst] at this
        | cons e mid =>
          obtain ⟨rfl, rfl⟩ := List.cons.inj hrest
          exact hx.finished j pre n p mid hfirst
  answer j b k es hb := by
    obtain ⟨a, i, first, rest, hfirst, hrest, rfl⟩ := ends_bind.1 hb
    rw [← List.append_assoc]
    exact (hnext a _ (List.subset_append_left _ _) (hx.answer j a i first hfirst)).answer i b k rest
      hrest

/-- Items one after the other: what is good of one of them stays so. -/
theorem founded_forEach {f : α → Course β} {P : List Event → β → Prop}
    (hmono : ∀ es es' b, es ⊆ es' → P es b → P es' b)
    (h : ∀ a es, Founded es (f a) P) (as : List α) (before : List Event) :
    Founded before (forEach f as) fun es bs => ∀ b ∈ bs, P es b := by
  induction as generalizing before with
  | nil => exact founded_pure fun b hb => absurd hb List.not_mem_nil
  | cons a as ih =>
    refine (h a before).bind fun b es _ hb => (ih es).bind fun bs es' hsub hbs => founded_pure ?_
    exact List.forall_mem_cons.2 ⟨hmono es es' b hsub hb, hbs⟩

end Founded

end Intake.Course

namespace Intake.Build

open Intake.Schema Intake.Failure Intake.Course

/-! ### Fields -/

/-- The failures of an outcome were supplied. -/
def SuppliedOutcome (es : List Event) (o : Outcome) : Prop :=
  ∀ x ∈ o.failures, SuppliedEntry es x

/-- The payload of a node that failed was supplied. -/
def SuppliedResult (es : List Event) (r : Result × Tree) : Prop :=
  ∀ p, r.1 = .error p → Supplied es p

/-- The course of a builder is founded, whatever came before it. -/
def FoundedBuilder (c : Context) (build : BuilderCourse) : Prop :=
  ∀ before root? input, Founded before (build c root? input) SuppliedResult

theorem suppliedOutcome_clean {es : List Event} {o : Outcome} (h : o.failures = []) :
    SuppliedOutcome es o := by
  rw [SuppliedOutcome, h]
  exact fun x hx => absurd hx List.not_mem_nil

theorem suppliedOutcome_type {es : List Event} (f : Field) (v : Value) (message : String) :
    SuppliedOutcome es (.present f v [typeFailure f message]) := by
  intro x hx
  rw [List.mem_singleton.1 hx]
  exact suppliedEntry_field _ _ _

theorem suppliedOutcome_ofNode {es : List Event} {r : Result × Tree} (h : SuppliedResult es r)
    (f : Field) (v : Value) : SuppliedOutcome es (.ofNode f v r) := by
  obtain ⟨p | m, tree⟩ := r
  · intro x hx
    rw [List.mem_singleton.1 hx]
    exact suppliedEntry_nested (h p rfl)
  · exact suppliedOutcome_clean rfl

/-- The failures of the items of a list hold the payloads of their nodes. -/
theorem suppliedEntry_ofResults {es : List Event} {rs : List (Result × Tree)}
    (h : ∀ r ∈ rs, SuppliedResult es r) (field : String) (index : Nat) :
    ∀ x ∈ (Items.ofResults field index rs).failures, SuppliedEntry es x := by
  induction rs generalizing index with
  | nil => exact fun x hx => absurd hx List.not_mem_nil
  | cons r rs ih =>
    obtain ⟨hr, hrs⟩ := List.forall_mem_cons.1 h
    obtain ⟨p | m, tree⟩ := r
    · exact List.forall_mem_cons.2 ⟨suppliedEntry_nested (hr p rfl), ih hrs _⟩
    · exact ih hrs _

section Course

variable {c : Context} {n : Node} {f : Field} {s : Scope}

theorem founded_single {build : BuilderCourse} (h : FoundedBuilder c build) (hs : s.context = c)
    (before : List Event) (v : Value) :
    Founded before (singleCourse build f s v) SuppliedOutcome := by
  subst hs
  unfold singleCourse
  split
  · exact (h before _ _).bind fun r es _ hr => founded_pure (suppliedOutcome_ofNode hr f _)
  · exact founded_pure (suppliedOutcome_type _ _ _)

theorem founded_many {build : BuilderCourse} (h : FoundedBuilder c build) (hs : s.context = c)
    (before : List Event) (v : Value) :
    Founded before (manyCourse build f s v) SuppliedOutcome := by
  subst hs
  unfold manyCourse
  split
  · exact founded_pure (suppliedOutcome_type _ _ _)
  · refine (founded_forEach (fun _ _ r hsub hr p hp => (hr p hp).mono hsub)
      (fun input es => h es _ input) _ before).bind fun rs es _ hrs => founded_pure ?_
    exact suppliedEntry_ofResults hrs f.name 0

theorem founded_process {below : Option BelowCourse}
    (h : ∀ course, below = some course → ∀ before v,
      Founded before (course f s v) SuppliedOutcome) (before : List Event) (v : Value) :
    Founded before (processCourse n f below s v) SuppliedOutcome := by
  refine Founded.bind (P := fun es p => ∀ x ∈ p.2, SuppliedEntry es x)
    ((asks_checked n f v).founded fun j p k es hp => ?_) fun p es _ hp => ?_
  · exact fun x hx => (supplied_of_checked hp x hx).mono (List.subset_append_right _ _)
  · dsimp only
    split
    · exact founded_pure hp
    · cases below with
      | none => exact founded_pure (suppliedOutcome_clean rfl)
      | some course => exact h course rfl es p.1

theorem founded_field {below : Option BelowCourse}
    (h : ∀ course, below = some course → ∀ before v,
      Founded before (course f s v) SuppliedOutcome) (before : List Event) (fills : Fills) :
    Founded before (evaluateFieldCourse n f below s fills) fun es p => SuppliedOutcome es p.1 := by
  refine Founded.bind (P := fun _ _ => True)
    ((Asks.ofExcept .lookup (blocked?_unraised s f)).founded fun _ _ _ _ _ => trivial)
    fun blocked es _ _ => ?_
  cases blocked with
  | some path =>
    refine founded_pure fun x hx => ?_
    dsimp only [Outcome.skipped] at hx
    split at hx
    · rw [List.mem_singleton.1 hx]
      exact suppliedEntry_ofDependency _ _
    · cases hx
  | none =>
    refine Founded.bind (P := fun _ _ => True)
      ((asks_fill s f.admits_all fills).founded fun _ _ _ _ _ => trivial) fun p es' _ _ => ?_
    rcases p with ⟨_ | v, fills⟩
    · exact founded_pure (suppliedOutcome_clean rfl)
    · exact (founded_process h es' v).bind fun o _ _ ho => founded_pure ho

theorem founded_candidates {fs : List Field} {course : Field → FieldCourse}
    (h : ∀ f ∈ fs, ∀ before fills,
      Founded before (course f s fills) fun es p => SuppliedOutcome es p.1)
    (before : List Event) (fills : Fills) :
    Founded before (candidatesCourse s (fs.map course) fills) SuppliedOutcome := by
  induction fs generalizing before fills with
  | nil => exact founded_pure (suppliedOutcome_clean rfl)
  | cons f rest ih =>
    have hfirst := h f List.mem_cons_self before fills
    have ih := ih fun g hg => h g (List.mem_cons_of_mem f hg)
    cases rest with
    | nil => exact hfirst.bind fun p _ _ hp => founded_pure hp
    | cons g rest =>
      refine hfirst.bind fun p es _ hp => ?_
      dsimp only
      split
      · exact founded_pure hp
      · exact ih es p.2

/-! ### Nodes -/

/-- The failures of all outcomes were supplied. -/
def SuppliedOutcomes (es : List Event) (os : Outcomes) : Prop :=
  ∀ p ∈ os, SuppliedOutcome es p.2

theorem SuppliedOutcomes.of {es : List Event} {os : Outcomes} (h : SuppliedOutcomes es os)
    (e : Schema.Entry) : SuppliedOutcome es (os.of e) := by
  rw [Outcomes.of]
  cases ho : os.lookup e.name with
  | none => exact suppliedOutcome_clean rfl
  | some o => exact h _ (Check.mem_of_lookup ho)

/-- Entries evaluated one after the other, each founded on the events of the ones before it. -/
theorem founded_parts {root? : Option Tree} {es : List Schema.Entry}
    {course : Schema.Entry → EntryCourse}
    (h : ∀ e ∈ es, ∀ before s, s.context = c → Founded before (course e s) SuppliedOutcome)
    (before : List Event) (t : Tree) :
    Founded before (partsCourse c root? (es.map fun e => (e, course e)) t)
      fun evs p => SuppliedOutcomes evs p.1 := by
  induction es generalizing before t with
  | nil => exact founded_pure fun _ hp => absurd hp List.not_mem_nil
  | cons e rest ih =>
    refine (h e List.mem_cons_self before _ rfl).bind fun o evs _ ho => ?_
    refine (ih (fun e' he' => h e' (List.mem_cons_of_mem e he')) evs _).bind fun p evs' hsub hp => ?_
    refine founded_pure (List.forall_mem_cons.2 ⟨?_, hp⟩)
    exact fun x hx => (ho x hx).mono hsub

/-- Where a record is edited, a node is refused for names it does not declare. -/
theorem supplied_of_refusal {es : List Event} {t : Tree} {p : Payload}
    (h : refusal? n .edit t = some p) : Supplied es p := by
  obtain ⟨-, rfl⟩ | ⟨-, hne, -⟩ := refusal?_cases h
  · exact supplied_of_entries (by rintro _ ⟨⟩) fun x hx => absurd hx List.not_mem_nil
  · exact absurd rfl hne

theorem founded_evaluateNode (hc : c.mode = .edit) {course : Schema.Entry → EntryCourse}
    (h : ∀ e ∈ n.entries, ∀ before s, s.context = c → Founded before (course e s) SuppliedOutcome)
    (before : List Event) (root? : Option Tree) (t : Tree) :
    Founded before (evaluateNodeCourse n (n.entries.map fun e => (e, course e)) c root? t)
      SuppliedResult := by
  rw [evaluateNodeCourse, hc]
  cases hrefusal : refusal? n .edit t with
  | some p =>
    refine founded_pure fun q hq => ?_
    cases hq
    exact supplied_of_refusal hrefusal
  | none =>
    dsimp only
    rw [Slot.arrange_map]
    refine (founded_parts (fun e he => h e (Node.mem_evaluationOrder.1 he)) before t).bind
      fun p es _ hp => ?_
    refine Founded.bind (P := fun es rejected => SuppliedOutcomes es p.1 ∧
        ∀ xs ∈ rejected, ∀ x ∈ xs, SuppliedEntry es x)
      ((Asks.forEach (asks_rejections n _ p.1) n.entries).founded fun j rejected k evs hr => ?_)
      fun rejected es' _ hr => ?_
    · refine ⟨fun q hq x hx => (hp q hq x hx).mono (List.subset_append_left _ _), fun xs hxs => ?_⟩
      have hstart := hr.start
      rw [(Asks.forEach (p := .all) (asks_rejections n _ p.1) n.entries).quiet] at hstart
      obtain ⟨e, -, _, _, hrun⟩ := Run.exists_left (Run.forall₂_of_mapM hstart) xs hxs
      exact supplied_of_rejections _ hrun
    · refine Founded.bind (P := fun es result => SuppliedResult es (result, p.2))
        ((asks_settle n p.1 rejected).founded fun j result k evs hs q hq => ?_)
        fun result _ _ hresult => founded_pure hresult
      cases hq
      exact supplied_of_settle hs hr.1.of hr.2

theorem founded_finish {before : List Event} {result : Result}
    (h : ∀ p, result = .error p → Supplied before p) :
    Founded before (Course.finish n result) fun _ _ => True where
  finished j pre m p post hsplit := by
    -- The one event is that of the node itself.
    change [Event.finished n result] = _ at hsplit
    cases pre with
    | nil =>
      rw [List.append_nil]
      exact h p (Event.finished.inj (List.cons.inj hsplit).1).2
    | cons e pre => simp at hsplit
  answer _ _ _ _ _ := trivial

theorem founded_announce {before : List Event} {result : Result}
    (h : ∀ p, result = .error p → Supplied before p) :
    Founded before (announceCourse n c result) fun _ _ => True := by
  have htrace : ∀ event details, Founded before (traceCourse c event details) fun _ _ => True :=
    fun event details => (asks_trace trivial c event details).founded fun _ _ _ _ _ => trivial
  have hfinish : ∀ es, before ⊆ es → Founded es (Course.finish n result) fun _ _ => True :=
    fun es hsub => founded_finish fun p hp => (h p hp).mono hsub
  cases result with
  | error p => exact (htrace _ _).bind fun _ es hsub _ => hfinish es hsub
  | ok v => exact (htrace _ _).bind fun _ es hsub _ => hfinish es hsub

theorem founded_buildWith (hc : c.mode = .edit) {course : Schema.Entry → EntryCourse}
    (h : ∀ e ∈ n.entries, ∀ before s, s.context = c →
      Founded before (course e s) SuppliedOutcome) :
    FoundedBuilder c (buildWithCourse n (n.entries.map fun e => (e, course e))) := by
  intro before root? input
  refine Founded.bind (P := fun _ _ => True)
    ((Asks.ofExcept .names (Tree.read_unraised input)).founded fun _ _ _ _ _ => trivial)
    fun t es _ _ => ?_
  refine Founded.bind (P := fun _ _ => True)
    ((asks_trace trivial c _ _).founded fun _ _ _ _ _ => trivial) fun _ es _ _ => ?_
  refine (founded_evaluateNode hc h es root? t).bind fun r es _ hr => ?_
  exact (founded_announce hr).bind fun _ es hsub _ => founded_pure fun p hp => (hr p hp).mono hsub

/-- Where a record is edited, what is missing in the payload of a node was supplied. -/
theorem founded_node (hc : c.mode = .edit) (n : Node) : FoundedBuilder c (nodeCourse n) := by
  induction n using Node.below_induction with
  | h n ih =>
    -- The nodes below the fields are founded by induction, and with them the entries.
    rw [nodeCourse_eq]
    refine founded_buildWith hc fun e he before s hs => ?_
    rw [entryCourse_eq]
    refine founded_candidates (fun f hf before fills => ?_) before []
    have ih : ∀ m, f.child.node? = some m → FoundedBuilder c (nodeCourse m) :=
      ih f (Node.mem_fields he hf)
    rw [fieldCourse_eq]
    refine founded_field (fun course hcourse before v => ?_) before fills
    cases hchild : f.child with
    | none =>
      rw [hchild] at hcourse
      cases hcourse
    | single m =>
      rw [hchild] at hcourse
      cases hcourse
      exact founded_single (ih m (by rw [hchild]; rfl)) hs before v
    | many m =>
      rw [hchild] at hcourse
      cases hcourse
      exact founded_many (ih m (by rw [hchild]; rfl)) hs before v

theorem founded_build (hc : c.mode = .edit) (n : Node) (input : Value) :
    Founded [] (buildCourse n c input) fun es r => ∀ p, r.1 = .error p → Supplied es p := by
  have hother : ∀ message, Founded []
      (do Course.finish n (.error (.bad [.field n.name "type" message]))
          return (.error (.bad [.field n.name "type" message]), none) :
        Course (Result × Option Tree))
      fun es r => ∀ p, r.1 = .error p → Supplied es p := by
    intro message
    have hsupplied : ∀ es p, Except.error (.bad [.field n.name "type" message]) =
        (.error p : Result) → Supplied es p := by
      rintro es _ ⟨⟩
      refine supplied_of_entries (by rintro _ ⟨⟩) fun x hx => ?_
      rw [List.mem_singleton.1 hx]
      exact suppliedEntry_field _ _ _
    exact (founded_finish (hsupplied [])).bind fun _ es _ _ => founded_pure (hsupplied es)
  cases input with
  | map entries =>
    exact (founded_node hc n [] none entries).bind fun r es _ hr => founded_pure hr
  | _ => exact hother _

end Course

end Intake.Build
