import Intake.Proofs.Build.Copies
import Intake.Proofs.Build.Results
import Intake.Proofs.Check.Standard
import Intake.Proofs.Domain
import Intake.Proofs.Failure.Shape

/-!
# Failures of builds

Where functions of the user give no payloads of their own, the payload that a build fails with is of
the shape of the schema (`payload_fits`): the failures of a node stand in the order in which its
entries are declared, whatever the order of their evaluation was, and the payload of a node below
stands under the field that declares this node.

A step fails with what decided for its entry (`Reported.fitEntry`), and a node with the failures of
its steps (`Reported.fits`); the nodes below come first, by induction on the schema.
-/

namespace Intake.Build

open Intake.Schema Intake.Failure

/-- The functions of the user that a node calls give no payloads: neither the main validator nor the
    functions that the rules of its fields refer to. -/
structure IsPayloadFree (n : Node) : Prop where
  main : ∀ g, n.main = some (.call g) → Check.GivesNoPayload g
  rule : ∀ f ∈ n.fields, ∀ d ∈ f.rule.directives "validate", Check.IsPayloadFree n.functions d

/-! ### Fields -/

section Field

variable {n : Node} {f : Field} {v w : Value} {es : List Failure.Entry} {j k : Journal}

/-- The failures that a validator finds are about the field. -/
theorem validate_fields (h : (validate n f v).start j = (.ok (w, es), k)) :
    ∀ e ∈ es, ∃ action message, e = .field f.name action message := by
  rw [validate] at h
  split at h
  · cases h
    exact fun e he => absurd he List.not_mem_nil
  · cases h
  · simp only [Run.start_bind_eq_ok, Run.start_ofExcept_eq_ok] at h
    obtain ⟨_, _, -, r, _, -, hvalidated, -⟩ := h
    unfold validated at hvalidated
    split at hvalidated <;> cases hvalidated
    · exact fun e he => absurd he List.not_mem_nil
    · exact fun e he => ⟨_, _, List.mem_singleton.1 he⟩

/-- The failures that the rule and the validator of a field find are about the field. -/
theorem checked_fields (hn : IsPayloadFree n) (hf : f ∈ n.fields)
    (h : (checked n f v).start j = (.ok (w, es), k)) :
    ∀ e ∈ es, ∃ action message, e = .field f.name action message := by
  rw [checked, Check.runRule] at h
  simp only [bind_assoc, Run.start_bind_eq_ok, Run.start_ofExcept_eq_ok] at h
  obtain ⟨cleaned, _, -, ⟨u, found⟩, _, hstage, h⟩ := h
  dsimp only at h
  split at h
  · exact validate_fields h
  · cases h
    exact Check.runStage_fields (hn.rule f hf) hstage

/-- The failures of items are the payloads of those that failed, by growing index. -/
theorem exists_items (P : Payload → Prop) (field : String) {rs : List (Result × Tree)}
    (hrs : ∀ r ∈ rs, ∀ p, r.1 = .error p → P p) (index : Nat) :
    ∃ items : List (Nat × Payload),
      (Items.ofResults field index rs).failures =
          items.map (fun item => .nested field item.2 (some item.1)) ∧
        (items.map Prod.fst).Pairwise (· < ·) ∧ ∀ item ∈ items, index ≤ item.1 ∧ P item.2 := by
  induction rs generalizing index with
  | nil => exact ⟨[], rfl, .nil, fun _ h => absurd h List.not_mem_nil⟩
  | cons r rs ih =>
    obtain ⟨items, hfailures, hpairwise, hitems⟩ :=
      ih (fun r hr => hrs r (List.mem_cons_of_mem _ hr)) (index + 1)
    obtain ⟨_ | m, tree⟩ := r
    · next p =>
      refine ⟨(index, p) :: items, ?_, ?_, ?_⟩
      · simp only [Items.ofResults, Items.cons, hfailures, List.map_cons]
      · rw [List.map_cons, List.pairwise_cons]
        refine ⟨fun i hi => ?_, hpairwise⟩
        obtain ⟨item, hitem, rfl⟩ := List.mem_map.1 hi
        exact (hitems item hitem).1
      · intro item hitem
        rcases List.mem_cons.1 hitem with rfl | hitem
        · exact ⟨le_rfl, hrs _ List.mem_cons_self p rfl⟩
        · exact ⟨(Nat.le_succ index).trans (hitems item hitem).1, (hitems item hitem).2⟩
    · refine ⟨items, ?_, hpairwise, fun item hitem => ?_⟩
      · simp only [Items.ofResults, Items.cons, hfailures]
      · exact ⟨(Nat.le_succ index).trans (hitems item hitem).1, (hitems item hitem).2⟩

end Field

/-! ### Entries -/

section Entry

variable {n : Node} {e : Schema.Entry} {f : Field} {s : Scope} {o : Outcome} {rs : List Report}

/-- What a field that was worked on fails with is of the shape of its entry, if the payloads of the
    nodes below are of the shape of these. -/
theorem Processed.fitEntry {v : Value} (h : Processed n f s v o rs) (hn : IsPayloadFree n)
    (hmem : f ∈ n.fields) (hf : f ∈ e.fields) (hname : f.name = e.name)
    (hbelow : ∀ m, f.child.node? = some m → ∀ r ∈ rs, ∀ p, r.result = .error p → p.Fits m) :
    FitEntry e o.failures := by
  cases h with
  | rejected hchecked => exact .field (hname ▸ checked_fields hn hmem hchecked)
  | plain => exact .nil e
  | @mistyped w m message =>
    refine .field fun x hx => ⟨"type", message, ?_⟩
    rw [← hname]
    exact List.mem_singleton.1 hx
  | @single w m input r _ _ _ hm _ hr =>
    rw [Report.summary]
    cases hresult : r.result with
    | ok a => exact .nil e
    | error p =>
      have hp := hbelow m (by rw [hm]; rfl) r (List.mem_singleton_self r) p hresult
      rw [Outcome.ofNode, hname]
      exact .single hf hm hp
  | @many w m maps _ _ _ _ hm _ hus =>
    have hm' : f.child.node? = some m := by rw [hm]; rfl
    have hfails : ∀ x ∈ rs.map Report.summary, ∀ p, x.1 = .error p → p.Fits m := by
      intro x hx p hp
      obtain ⟨u, hu, rfl⟩ := List.mem_map.1 hx
      exact hbelow m hm' u hu p hp
    obtain ⟨items, hitems, hpairwise, hfit⟩ := exists_items (·.Fits m) f.name hfails 0
    rw [Outcome.ofItems, hitems, hname]
    exact .many hf hm hpairwise fun item hitem => (hfit item hitem).2

theorem Tried.fitEntry (h : Tried n f s o rs) (hn : IsPayloadFree n) (hmem : f ∈ n.fields)
    (hf : f ∈ e.fields) (hname : f.name = e.name)
    (hbelow : ∀ m, f.child.node? = some m → ∀ r ∈ rs, ∀ p, r.result = .error p → p.Fits m) :
    FitEntry e o.failures := by
  cases h with
  | @gated path hpath =>
    -- A field that was not sent is passed over without a failure.
    rw [Outcome.ofGate, Outcome.skipped, hname]
    split
    · exact .gate hf hpath
    · exact .nil e
  | absent => exact .nil e
  | processed h => exact h.fitEntry hn hmem hf hname hbelow

end Entry

section Reported

variable {n : Node} {c : Context} {root? : Option Tree} {input : List (Value × Value)} {r : Report}
  {s : Step}

/-- What a step fails with is of the shape of its entry. -/
theorem Reported.fitEntry (h : Reported n c root? input r) (hn : n.IsProper)
    (hfree : IsPayloadFree n) (hs : s ∈ r.steps)
    (hbelow : ∀ f ∈ n.fields, ∀ m, f.child.node? = some m → ∀ root? input u,
      Reported m c root? input u → ∀ p, u.result = .error p → p.Fits m) :
    FitEntry s.entry s.outcome.failures := by
  rcases hdecisive : s.trials.decisive with _ | t
  · rw [Step.outcome, Trials.outcome, hdecisive]
    exact .nil _
  · obtain ⟨hentry, hf, houtcome, here, htried⟩ := h.decided hn hs hdecisive
    have hmem := Node.mem_fields hentry hf
    rw [← houtcome]
    refine htried.fitEntry hfree hmem hf (hn.name_of_mem _ hentry _ hf) fun m hm u hu p hp => ?_
    obtain ⟨m', hm', input', hreported⟩ := htried.reported u hu
    obtain rfl : m = m' := Option.some_inj.1 (hm.symm.trans hm')
    exact hbelow _ hmem m hm _ _ u hreported p hp

/-- What the clauses of a step fail with is about clauses of a field of its entry. -/
theorem Reported.fitClauses (h : Reported n c root? input r) (hn : n.IsProper) (hs : s ∈ r.steps)
    {functions : Functions} {lookup : Domain.Lookup} {es : List Failure.Entry} {j k : Journal}
    (hpresent : s.outcome.resolved.isSome = true)
    (hrun : (Domain.evaluate functions lookup s.entry.name s.outcome.clauses).start j =
      (.ok es, k)) : FitClauses s.entry es := by
  obtain ⟨w, hw⟩ := Option.isSome_iff_exists.1 hpresent
  obtain ⟨t, ht⟩ := Trials.decisive_of_resolved hw
  obtain ⟨-, hf, houtcome, _, htried⟩ := h.decided hn hs ht
  rw [← houtcome] at hw hrun
  obtain ⟨v, hprocessed⟩ := htried.exists_processed hw
  rw [hprocessed.present.2] at hrun
  intro x hx
  obtain ⟨cl, hcl, missing, rfl⟩ := Domain.ofDomain_of_evaluate hrun x hx
  exact ⟨t.field, hf, cl, hcl, missing, rfl⟩

end Reported

/-! ### Nodes -/

/-- What a node is refused with is of its shape. -/
theorem fits_of_refusal? {n : Node} {mode : Mode} {t : Tree} {p : Payload}
    (h : refusal? n mode t = some p) : p.Fits n := by
  obtain ⟨hne, rfl⟩ | ⟨-, hne, rfl⟩ := refusal?_cases h
  · by_cases hclosed : n.closed = true
    · refine .authorized hclosed hne fun x hx => ?_
      rw [unknownNames, if_pos hclosed] at hx
      simpa using (List.mem_filter.1 hx).2
    · exact absurd (by rw [unknownNames, if_neg hclosed]) hne
  · refine .required hne ?_
    unfold missingNames
    split
    · exact List.filter_sublist
    · exact List.nil_sublist _

/-- A main validator that gives no payloads refuses the values with a message. -/
theorem fits_of_runMain {n : Node} (hn : IsPayloadFree n) {values : Tree} {p : Payload}
    {j k : Journal} (h : (runMain n values).start j = (.ok (.error p), k)) : p.Fits n := by
  rw [runMain] at h
  split at h
  · cases h
  · cases h
  · next g hg =>
    simp only [Run.start_bind_eq_ok, Run.start_ofExcept_eq_ok] at h
    obtain ⟨_, _, -, r, _, hreply, hanswer, -⟩ := h
    unfold mainAnswer at hanswer
    split at hanswer <;> cases hanswer
    · exact .main (by rw [hg]; rfl)
    · -- The reply would be a payload.
      refine absurd ?_ (hn.main g hg values.toValue p)
      cases hvalue : g values.toValue with
      | error e =>
        rw [hvalue] at hreply
        cases hreply
      | ok r =>
        rw [hvalue] at hreply
        cases hreply
        rfl

/-- The payload of a node is of its shape, if those of the nodes below are of the shape of these. -/
theorem Reported.fits_of_below {n : Node} (hn : n.IsProper) (hfree : IsPayloadFree n) {c : Context}
    {root? : Option Tree} {input : List (Value × Value)} {r : Report}
    (h : Reported n c root? input r)
    (hbelow : ∀ f ∈ n.fields, ∀ m, f.child.node? = some m → ∀ root? input u,
      Reported m c root? input u → ∀ p, u.result = .error p → p.Fits m)
    {p : Payload} (hp : r.result = .error p) : p.Fits n := by
  obtain ⟨-, -, ⟨p', hrefusal, hrefused⟩ | ⟨-, hevaluated⟩⟩ := h.cases
  · rw [hrefused] at hp
    cases hp
    exact fits_of_refusal? hrefusal
  have hnodup := hevaluated.nodup_names hn
  obtain ⟨_, _, hrejected⟩ := hevaluated.rejected
  obtain ⟨_, _, hresult⟩ := hevaluated.result
  rw [hp] at hresult
  obtain ⟨p', haggregate, heq⟩ | ⟨-, _, _, _, hmain, ⟨p', rfl, heq⟩ | ⟨_, _, -, -, heq⟩⟩ :=
    settle_cases hresult
  · cases heq
    obtain ⟨hentries, hne⟩ := aggregate_eq_some haggregate
    obtain ⟨rejections, hmap, hrejections⟩ :=
      Run.exists_map (Run.forall₂_of_mapM hrejected) (List.Nodup.of_map _ hn.nodup)
    rw [failuresOf, hmap, ← List.flatMap_def] at hentries hne
    refine .collected hentries (by rwa [Payload.entries, hentries]) (fun e he => ?_)
      fun e he => ?_
    · obtain ⟨s, hs, rfl⟩ := hevaluated.exists_step he
      rw [outcomes_of hnodup hs]
      exact h.fitEntry hn hfree hs hbelow
    · obtain ⟨s, hs, rfl⟩ := hevaluated.exists_step he
      obtain ⟨_, _, hrun⟩ := hrejections s.entry he
      rw [rejectionsOf] at hrun
      rw [outcomes_of hnodup hs] at hrun
      split at hrun
      · next hpresent => exact h.fitClauses hn hs hpresent hrun
      · rw [← Except.ok.inj (congrArg Prod.fst hrun)]
        exact fun x hx => absurd hx List.not_mem_nil
  · cases heq
    exact fits_of_runMain hfree hmain
  · cases heq

/-- The payload of a node is of its shape. -/
theorem Reported.fits {n : Node} (hn : n.WellFormed) (hfree : ∀ m, n.Spans m → IsPayloadFree m)
    {c : Context} {root? : Option Tree} {input : List (Value × Value)} {r : Report}
    (h : Reported n c root? input r) {p : Payload} (hp : r.result = .error p) : p.Fits n := by
  induction n using Node.below_induction generalizing root? input r p with
  | h n ih =>
    refine h.fits_of_below hn.proper (hfree n (.self n)) (fun f hf m hm _ _ u hu p hp => ?_) hp
    exact ih f hf m hm (hn.child hf hm) (fun k hk => hfree k (.child hf hm hk)) hu hp

/-- A build of a map fails with a payload of the shape of the schema. Any other input is a failure of
    type of the schema itself. -/
theorem payload_fits {n : Node} (hn : n.WellFormed) (hfree : ∀ m, n.Spans m → IsPayloadFree m)
    {c : Context} {input : Value} {p : Payload} {tree : Option Tree} {j k : Journal}
    (h : (build n c input).start j = (.ok (.error p, tree), k)) :
    (∃ es, input = .map es ∧ p.Fits n) ∨
      (∀ es, input ≠ .map es) ∧
        p = .bad [.field n.name "type" ("Expected map, got " ++ input.typeName)] := by
  by_cases hmap : ∃ es, input = .map es
  · obtain ⟨es, rfl⟩ := hmap
    obtain ⟨r, hrun, hresult, -⟩ := exists_reported_of_build h
    exact .inl ⟨es, rfl, Reported.fits hn hfree ⟨_, _, hrun⟩ hresult⟩
  · have hinput := not_exists.1 hmap
    exact .inr ⟨hinput, Except.error.inj (result_of_not_map hinput h)⟩

/-! ### A cart -/

/-- Pens are all that is known. -/
def isKnown : Function := fun v => .ok (.plain (.bool (v.equals (.text "pen"))))

/-- An item of a cart: its name, which has to be known. -/
def cartItem : Node :=
  { plainNode "Item" [.field { plainField "name" with
      rule := [("validate", [⟨"custom", .function ⟨"known", none⟩⟩])] }] with
    functions := [("known", .call isKnown)] }

/-- A cart: a coupon, which depends on an account, and the items. -/
def cart : Node :=
  plainNode "Cart"
    [.field { plainField "coupon" with gate := some "account" },
     .field { plainField "items" with child := .many cartItem }]

/-- A cart with a coupon, a known item and an unknown one. -/
def cartInput : Value :=
  .map [(.text "items", .list [.map [(.text "name", .text "pen")], .map [(.text "name", .text "ink")]]),
    (.text "coupon", .text "spring")]

theorem cart_wellFormed : cart.WellFormed :=
  Node.forall_spans_of_child rfl rfl ⟨by decide, by simp [cart, plainNode, Entry.fields, Entry.name]⟩
    ⟨by decide, by simp [cartItem, plainNode, Entry.fields, Entry.name]⟩

theorem isKnown_givesNoPayload : Check.GivesNoPayload isKnown := by
  intro v p h
  cases h

theorem cart_isPayloadFree : ∀ m, cart.Spans m → IsPayloadFree m := by
  refine Node.forall_spans_of_child rfl rfl ⟨?_, ?_⟩ ⟨?_, ?_⟩
  · rintro g ⟨⟩
  · simp [cart, plainNode, plainField, Node.fields, Entry.fields, Rule.Stages.directives]
  · rintro g ⟨⟩
  · -- The only function of the table gives no payload.
    intro f hf d hd _ ref href g hg
    obtain ⟨key, hkey⟩ := Check.mem_of_resolve? hg
    cases List.mem_singleton.1 hkey
    exact isKnown_givesNoPayload

theorem cart_payload_fits : ∃ p tree k,
    (build cart ⟨.create, false⟩ cartInput).start .empty = (.ok (.error p, tree), k) ∧
      p.Fits cart := by
  obtain ⟨⟨result, tree⟩, k, h⟩ := Run.exists_of_isOk
    (show ((build cart ⟨.create, false⟩ cartInput).start .empty).1.isOk = true by decide +kernel)
  have hrefused : isAccepted ((build cart ⟨.create, false⟩ cartInput).start .empty).1 = false := by
    decide +kernel
  rw [h] at hrefused
  cases result with
  | ok v => cases hrefused
  | error p =>
    obtain ⟨es, -, hfits⟩ | ⟨hmap, -⟩ := payload_fits cart_wellFormed cart_isPayloadFree h
    · exact ⟨p, tree, k, h, hfits⟩
    · exact absurd rfl (hmap _)

end Intake.Build
