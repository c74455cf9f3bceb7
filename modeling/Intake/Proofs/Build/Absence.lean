import Intake.Proofs.Build.Agreement
import Intake.Proofs.Build.Views

/-!
# Absent entries

What paths see of an entry that a node leaves absent. Only what is present is put into the tree, so
that under the name of an absent entry the tree holds what was sent, from the first step of the
build to the last (`Reported.get?_of_absent`). An absent entry was not sent, since a field that was
sent and is not filled ends a build at a closed gate. There is one exception: where an empty value
was sent and a generator answers null, the field is absent, but the tree keeps the empty value
(`Step.Blank`). All other absent entries are hidden from paths (`absent_hidden`).
-/

namespace Intake.Build

open Intake.Schema Intake.Failure

/-! ### Fields without a value -/

/-- A generated null is to replace the empty value that was sent for a field. It was answered to the
    field itself or to one that asks the same. -/
structure Blanked (s : Scope) (f : Field) : Prop where
  sent : ∃ w, s.tree.sent? f.name = some w ∧ w.isEmpty = true
  generated : ∃ a b u, f.auto = some a ∧ (b = a ∨ FillKey.sameAuto (some b) (some a) = true) ∧
    (∃ j k, (Run.generate b.generator b.argument).start j = (.ok u, k)) ∧ u.isNull = true

/-- A field that was sent is filled, unless its value is empty and null is generated for it. -/
theorem filled_none {s : Scope} {f : Field} {w : Value} {j k : Journal}
    (hsent : s.tree.sent? f.name = some w) (h : (filled s f).start j = (.ok none, k)) :
    w.isEmpty = true ∧ ∃ a u, f.auto = some a ∧
      (∃ i l, (Run.generate a.generator a.argument).start i = (.ok u, l)) ∧ u.isNull = true := by
  have hgiven : given s f = .ok (some w) := by
    rw [given]
    rw [hsent]
  rw [filled] at h
  rw [hgiven, Run.start_bind_eq_ok] at h
  obtain ⟨own, _, hown, h⟩ := h
  obtain ⟨heq, -⟩ := Run.start_ofExcept_eq_ok.1 hown
  cases heq
  cases hauto : f.auto with
  | none =>
    rw [hauto] at h
    cases h
  | some a =>
    rw [hauto] at h
    cases hempty : w.isEmpty with
    | false =>
      simp only [Option.any_some, hempty, Bool.not_false, if_true] at h
      cases h
    | true =>
      simp only [Option.any_some, hempty, Bool.not_true, Bool.false_eq_true, if_false,
        Run.start_bind_eq_ok, Run.start_pure] at h
      obtain ⟨u, _, hu, heq⟩ := h
      refine ⟨rfl, a, u, rfl, ⟨_, _, hu⟩, ?_⟩
      cases hnull : u.isNull with
      | true => rfl
      | false =>
        rw [hnull] at heq
        cases heq

theorem fill_none {s : Scope} {f : Field} {fills fills' : Fills} {j k : Journal}
    (hmade : fills.Made s f.name) (h : (fill s f fills).start j = (.ok (none, fills'), k)) :
    s.tree.sent? f.name = none ∨ Blanked s f := by
  cases hsent : s.tree.sent? f.name with
  | none => exact .inl rfl
  | some w =>
    right
    unfold fill at h
    dsimp only at h
    split at h
    · next key v hfind =>
      cases h
      -- The earlier fill was made for a field of the same name, with the same generator.
      obtain ⟨g, hname, rfl, _, _, hg⟩ := hmade _ (List.mem_of_find?_eq_some hfind)
      have hkey : (FillKey.ofField g).equals (FillKey.ofField f) = true := by
        simpa using List.find?_some hfind
      rw [FillKey.equals, Bool.and_eq_true] at hkey
      obtain ⟨hempty, b, u, hb, hu, hnull⟩ := filled_none (hname ▸ hsent) hg
      have hsame : FillKey.sameAuto (some b) f.auto = true := hb ▸ hkey.2
      cases hauto : f.auto with
      | none =>
        rw [hauto] at hsame
        cases hsame
      | some a =>
        rw [hauto] at hsame
        exact ⟨⟨w, hsent, hempty⟩, a, b, u, hauto, .inr hsame, hu, hnull⟩
    · simp only [Run.start_bind_eq_ok, Run.start_pure] at h
      obtain ⟨v, _, hv, heq⟩ := h
      cases heq
      obtain ⟨hempty, a, u, ha, hu, hnull⟩ := filled_none hsent hv
      exact ⟨⟨w, hsent, hempty⟩, a, a, u, ha, .inl rfl, hu, hnull⟩

/-- A field that is absent without a failure was not sent, or its empty value is to be replaced by a
    generated null. -/
theorem unsent_or_blanked {n : Node} {f : Field} {s : Scope} {fills fills' : Fills} {t : Trial}
    {j k : Journal} (hmade : fills.Made s f.name)
    (h : (reportField n f (childReporter f.child) s fills).start j = (.ok (t, fills'), k))
    (hclean : t.outcome.failures = []) (habsent : t.outcome.resolved = none) :
    s.tree.sent? f.name = none ∨ Blanked s f := by
  obtain ⟨-, -, ⟨path, -, -, houtcome, -⟩ | ⟨-, ⟨_, _, hfill⟩, ⟨hnone, -⟩ | ⟨_, -, hprocessed⟩⟩⟩ :=
    reportField_cases h
  · -- Behind a closed gate the field fails if it was sent.
    left
    rw [houtcome, Outcome.ofGate] at hclean
    cases hsent : s.tree.sent? f.name with
    | none => rfl
    | some w =>
      rw [hsent] at hclean
      cases hclean
  · rw [hnone] at hfill
    exact fill_none hmade hfill
  · have hpresent := hprocessed.present.1
    rw [habsent] at hpresent
    cases hpresent

/-- Of candidates, if there are any, one decides. -/
theorem exists_decisive {s : Scope} {reports : List FieldReporter} (hne : reports ≠ [])
    {fills : Fills} {ts : Trials} {j k : Journal}
    (h : (reportCandidates s reports fills).start j = (.ok ts, k)) :
    ∃ t, ts.decisive = some t := by
  induction reports generalizing fills ts j with
  | nil => exact absurd rfl hne
  | cons report reports ih =>
    obtain ⟨t, _, _, -, ⟨-, rfl, -⟩ | ⟨⟨-, hne⟩, us, hrest, rfl⟩⟩ :=
      reportCandidates_cons_eq_ok.1 h
    · exact ⟨t, rfl⟩
    · have hdecisive := ih hne hrest
      exact hdecisive

/-! ### What the tree holds for an absent entry -/

/-- Nothing is present under a name in a tree, so that every path that begins there leads to
    nothing. -/
structure Hides (t : Tree) (x : String) : Prop where
  unsent : t.sent? x = none
  unseen : ∀ segments, segments.head? = some x → Path.find segments t.toValue = .ok none

theorem hides_of_unsent {t : Tree} {x : String} (h : t.sent? x = none) : Hides t x := by
  refine ⟨h, fun segments hx => ?_⟩
  obtain ⟨rest, rfl⟩ := List.head?_eq_some_iff.1 hx
  rw [Path.find_cons_tree]
  rw [Tree.sent?, Option.filter_eq_none_iff] at h
  cases hv : t.get? x with
  | none => rfl
  | some v =>
    -- Only null stands under the name.
    cases v with
    | null => exact Path.find_null rest
    | _ => exact absurd rfl (h _ hv)

/-- The value that was sent for an absent entry is empty, and still stands in the tree: the null
    generated for the field that decided was to replace it. -/
structure Step.Blank (s : Step) (t : Tree) : Prop where
  decided : ∃ trial f, s.trials.decisive = some trial ∧ trial.field = f ∧ f ∈ s.entry.fields ∧
    Blanked trial.scope f
  kept : ∃ w, t.get? s.entry.name = some w ∧ w.isNull = false ∧ w.isEmpty = true

section Absent

variable {n : Node} {c : Context} {root? : Option Tree} {input : List (Value × Value)} {r : Report}
  {s : Step}

/-- While a node is built, the tree holds the same under the name of an absent entry all the time. -/
theorem Reported.get?_of_absent (hn : n.IsProper) (h : Reported n c root? input r)
    (hs : s ∈ r.steps) (habsent : s.outcome.resolved = none) {atRoot : Bool} {name : String}
    {here : Tree} (hshows : r.Shows atRoot name here) :
    here.get? s.entry.name = r.tree.get? s.entry.name := by
  have hkept : r.tree.get? s.entry.name = r.input.get? s.entry.name := by
    rw [h.get?_entry hn hs, habsent]
    rfl
  by_cases hpending : s.entry.name ∈ r.node.pendingAt atRoot name
  · rw [hshows.pending _ hpending, hkept]
  · exact hshows.settled _ hpending

/-- The trees that the fields of a node are tried at. -/
theorem Reported.shows_of_trial (hn : n.IsProper) (h : Reported n c root? input r)
    (hs : s ∈ r.steps) {t : Trial} (ht : t ∈ s.trials.all) :
    r.Shows root?.isNone s.entry.name t.scope.tree := by
  obtain ⟨-, -, ⟨_, _, here, htaken, hscope⟩, -⟩ := h.tried hn hs ht
  rw [hscope]
  exact htaken.shows hn h

/-- The root trees that fields are tried at, at the root and below. -/
theorem Reported.shows_root {s : Step} (hn : n.WellFormed) (h : Reported n c none input r)
    {q : Report} {t : Trial} (ht : r.Tries s q t) : r.Shows true s.entry.name t.scope.root := by
  cases ht with
  | here hs ht =>
    obtain ⟨-, -, ⟨_, _, here, htaken, hscope⟩, -⟩ := h.tried hn.proper hs ht
    rw [hscope]
    exact htaken.shows hn.proper h
  | below hs habove hs' ht =>
    obtain ⟨hentry, _, _, here, htaken⟩ := h.taken _ hs
    obtain ⟨f, hf, m, hm, k, hk, _, hq⟩ := habove.reported hn hentry htaken.trials
    have hproper : k.IsProper := hn.child (Node.mem_fields hentry hf) hm k hk
    obtain ⟨-, -, ⟨_, _, _, -, hscope⟩, -⟩ := hq.tried hproper hs' ht
    rw [hscope]
    exact htaken.shows hn.proper h

/-- An entry that is absent from a record was not sent, or it is blank. -/
theorem Reported.hidden_or_blank (hn : n.IsProper) (h : Reported n c root? input r) {v : Value}
    (hv : r.result = .ok v) (hs : s ∈ r.steps) (hfields : s.entry.fields ≠ [])
    (habsent : s.outcome.resolved = none) : Hides r.tree s.entry.name ∨ s.Blank r.tree := by
  obtain ⟨hentry, _, _, here, htaken⟩ := h.taken s hs
  obtain ⟨_, _, htrials⟩ := htaken.trials
  have hname := hn.name_of_mem _ hentry
  obtain ⟨t, ht⟩ : ∃ t, s.trials.decisive = some t := by
    rw [reportEntry_eq] at htrials
    exact exists_decisive (by simpa using hfields) htrials
  have houtcome : s.outcome = t.outcome := Trials.outcome_of_decisive ht
  obtain ⟨f, hf, fills, hmade, _, _, _, hfield⟩ :=
    mem_trials hname htrials t (Trials.mem_all_of_decisive ht)
  obtain ⟨hof, hscope, -⟩ := reportField_cases hfield
  rw [← hname f hf] at hmade
  have hclean := (h.clean hn hv).failures s hs
  rw [houtcome] at hclean
  have hkept := h.get?_of_absent hn hs habsent (htaken.shows hn h)
  have hsent : r.tree.sent? s.entry.name = here.sent? s.entry.name := Tree.sent?_congr hkept.symm
  rw [houtcome] at habsent
  rcases unsent_or_blanked hmade hfield hclean habsent with hunsent | hblanked
  · left
    refine hides_of_unsent ?_
    rw [hsent, ← hname f hf]
    exact hunsent
  · right
    refine ⟨⟨t, f, ht, hof, hf, hscope ▸ hblanked⟩, ?_⟩
    obtain ⟨w, hw, hempty⟩ := hblanked.sent
    rw [hname f hf] at hw
    obtain ⟨hw, hnull⟩ := Option.filter_eq_some_iff.1 (hsent.trans hw)
    exact ⟨w, hw, by simpa using hnull, hempty⟩

end Absent

/-- In a node that has a record, nothing is present in the tree under the name of an absent entry, so
    that no path sees there what the record does not have; the exception is a blank entry, whose
    empty value is still there. No path ever saw anything else under such a name: while the node was
    built, the tree held the same there, and the trees of the root did so for the nodes below. -/
theorem absent_hidden {n : Node} (hn : n.WellFormed) (hfields : ∀ e ∈ n.entries, e.fields ≠ [])
    {c : Context} {root? : Option Tree} {input : List (Value × Value)} {v : Value} {tree : Tree}
    {j k : Journal} (h : (nodeBuilder n c root? input).start j = (.ok (.ok v, tree), k)) :
    ∃ r, (nodeReport n c root? input).start j = (.ok r, k) ∧ r.result = .ok v ∧ r.tree = tree ∧
      (r.steps.map Step.entry).Perm n.entries ∧
      ∀ s ∈ r.steps, s.outcome.resolved = none →
        (Hides tree s.entry.name ∨ s.Blank tree) ∧
        (n.main = none → ∃ values, v = .record n.name values ∧
          values.lookup s.entry.name = some (s.entry.default.getD .null)) ∧
        (∀ s' ∈ r.steps, ∀ t ∈ s'.trials.all,
          t.scope.tree.get? s.entry.name = tree.get? s.entry.name) ∧
        (root? = none → ∀ s' q t, r.Tries s' q t →
          t.scope.root.get? s.entry.name = tree.get? s.entry.name) := by
  obtain ⟨r, hrun, hresult, rfl⟩ := exists_reported h
  have hr : Reported n c root? input r := ⟨_, _, hrun⟩
  obtain ⟨-, -, hevaluated⟩ := hr.evaluated hresult
  refine ⟨r, hrun, hresult, rfl, hevaluated.entries_perm, fun s hs habsent => ?_⟩
  have hentry := hevaluated.mem_entries hs
  refine ⟨hr.hidden_or_blank hn.proper hresult hs (hfields _ hentry) habsent, fun hmain => ?_,
    fun s' hs' t ht => hr.get?_of_absent hn.proper hs habsent (hr.shows_of_trial hn.proper hs' ht), ?_⟩
  · exact ⟨_, hr.record hn.proper hmain hresult, (hr.agrees hn.proper hresult).absent s hs habsent⟩
  · rintro rfl s' q t htries
    exact hr.get?_of_absent hn.proper hs habsent (hr.shows_root hn htries)

/-! ### A contact -/

/-- A contact: a nickname, for which null is generated, and an alias, which is copied from it. -/
def contactCard : Node :=
  plainNode "Contact"
    [.field { plainField "nick" with auto := some ⟨⟨"g", fun _ _ => .null⟩, none⟩ },
     .field { plainField "alias" with source := some "nick" }]

/-- A contact with an empty nickname. -/
def emptyNick : List (Value × Value) :=
  [(.text "nick", .text "")]

theorem contactCard_wellFormed : contactCard.WellFormed :=
  Node.forall_spans_of_leaf rfl
    ⟨by decide, by simp [contactCard, plainNode, plainField, Entry.fields, Entry.name]⟩

theorem contactCard_hidden : ∃ v tree k r,
    (nodeBuilder contactCard ⟨.create, false⟩ none emptyNick).start .empty = (.ok (.ok v, tree), k) ∧
      (nodeReport contactCard ⟨.create, false⟩ none emptyNick).start .empty = (.ok r, k) ∧
      r.tree = tree ∧
      ∀ s ∈ r.steps, s.outcome.resolved = none → Hides tree s.entry.name ∨ s.Blank tree := by
  obtain ⟨v, tree, k, h⟩ := exists_of_isAccepted
    (show isAccepted ((nodeBuilder contactCard ⟨.create, false⟩ none emptyNick).start .empty).1 = true
      by decide +kernel)
  obtain ⟨r, hrun, -, htree, -, hhidden⟩ :=
    absent_hidden contactCard_wellFormed (by simp [contactCard, plainNode, Entry.fields]) h
  exact ⟨v, tree, k, r, h, hrun, htree, fun s hs habsent => (hhidden s hs habsent).1⟩

/-- The names of the entries that are absent while something is present for them in the tree. -/
def Report.blankNames (r : Report) : List String :=
  (r.steps.filter fun s =>
    s.outcome.resolved.isNone && (r.tree.sent? s.entry.name).isSome).map (·.entry.name)

theorem Report.mem_blankNames {r : Report} {x : String} (h : x ∈ r.blankNames) :
    (∃ s ∈ r.steps, s.entry.name = x ∧ s.outcome.resolved = none) ∧ ¬Hides r.tree x := by
  obtain ⟨s, hs, rfl⟩ := List.mem_map.1 h
  obtain ⟨hs, hblank⟩ := List.mem_filter.1 hs
  rw [Bool.and_eq_true, Option.isNone_iff_eq_none] at hblank
  refine ⟨⟨s, hs, rfl, hblank.1⟩, fun hhides => ?_⟩
  rw [hhides.unsent] at hblank
  exact Bool.false_ne_true hblank.2

/-- The nickname is absent from the record, but not hidden: the alias is copied from it. -/
theorem contactCard_nick_seen : ∃ v tree k r,
    (nodeBuilder contactCard ⟨.create, false⟩ none emptyNick).start .empty = (.ok (.ok v, tree), k) ∧
      (nodeReport contactCard ⟨.create, false⟩ none emptyNick).start .empty = (.ok r, k) ∧
      r.tree = tree ∧ (∃ s ∈ r.steps, s.entry.name = "nick" ∧ s.outcome.resolved = none) ∧
      ¬Hides tree "nick" ∧ resolvedText? "alias" (.ok (.ok v, some tree)) = some "" := by
  obtain ⟨v, tree, k, h⟩ := exists_of_isAccepted
    (show isAccepted ((nodeBuilder contactCard ⟨.create, false⟩ none emptyNick).start .empty).1 = true
      by decide +kernel)
  obtain ⟨r, hrun, -, rfl⟩ := exists_reported h
  have hnames : ((nodeReport contactCard ⟨.create, false⟩ none emptyNick).start .empty).1.toOption.map
      Report.blankNames = some ["nick"] := by decide +kernel
  have halias : ((nodeBuilder contactCard ⟨.create, false⟩ none emptyNick).start .empty).1.toOption.bind
      (fun p => resolvedText? "alias" (.ok (p.1, some p.2))) = some "" := by decide +kernel
  rw [hrun] at hnames
  rw [h] at halias
  have hmem : "nick" ∈ r.blankNames := by
    rw [Option.some_inj.1 hnames]
    exact List.mem_singleton_self _
  obtain ⟨habsent, hseen⟩ := Report.mem_blankNames hmem
  exact ⟨v, r.tree, k, r, h, hrun, rfl, habsent, hseen, halias⟩

end Intake.Build
