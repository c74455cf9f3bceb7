import Intake.Proofs.Build.Absence
import Intake.Proofs.Build.Editing
import Intake.Proofs.Build.Gates
import Intake.Proofs.Build.Reordering
import Intake.Proofs.Text

/-!
# Finished trees that are built again

The resolved tree of a record is an input as well, and building it again gives the same record and
the same tree (`build_again`). In the second build all that the first one resolved is sent: copied
values, cleaned ones, and the trees of the nodes below. Each entry is evaluated to what it was
(`Reported.entry_again`), so that the tree stays as it is from the first step to the last one.

* What was present is sent, cleaned to itself, and passes its checks again (`checked_again`); the
  nodes below are built again by induction (`Processed.again`).
* What was absent was not sent, and is not copied: what its path leads to in the finished tree is
  what it led to while the first build ran (`Reported.given_again`).

This needs that cleaning twice is cleaning once, that nothing is asked of the user, and that paths
below the root stay in their nodes (`IsRepeatable`).
-/

namespace Intake

/-- A tree as the entries of a map. -/
def Tree.entries (t : Tree) : List (Value × Value) :=
  t.map fun e => (.text e.1, e.2)

namespace Tree

variable {t : Tree} {name : String} {v : Value}

/-- What stands under a name already is put there in vain. -/
theorem put_of_get? (h : t.get? name = some v) : t.put name v = t := by
  induction t with
  | nil => cases h
  | cons e rest ih =>
    rw [get?_cons] at h
    rw [put]
    by_cases hname : name = e.1
    · rw [if_pos hname] at h
      cases h
      rw [if_pos (beq_iff_eq.2 hname.symm), hname]
    · rw [if_neg hname] at h
      rw [if_neg (by simpa using Ne.symm hname), ih h]

theorem put_of_notMem (h : name ∉ t.names) (v : Value) : t.put name v = t ++ [(name, v)] := by
  induction t with
  | nil => rfl
  | cons e rest ih =>
    rw [names_cons, List.mem_cons, not_or] at h
    rw [put, if_neg (by simpa using Ne.symm h.1), ih h.2]
    rfl

/-- Entries with names of their own are put one behind the other. -/
theorem foldl_put_entries (u : Tree) (h : (t ++ u).names.Nodup) :
    u.entries.foldl (fun t e => t.put (nameOf e.1) e.2) t = t ++ u := by
  induction u generalizing t with
  | nil => simp [entries]
  | cons e rest ih =>
    have hname : e.1 ∉ t.names := by
      rw [names, List.map_append, List.map_cons, List.nodup_append] at h
      exact fun hmem => h.2.2 _ hmem _ List.mem_cons_self rfl
    have hput : t.put (nameOf (.text e.1)) e.2 = t ++ [e] := put_of_notMem hname e.2
    rw [entries, List.map_cons, List.foldl_cons, hput]
    rw [List.append_cons] at h
    have hrest := ih h
    rwa [List.append_assoc] at hrest

/-- A tree is read from its own entries. -/
theorem read_entries (h : t.names.Nodup) : read t.entries = .ok t := by
  have hlong : t.entries.any (·.1.isTooLong) = false := by
    rw [entries, List.any_map, List.any_eq_false]
    exact fun e _ => Bool.false_ne_true
  rw [read, hlong]
  exact congrArg Except.ok (foldl_put_entries t h)

end Tree

/-! ### Cleaning -/

namespace Sanitize

open Rule

theorem filter_isNull {f : Markup.Filter} {v w : Value} (h : filter f v = .ok w) :
    w.isNull = v.isNull := by
  cases v with
  | text s =>
    rw [filter.eq_def] at h
    dsimp only at h
    cases hs : f.apply s.toList with
    | error e =>
      rw [hs] at h
      cases h
    | ok r =>
      rw [hs] at h
      cases h
      rfl
  | _ =>
    cases h
    rfl

theorem apply_isNull {d : Directive} {v w : Value} (h : apply d v = .ok w) :
    w.isNull = v.isNull := by
  rw [apply.eq_def] at h
  split at h
  · split at h
    · cases h
      rfl
    · exact filter_isNull h
    · cases h
      rfl
  · split at h
    · split at h
      · exact filter_isNull h
      · cases h
        rfl
    · cases h
      rfl

/-- Cleaning makes no null of a value. -/
theorem run_isNull {ds : List Directive} {v w : Value} (h : run ds v = .ok w) :
    w.isNull = v.isNull := by
  induction ds generalizing v with
  | nil =>
    cases h
    rfl
  | cons d ds ih =>
    rw [run, List.foldlM_cons] at h
    cases hd : apply d v with
    | error e =>
      rw [hd] at h
      cases h
    | ok u =>
      rw [hd] at h
      rw [ih h, apply_isNull hd]

/-- Cleaning a value that was cleaned already changes nothing. -/
def IsIdempotent (ds : List Directive) : Prop :=
  ∀ v w, run ds v = .ok w → run ds w = .ok w

end Sanitize

namespace Build

open Schema Failure

/-! ### Schemas that build their trees again -/

/-- A node, at the root or below it, that builds its finished trees again: its entries are fields;
    nothing is asked of the user, and no gate of the tree; fields with nodes below have no rules, and
    what cleans the others does so at once; and below the root all paths are relative. -/
structure IsRepeatable (atRoot : Bool) (n : Node) : Prop where
  proper : n.IsProper
  plain : IsPlain n
  fields : ∀ e ∈ n.entries, ∃ f, e = .field f
  ungated : IsUngated n
  ungenerated : ∀ f ∈ n.fields, f.auto = none
  unruled : ∀ f ∈ n.fields, f.isComposite = true → f.rule = []
  idempotent : ∀ f ∈ n.fields, Sanitize.IsIdempotent (f.rule.directives "sanitize")
  acyclic : n.IsAcyclic atRoot
  named : ∀ f ∈ n.fields, ∀ path, f.copied? = some path →
    ∃ x, (Path.ofString path).first? = some x
  relative : atRoot = false → ∀ f ∈ n.fields, ∀ path ∈ fieldReads f, IsRelative path

/-- The nodes below a node build their finished trees again. -/
def RepeatableBelow (n : Node) : Prop :=
  ∀ f ∈ n.fields, ∀ m, f.child.node? = some m → ∀ k, m.Spans k → IsRepeatable false k

theorem RepeatableBelow.child {n m : Node} {f : Field} (h : RepeatableBelow n) (hf : f ∈ n.fields)
    (hm : f.child.node? = some m) : IsRepeatable false m ∧ RepeatableBelow m :=
  ⟨h f hf m hm m (.self m), fun _ hg _ hk _ hspans => h f hf m hm _ (.child hg hk hspans)⟩

/-- Below the root, a node that was built gives its result again for its finished tree, whatever the
    root is. -/
def Report.Repeats (c : Context) (u : Report) : Prop :=
  ∀ root, Run.Answers (nodeBuilder u.node c (some root) u.tree.entries) u.summary

/-! ### Fields -/

section Field

variable {n : Node} {f : Field} {atRoot : Bool}

theorem checked_eq_runRule (hn : IsPlain n) (hf : f ∈ n.fields) (v : Value) :
    checked n f v = Check.runRule n.functions f.name f.rule v := by
  have hnone : validatorOf n f = none := by
    rw [validatorOf, hn.field f hf, hn.validator]
    rfl
  rw [checked]
  conv_rhs => rw [← bind_pure (Check.runRule n.functions f.name f.rule v)]
  congr 1
  funext answer
  obtain ⟨w, es⟩ := answer
  cases es with
  | nil => simp [validate, hnone]
  | cons e es => rfl

/-- A value with a node below has no rule, and is left as it is. -/
theorem IsRepeatable.checked_composite (h : IsRepeatable atRoot n) (hf : f ∈ n.fields)
    (hcomposite : f.isComposite = true) (v : Value) : checked n f v = pure (v, []) := by
  rw [checked_eq_runRule h.plain hf, h.unruled f hf hcomposite]
  rfl

/-- What a rule left of a value without failures is no null that was none before, and the rule leaves
    it as it is. -/
theorem checked_again (h : IsRepeatable atRoot n) (hf : f ∈ n.fields) {v w : Value} {j k : Journal}
    (hchecked : (checked n f v).start j = (.ok (w, []), k)) :
    w.isNull = v.isNull ∧ Run.Answers (checked n f w) (w, []) := by
  rw [checked_eq_runRule h.plain hf, Check.runRule] at hchecked
  simp only [Run.start_bind_eq_ok, Run.start_ofExcept_eq_ok] at hchecked
  obtain ⟨cleaned, i, ⟨hclean, -⟩, hstage⟩ := hchecked
  obtain ⟨rfl, -⟩ := Check.runStage_passes (h.plain.rule f hf) hstage
  refine ⟨Sanitize.run_isNull hclean,
    (asks_checked n f w).steady.answers (j := i) (k := k) ?_⟩
  rw [checked_eq_runRule h.plain hf, Check.runRule, h.idempotent f hf v w hclean]
  exact hstage

theorem mapsOf?_trees (rs : List Report) :
    mapsOf? (.list (rs.map fun u => u.tree.toValue)) = some (rs.map fun u => u.tree.entries) := by
  rw [mapsOf?]
  induction rs with
  | nil => rfl
  | cons u rs ih =>
    rw [List.map_cons, Tree.toValue, mapsOf, ih]
    rfl

/-- The nodes of a list that all build their finished trees again do so one after the other. -/
theorem nodes_again {m : Node} {c : Context} {rs : List Report} (hnodes : ∀ u ∈ rs, u.node = m)
    (hrs : ∀ u ∈ rs, u.Repeats c) (root : Tree) :
    Run.Answers ((rs.map fun u => u.tree.entries).mapM (nodeBuilder m c (some root)))
      (rs.map Report.summary) := by
  refine Run.answers_mapM ?_
  rw [List.forall₂_map_left_iff, List.forall₂_map_right_iff, List.forall₂_same]
  intro u hu
  rw [← hnodes u hu]
  exact hrs u hu root

/-- The node of a field that has a record is built again of its finished tree. -/
theorem IsRepeatable.single_again (h : IsRepeatable atRoot n) (hf : f ∈ n.fields) {m : Node}
    (hm : f.child = .single m) {u : Report} (hnode : u.node = m) {s : Scope}
    (hu : u.Repeats s.context) {v : Value} (hclean : (Outcome.ofNode f v u.summary).failures = [])
    {w : Resolved} (hw : (Outcome.ofNode f v u.summary).resolved = some w) :
    w.tree.isNull = false ∧
      Run.Answers (process n f (childBuilder f.child) s w.tree) (.ofNode f v u.summary) := by
  have hcomposite : f.isComposite = true := by rw [Field.isComposite, hm]; rfl
  have hrepeats := hu s.root
  rw [hnode] at hrepeats
  rw [Report.summary] at hclean hw hrepeats ⊢
  cases hresult : u.result with
  | error p =>
    rw [hresult] at hclean
    cases hclean
  | ok a =>
    rw [hresult] at hw hrepeats
    cases hw
    refine ⟨rfl, ?_⟩
    rw [process, h.checked_composite hf hcomposite, hm]
    exact .bind (.pure _) (hrepeats.bind (.pure _))

/-- The nodes of a field that all have records are built again of their finished trees. -/
theorem IsRepeatable.many_again (h : IsRepeatable atRoot n) (hf : f ∈ n.fields) {m : Node}
    (hm : f.child = .many m) {rs : List Report} (hnodes : ∀ u ∈ rs, u.node = m) {s : Scope}
    (hrs : ∀ u ∈ rs, u.Repeats s.context)
    (hclean : (Items.ofResults f.name 0 (rs.map Report.summary)).failures = []) {v : Value}
    {w : Resolved}
    (hw : (Outcome.ofItems f v (.ofResults f.name 0 (rs.map Report.summary))).resolved = some w) :
    w.tree.isNull = false ∧ Run.Answers (process n f (childBuilder f.child) s w.tree)
      (.ofItems f v (.ofResults f.name 0 (rs.map Report.summary))) := by
  have hcomposite : f.isComposite = true := by rw [Field.isComposite, hm]; rfl
  have htree : w.tree = .list (rs.map fun u => u.tree.toValue) := by
    cases hw
    simp only [trees_ofResults, List.map_map]
    rfl
  refine ⟨by rw [htree]; rfl, ?_⟩
  rw [process, h.checked_composite hf hcomposite, hm, htree]
  refine .bind (.pure _) ?_
  simp only [List.isEmpty_nil, Bool.not_true, Bool.false_eq_true, if_false, childBuilder,
    buildMany, mapsOf?_trees]
  -- Without failures the outcome does not depend on the value that was built.
  refine (nodes_again hnodes hrs s.root).bind ?_
  simp only [Outcome.ofItems, hclean, List.isEmpty_nil, if_true]
  exact .pure _

/-- What a field was built to without failures is built again of what the tree holds for it. -/
theorem Processed.again (h : IsRepeatable atRoot n) (hf : f ∈ n.fields) {s s' : Scope}
    (hcontext : s'.context = s.context) {v : Value} (hv : v.isNull = false) {o : Outcome}
    {rs : List Report} (hprocessed : Processed n f s v o rs) (hclean : o.failures = [])
    {w : Resolved} (hw : o.resolved = some w) (hrs : ∀ u ∈ rs, u.Repeats s.context) :
    w.tree.isNull = false ∧ Run.Answers (process n f (childBuilder f.child) s' w.tree) o := by
  rw [← hcontext] at hrs
  cases hprocessed with
  | rejected _ hne => exact absurd hclean hne
  | mistyped => cases hclean
  | plain hchecked hnone =>
    cases hw
    obtain ⟨hnull, hagain⟩ := checked_again h hf hchecked
    refine ⟨hnull.trans hv, ?_⟩
    rw [process, hnone]
    exact hagain.bind (.pure _)
  | @single _ m _ u _ _ _ hm _ hu =>
    exact h.single_again hf hm hu.node (hrs u (List.mem_singleton_self u)) hclean hw
  | @many _ m _ _ _ _ _ hm _ hus =>
    have hnodes : ∀ u ∈ rs, u.node = m := fun u hu => by
      obtain ⟨_, -, hreported⟩ := Run.exists_left hus u hu
      exact hreported.node
    exact h.many_again hf hm hnodes hrs hclean hw

end Field

/-! ### Entries -/

theorem isNull_of_given {s : Scope} {f : Field} {v : Value} (h : given s f = .ok (some v)) :
    v.isNull = false := by
  rw [given] at h
  split at h
  · next hsent =>
    cases h
    simpa using (Option.filter_eq_some_iff.1 hsent).2
  · next path _ _ =>
    rw [Scope.lookup, Path.resolve, Path.find] at h
    split at h
    · cases h
    · have hfound := Except.ok.inj h
      simpa using (Option.filter_eq_some_iff.1 hfound).2
  · cases h

/-- A field is given what its tree holds for it. -/
theorem given_of_get? {s : Scope} {f : Field} {v : Value} (h : s.tree.get? f.name = some v)
    (hv : v.isNull = false) : given s f = .ok (some v) := by
  have hsent : s.tree.sent? f.name = some v := by
    rw [Tree.sent?, h, Option.filter_some, hv]
    rfl
  rw [given]
  rw [hsent]

/-- Without a generator a field is filled with the value it has by itself. -/
theorem fill_answers {s : Scope} {f : Field} (hauto : f.auto = none) {own : Option Value}
    (h : given s f = .ok own) : Run.Answers (fill s f []) (own, [(FillKey.ofField f, own)]) := by
  rw [fill, filled]
  rw [h, hauto]
  exact .bind (.bind (.pure _) (.pure _)) (.pure _)

theorem fieldEvaluator_absent {n : Node} {f : Field} {s : Scope} {fills fills' : Fills}
    (hgate : blocked? s f = .ok none) (hfill : Run.Answers (fill s f fills) (none, fills')) :
    Run.Answers (fieldEvaluator n f s fills) (.absent, fills') := by
  rw [fieldEvaluator_eq, evaluateField, hgate]
  exact .bind (.pure _) (hfill.bind (.pure _))

theorem entryEvaluator_field {n : Node} {f : Field} {s : Scope} {o : Outcome} {fills : Fills}
    (h : Run.Answers (fieldEvaluator n f s []) (o, fills)) :
    Run.Answers (entryEvaluator n (.field f) s) o := by
  rw [entryEvaluator_eq]
  exact h.bind (.pure _)

section Node

variable {n : Node} {c : Context} {root? root?' : Option Tree} {input : List (Value × Value)}
  {r : Report} {v : Value}

/-- A field that was absent is absent again: in the finished tree its path leads to what it led to
    when the field was evaluated. -/
theorem Reported.given_again (h : IsRepeatable root?.isNone n) (hr : Reported n c root? input r)
    (hroot : root?'.isNone = root?.isNone) {s : Step} (hs : s ∈ r.steps)
    (habsent : s.outcome.resolved = none) {f : Field} (hentry : s.entry = .field f)
    {pre post : List Schema.Entry} {here : Tree}
    (htaken : s.Taken n c root? (evaluationOrder root?.isNone n.entries) r.input r.tree pre post
      here) (hgiven : given (scopeOf c root? here) f = .ok none) :
    given (scopeOf c root?' r.tree) f = .ok none := by
  have hf : f ∈ n.fields := Node.mem_fields (hr.taken s hs).1 (by rw [hentry]; exact List.mem_cons_self)
  have hown : here.get? f.name = r.tree.get? f.name := by
    have hkept := hr.get?_of_absent h.proper hs habsent (htaken.shows h.proper hr)
    rwa [hentry] at hkept
  have hsent : (scopeOf c root? here).tree.sent? f.name = (scopeOf c root?' r.tree).tree.sent? f.name :=
    Tree.sent?_congr hown
  rw [given] at hgiven ⊢
  rw [hsent] at hgiven
  split at hgiven
  · cases hgiven
  · next path _ hpath =>
    obtain ⟨x, hx⟩ := h.named f hf path hpath
    have hcounts : root?.isNone = true ∨ (Path.ofString path).anchored = false := by
      cases hatRoot : root?.isNone with
      | true => exact .inl rfl
      | false =>
        exact .inr (h.relative hatRoot f hf path (by simp [fieldReads, hpath]))
    have hsource : x ∈ (s.entry.slot root?.isNone).sources :=
      Entry.mem_sources (by rw [hentry]; exact List.mem_cons_self) (Field.source_of_copied? hpath)
        hcounts hx
    have hx' : here.get? x = r.tree.get? x := by
      by_cases hname : x = f.name
      · rw [hname, hown]
      · refine (htaken.get?_copied h.proper h.acyclic hsource).1 ?_
        rwa [hentry]
    rw [← hgiven, lookup_scopeOf, lookup_scopeOf]
    refine (Path.resolve_congr hx (fun _ => hx'.symm) fun hanchored => ?_)
    -- An anchored path stands at the root, whose own tree it is looked up in.
    rcases hcounts with hatRoot | hrelative
    · obtain rfl := Option.isNone_iff_eq_none.1 hatRoot
      obtain rfl := Option.isNone_iff_eq_none.1 (hroot.trans hatRoot)
      exact hx'.symm
    · cases hanchored.symm.trans hrelative
  · rfl

/-- An entry is evaluated at the finished tree to what it was evaluated to before. -/
theorem Reported.entry_again (h : IsRepeatable root?.isNone n) (hr : Reported n c root? input r)
    (hroot : root?'.isNone = root?.isNone) {s : Step} (hs : s ∈ r.steps)
    (hclean : s.outcome.failures = [])
    (hbelow : ∀ t, s.trials.decisive = some t → ∀ u ∈ t.reports, u.Repeats c) :
    Run.Answers (entryEvaluator n s.entry (scopeOf c root?' r.tree)) s.outcome := by
  obtain ⟨hmem, pre, post, here, htaken⟩ := hr.taken s hs
  obtain ⟨f, hentry⟩ := h.fields _ hmem
  obtain ⟨_, _, htrials⟩ := htaken.trials
  rw [hentry] at htrials
  obtain ⟨t, _, hts, hfield⟩ := trials_of_field htrials
  have houtcome : s.outcome = t.outcome := by rw [Step.outcome, hts, Trials.outcome_decisive]
  have ht : s.trials.decisive = some t := by rw [hts]
  have hf : f ∈ n.fields := Node.mem_fields hmem (by rw [hentry]; exact List.mem_cons_self)
  have hopen : ∀ s, blocked? s f = .ok none := fun s => by rw [blocked?, h.ungated f hf]
  have hauto := h.ungenerated f hf
  obtain ⟨-, -, ⟨_, hblocked, -⟩ | ⟨-, ⟨_, _, hfill⟩, hcases⟩⟩ := reportField_cases hfield
  · rw [hopen] at hblocked
    cases hblocked
  obtain ⟨-, own, hown, hkeeps⟩ := fill_given (fun p hp => absurd hp List.not_mem_nil) hfill
  obtain rfl : t.filled = own := hkeeps.1 hauto
  rw [hentry]
  suffices hagain : Run.Answers (fieldEvaluator n f (scopeOf c root?' r.tree) [])
      (s.outcome, [(FillKey.ofField f, s.outcome.resolved.map (·.tree))]) from
    entryEvaluator_field hagain
  rcases hcases with ⟨hnone, habsent, -⟩ | ⟨v, hv, hprocessed⟩
  · rw [hnone] at hown
    rw [houtcome, habsent]
    exact fieldEvaluator_absent (hopen _) (fill_answers hauto
      (hr.given_again h hroot hs (by rw [houtcome, habsent]; rfl) hentry htaken hown))
  · -- What the tree holds for the field is sent, and the field is built of it again.
    rw [hv] at hown
    obtain ⟨w, hw⟩ := Option.isSome_iff_exists.1 hprocessed.present.1
    rw [houtcome] at hclean
    have hcontext : (scopeOf c root?' r.tree).context = (scopeOf c root? here).context := rfl
    obtain ⟨hnull, hagain⟩ :=
      hprocessed.again h hf hcontext (isNull_of_given hown) hclean hw (hbelow t ht)
    have htree : r.tree.get? f.name = some w.tree := by
      have hget := hr.get?_entry h.proper hs
      rwa [houtcome, hw, hentry] at hget
    have hgiven : given (scopeOf c root?' r.tree) f = .ok (some w.tree) :=
      given_of_get? htree hnull
    rw [houtcome, hw]
    exact fieldEvaluator_answers (hopen _) (fill_answers hauto hgiven) hagain

/-- Where every entry is evaluated at a tree to what the tree holds, the tree stays as it is. -/
theorem evaluateParts_again {steps : List Step} {t : Tree}
    (hentries : ∀ s ∈ steps, Run.Answers (entryEvaluator n s.entry (scopeOf c root?' t)) s.outcome)
    (hkept : ∀ s ∈ steps, ∀ w, s.outcome.resolved = some w → t.get? s.entry.name = some w.tree) :
    Run.Answers
      (evaluateParts c root?' ((steps.map Step.entry).map fun e => (e, entryEvaluator n e)) t)
      (Step.outcomes steps, t) := by
  induction steps with
  | nil => exact .pure _
  | cons s steps ih =>
    have hresolve : s.outcome.resolve s.entry.name t = t := by
      rw [Outcome.resolve]
      cases hw : s.outcome.resolved with
      | none => rfl
      | some w => exact Tree.put_of_get? (hkept s List.mem_cons_self w hw)
    have hrest := ih (fun s' hs => hentries s' (List.mem_cons_of_mem _ hs))
      fun s' hs => hkept s' (List.mem_cons_of_mem _ hs)
    rw [List.map_cons, List.map_cons, evaluateParts]
    refine (hentries s List.mem_cons_self).bind ?_
    rw [hresolve]
    exact hrest.bind (.pure _)

/-! ### Nodes -/

/-- The names in a resolved tree are distinct. -/
theorem Reported.nodup_tree (hr : Reported n c root? input r) : r.tree.names.Nodup := by
  obtain ⟨-, hread, hcases⟩ := hr.cases
  have hinput : r.input.names.Nodup := by
    rw [Tree.read] at hread
    split at hread
    · cases hread
    · rw [← Except.ok.inj hread]
      exact Tree.nodup_foldl_put input .nil
  rcases hcases with ⟨p, -, hrefused⟩ | ⟨-, ⟨_, _, hsteps⟩, -, -⟩
  · rw [hrefused]
    exact hinput
  · exact reportParts_nodup hsteps hinput

/-- There are no new names in a finished tree but declared ones. -/
theorem Reported.unknownNames_again (hr : Reported n c root? input r) (hv : r.result = .ok v)
    (h : unknownNames n r.input = []) : unknownNames n r.tree = [] := by
  obtain ⟨rfl, -, hevaluated⟩ := hr.evaluated hv
  rw [unknownNames] at h ⊢
  split at h
  · next hclosed =>
    rw [if_pos hclosed, List.filter_eq_nil_iff]
    intro x hx
    by_cases hdeclared : x ∈ r.node.names
    · simpa using hdeclared
    · -- Under a name that is not declared the tree holds what was sent.
      have hother : ∀ s ∈ r.steps, s.entry.name ≠ x := by
        rintro s hs rfl
        exact hdeclared (List.mem_map_of_mem (hevaluated.mem_entries hs))
      rw [Tree.mem_names_iff, Tree.has, hr.get?_of_ne hother] at hx
      exact List.filter_eq_nil_iff.1 h x (Tree.mem_names_iff.2 hx)
  · next hopen => rw [if_neg hopen]

/-- What was sent is still there in a finished tree. -/
theorem Reported.has_again (hn : n.IsProper) (hr : Reported n c root? input r) {x : String}
    (hsent : r.input.has x = true) : r.tree.has x = true := by
  rw [Tree.has] at hsent ⊢
  by_cases hstep : ∃ s ∈ r.steps, s.entry.name = x
  · obtain ⟨s, hs, rfl⟩ := hstep
    rw [hr.get?_entry hn hs]
    cases s.outcome.resolved with
    | none => exact hsent
    | some w => rfl
  · rwa [hr.get?_of_ne fun s hs heq => hstep ⟨s, hs, heq⟩]

theorem Reported.missingNames_again (hn : n.IsProper) (hr : Reported n c root? input r)
    {mode : Mode} (h : missingNames n mode r.input = []) : missingNames n mode r.tree = [] := by
  cases mode with
  | edit => rfl
  | create =>
    rw [missingNames, List.filter_eq_nil_iff] at h ⊢
    intro x hx
    have hsent : r.input.has x = true := by simpa using h x hx
    simpa using hr.has_again hn hsent

/-- A node is not refused for its finished tree. -/
theorem Reported.admitted_again (hn : n.IsProper) (hr : Reported n c root? input r)
    (hv : r.result = .ok v) : refusal? n c.mode r.tree = none := by
  obtain ⟨-, hadmitted, -⟩ := hr.evaluated hv
  obtain ⟨hunknown, hmissing⟩ := refusal?_eq_none hadmitted
  rw [refusal?, hr.unknownNames_again hv hunknown, hr.missingNames_again hn hmissing]

/-- The entries of a node that has a record are evaluated to what they were, in the same order, and
    leave the finished tree as it is. -/
theorem Reported.parts_again (h : IsRepeatable root?.isNone n) (hr : Reported n c root? input r)
    (hv : r.result = .ok v) (hroot : root?'.isNone = root?.isNone)
    (hbelow : ∀ s ∈ r.steps, ∀ t, s.trials.decisive = some t → ∀ u ∈ t.reports, u.Repeats c) :
    Run.Answers (evaluateParts c root?' ((evaluationOrder root?.isNone n.entries).map
      fun e => (e, entryEvaluator n e)) r.tree) (Step.outcomes r.steps, r.tree) := by
  obtain ⟨-, -, ⟨_, _, hsteps⟩, -, -⟩ := hr.evaluated hv
  rw [← (reportParts_steps hsteps).1]
  refine evaluateParts_again (fun s hs => ?_) fun s hs w hw => ?_
  · exact hr.entry_again h hroot hs ((hr.clean h.proper hv).failures s hs) (hbelow s hs)
  · rw [hr.get?_entry h.proper hs, hw]
    rfl

/-- The clauses of a node that has a record find in the finished tree what they found. -/
theorem Reported.rejections_again (h : IsRepeatable root?.isNone n)
    (hr : Reported n c root? input r) (hv : r.result = .ok v)
    (hroot : root?'.isNone = root?.isNone) :
    Run.Answers (n.entries.mapM (rejectionsOf n (scopeOf c root?' r.tree) (Step.outcomes r.steps)))
      r.rejected := by
  obtain ⟨-, -, ⟨_, _, hsteps⟩, ⟨_, _, hrejected⟩, -⟩ := hr.evaluated hv
  have hos : OutcomesOf n (Step.outcomes r.steps) := outcomesOf_of_evaluateParts h.proper
    (fun _ => Node.mem_evaluationOrder.1) (evaluateParts_eq_ok.2 ⟨_, hsteps, rfl⟩)
  have hlookup : ∀ f ∈ n.fields, ∀ path ∈ fieldReads f,
      (scopeOf c root? r.tree).lookup path = (scopeOf c root?' r.tree).lookup path := by
    intro f hf path hpath
    cases hatRoot : root?.isNone with
    | true =>
      rw [Option.isNone_iff_eq_none.1 hatRoot, Option.isNone_iff_eq_none.1 (hroot.trans hatRoot)]
    | false => exact lookup_of_isRelative (h.relative hatRoot f hf path hpath) c c _ _ _
  have hagree := Run.Agree.mapM (R := Eq) (List.forall₂_same.2 fun e he =>
    rejectionsOf_agree h.proper hos he fun f hf => hlookup f (Node.mem_fields he hf))
  intro i
  obtain ⟨rejected, l, hrun, heq⟩ := hagree.answer hrejected i
  rw [List.forall₂_eq_eq_eq] at heq
  exact ⟨l, heq ▸ hrun⟩

/-- A node that has a record builds its finished tree to the same record and the same tree, where the
    nodes below do so. -/
theorem Reported.answers_again (h : IsRepeatable root?.isNone n) (hr : Reported n c root? input r)
    (hv : r.result = .ok v) (hroot : root?'.isNone = root?.isNone)
    (hbelow : ∀ s ∈ r.steps, ∀ t, s.trials.decisive = some t → ∀ u ∈ t.reports, u.Repeats c) :
    Run.Answers (nodeBuilder n c root?' r.tree.entries) r.summary := by
  have hparts := hr.parts_again h hv hroot hbelow
  have hrejections := hr.rejections_again h hv hroot
  obtain ⟨-, -, -, -, _, _, hresult⟩ := hr.evaluated hv
  have hsettled := (asks_settle n _ _).steady.answers hresult
  have hannounce : Run.Answers (announce n c r.result) () := by
    rw [hv]
    exact trace_answers c _ _
  rw [nodeBuilder_eq_buildWith, buildWith, Tree.read_entries hr.nodup_tree]
  refine .bind (.pure _) ((trace_answers c _ _).bind ?_)
  suffices hnode : Run.Answers (evaluateNode n (n.entries.map fun e => (e, entryEvaluator n e)) c
      root?' r.tree) r.summary from hnode.bind (hannounce.bind (.pure _))
  rw [evaluateNode, hr.admitted_again h.proper hv, orderedParts_eq, hroot]
  exact hparts.bind (hrejections.bind (hsettled.bind (.pure _)))

end Node

/-- The nodes that were built below what decided in a node build their finished trees again, where all
    nodes below do so that have records. -/
theorem Reported.repeats_below {n : Node} (h : ∀ f ∈ n.fields, ∀ m, f.child.node? = some m →
      ∀ {c root input u v}, Reported m c (some root) input u → u.result = .ok v → u.Repeats c)
    (hn : n.IsProper) {c : Context} {root? : Option Tree} {input : List (Value × Value)} {r : Report}
    {v : Value} (hr : Reported n c root? input r) (hv : r.result = .ok v) {s : Step} (hs : s ∈ r.steps)
    {t : Trial} (ht : s.trials.decisive = some t) : ∀ u ∈ t.reports, u.Repeats c := by
  intro u hu
  obtain ⟨f, hf, m, hm, _, _, hreported, _, hw⟩ := hr.child hn (hr.clean hn hv) hs ht hu
  exact h f hf m hm hreported hw

/-- Below the root, a node that has a record builds its finished tree again. -/
theorem repeats_of_result (n : Node) : IsRepeatable false n → RepeatableBelow n →
    ∀ {c root input r v}, Reported n c (some root) input r → r.result = .ok v → r.Repeats c := by
  induction n using Node.below_induction with
  | h n ih =>
    intro h hbelow c root input r v hr hv root'
    rw [hr.node]
    have hbelowRoot : IsRepeatable (some root).isNone n := h
    refine hr.answers_again hbelowRoot hv rfl fun s hs t ht =>
      hr.repeats_below (fun f hf m hm => ?_) h.proper hv hs ht
    obtain ⟨hm', hbelow'⟩ := hbelow.child hf hm
    exact ih f hf m hm hm' hbelow'

/-- The finished tree of a record is built to the same record and the same tree, in a schema without
    groups, gates, generators and functions of the user, where fields with nodes below have no rules,
    cleaning twice is cleaning once, no entry waits for itself, and all paths below the root are
    relative. -/
theorem build_again {n : Node} (hn : IsRepeatable true n) (hbelow : RepeatableBelow n) {c : Context}
    {input v : Value} {tree : Option Tree} {j k : Journal}
    (h : (build n c input).start j = (.ok (.ok v, tree), k)) :
    ∃ t, tree = some t ∧ Run.Answers (build n c t.toValue) (.ok v, some t) := by
  obtain ⟨es, r, rfl, hrun, hv, rfl⟩ := exists_reported_of_accepted h
  have hr : Reported n c none es r := ⟨_, _, hrun⟩
  refine ⟨r.tree, rfl, ?_⟩
  have hagain : Run.Answers (nodeBuilder n c none r.tree.entries) r.summary := by
    have hroot : IsRepeatable (none : Option Tree).isNone n := hn
    refine hr.answers_again hroot hv rfl fun s hs t ht =>
      hr.repeats_below (fun f hf m hm => ?_) hn.proper hv hs ht
    obtain ⟨hm', hbelow'⟩ := hbelow.child hf hm
    exact repeats_of_result m hm' hbelow'
  rw [Report.summary, hv] at hagain
  exact hagain.bind (.pure _)

/-! ### A delivery -/

/-- A parcel of a delivery: its weight. -/
def parcelNode : Node :=
  plainNode "Parcel" [.field (plainField "weight")]

/-- The label of a delivery, which is copied from the recipient. -/
def labelField : Field :=
  { plainField "label" with source := some "recipient" }

/-- The recipient of a delivery, whose name is trimmed. -/
def recipientField : Field :=
  { plainField "recipient" with rule := [("sanitize", [⟨"trim", .none⟩])] }

/-- The parcels of a delivery. -/
def parcelsField : Field :=
  { plainField "parcels" with child := .many parcelNode }

/-- A delivery: a label, the recipient, and the parcels. -/
def delivery : Node :=
  plainNode "Delivery" [.field labelField, .field recipientField, .field parcelsField]

/-- A delivery of one parcel to a recipient with blanks around the name. -/
def deliveryInput : Value :=
  .map [(.text "recipient", .text " ann "),
    (.text "parcels", .list [.map [(.text "weight", .int 3)]])]

/-- What holds of the fields of a delivery. -/
theorem delivery_fields {P : Field → Prop} (hlabel : P labelField) (hrecipient : P recipientField)
    (hparcels : P parcelsField) : ∀ f ∈ delivery.fields, P f := by
  simp [delivery, plainNode, Node.fields, Entry.fields, hlabel, hrecipient, hparcels]

theorem nil_isIdempotent : Sanitize.IsIdempotent [] :=
  fun _ _ _ => rfl

/-- Trimming twice is trimming once. -/
theorem trim_isIdempotent : Sanitize.IsIdempotent [⟨"trim", .none⟩] := by
  intro v w h
  cases v with
  | text s =>
    cases h
    refine congrArg (fun t => Except.ok (Value.text (String.ofList t))) ?_
    rw [String.toList_ofList]
    exact Text.trim_trim _
  | _ =>
    cases h
    rfl

theorem recipient_path : Path.ofString "recipient" = ⟨false, ["recipient"]⟩ := by
  decide +kernel

theorem delivery_acyclic : delivery.IsAcyclic true := by
  refine Slot.Acyclic.of_rank (fun name => if name = "label" then 1 else 0) ?_
  have hslots : delivery.entries.map (Entry.slot true) =
      [⟨"label", 1, ["recipient"]⟩, ⟨"recipient", 0, []⟩, ⟨"parcels", 2, []⟩] := by
    simp [delivery, labelField, recipientField, parcelsField, plainNode, plainField, parcelNode,
      Entry.slot, Entry.name, Entry.stage, Entry.fields, Field.isComposite, Field.copied?,
      Child.node?, Field.sources, sourceOf, recipient_path, Child.anchoredSources,
      Node.anchoredSources, anchoredSourcesOf, Entry.anchoredSources, Field.anchoredSources]
  rw [hslots]
  rintro a b ⟨s, hs, rfl, hb, -, -⟩
  simp only [List.mem_cons, List.not_mem_nil, or_false] at hs
  rcases hs with rfl | rfl | rfl
  · obtain rfl : b = "recipient" := List.mem_singleton.1 hb
    decide
  · exact absurd hb List.not_mem_nil
  · exact absurd hb List.not_mem_nil

theorem delivery_repeatable : IsRepeatable true delivery where
  proper := ⟨by decide, by simp [delivery, plainNode, Entry.fields, Entry.name]⟩
  plain := ⟨rfl, rfl, delivery_fields rfl rfl rfl, delivery_fields nofun nofun nofun⟩
  fields := by simp [delivery, plainNode]
  ungated := delivery_fields rfl rfl rfl
  ungenerated := delivery_fields rfl rfl rfl
  unruled := delivery_fields (fun _ => rfl) nofun fun _ => rfl
  idempotent := delivery_fields nil_isIdempotent trim_isIdempotent nil_isIdempotent
  acyclic := delivery_acyclic
  named := by
    refine delivery_fields (fun path hpath => ?_)
      (fun path hpath => absurd hpath (Option.some_ne_none path).symm)
      (fun path hpath => absurd hpath (Option.some_ne_none path).symm)
    obtain rfl : "recipient" = path := Option.some_inj.1 (Field.source_of_copied? hpath)
    exact ⟨"recipient", by rw [recipient_path]; rfl⟩
  relative := nofun

theorem parcelNode_repeatable : IsRepeatable false parcelNode where
  proper := ⟨by decide, by simp [parcelNode, plainNode, Entry.fields, Entry.name]⟩
  plain := ⟨rfl, rfl, List.forall_mem_singleton.2 rfl, List.forall_mem_singleton.2 nofun⟩
  fields := by simp [parcelNode, plainNode]
  ungated := List.forall_mem_singleton.2 rfl
  ungenerated := List.forall_mem_singleton.2 rfl
  unruled := List.forall_mem_singleton.2 fun _ => rfl
  idempotent := List.forall_mem_singleton.2 nil_isIdempotent
  acyclic := by
    refine Slot.Acyclic.of_rank (fun _ => 0) ?_
    rintro a b ⟨s, hs, -, hb, -⟩
    obtain rfl := List.mem_singleton.1 hs
    exact absurd hb List.not_mem_nil
  named := List.forall_mem_singleton.2 nofun
  relative := fun _ => List.forall_mem_singleton.2 nofun

theorem delivery_repeatableBelow : RepeatableBelow delivery := by
  intro f hf m hm
  obtain rfl : m = parcelNode := List.mem_singleton.1 (Node.mem_children.2 ⟨f, hf, hm⟩)
  exact Node.forall_spans_of_leaf rfl parcelNode_repeatable

theorem delivery_again : ∃ v tree k t,
    (build delivery ⟨.create, false⟩ deliveryInput).start .empty = (.ok (.ok v, tree), k) ∧
      tree = some t ∧
      Run.Answers (build delivery ⟨.create, false⟩ t.toValue) (.ok v, some t) := by
  obtain ⟨v, tree, k, h⟩ := exists_of_isAccepted
    (show isAccepted ((build delivery ⟨.create, false⟩ deliveryInput).start .empty).1 = true by
      decide +kernel)
  obtain ⟨t, htree, hagain⟩ := build_again delivery_repeatable delivery_repeatableBelow h
  exact ⟨v, tree, k, t, h, htree, hagain⟩

end Build

end Intake
