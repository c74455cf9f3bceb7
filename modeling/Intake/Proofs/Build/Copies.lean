import Intake.Proofs.Build.Steps

/-!
# Copied values

A field that was not sent is copied from its source. The entries of a node are evaluated behind the
entries they copy from, and at the root also behind those that anything below them copies from.
The value a field is copied from is therefore resolved already, and what the path leads to does not
change any more: it is still there when the build has finished (`copied_eq_resolved`).

There is one exception. Below an entry of the root, an anchored path may begin at this very entry.
The entry does not wait for itself, so that the field sees what was sent for the entry and not what
it resolves to, as the alias of a user does that copies the name of the user from the root.
-/

namespace Intake.Build

open Intake.Schema

/-! ### What is resolved already -/

namespace Step.Taken

variable {n : Node} {c : Context} {root? : Option Tree} {es : List Schema.Entry} {t u here : Tree}
  {s : Step} {pre post : List Schema.Entry}

/-- An entry is evaluated when what it copies from is resolved. -/
theorem get?_source (h : s.Taken n c root? es t u pre post here) {atRoot : Bool}
    (hordered : Slot.IsOrdered (Entry.slot atRoot) es) (hnodup : (es.map Entry.name).Nodup)
    {x : String} (hx : x ∈ (s.entry.slot atRoot).sources) (hne : x ≠ s.entry.name) :
    u.get? x = here.get? x := by
  refine h.resolved x hne fun hpost => ?_
  obtain ⟨e, he, rfl⟩ := List.mem_map.1 hpost
  -- The source is declared, so that it stands before the entry as well.
  obtain ⟨e', he', hname⟩ : ∃ e' ∈ pre, e'.name = e.name :=
    hordered pre s.entry post h.split e.name hx hne ⟨e, by simp [h.split, he], rfl⟩
  rw [h.split, List.map_append, List.map_cons, List.nodup_append] at hnodup
  exact hnodup.2.2 _ (List.mem_map_of_mem he') _
    (List.mem_cons_of_mem _ (List.mem_map_of_mem he)) hname

/-- An entry is evaluated when the tree still holds what was sent for it. -/
theorem get?_own (h : s.Taken n c root? es t u pre post here) (hnodup : (es.map Entry.name).Nodup) :
    here.get? s.entry.name = t.get? s.entry.name := by
  -- An entry before it would have to be of the same name to change what was sent for it.
  exact h.unresolved _ (Node.name_notMem_of_split h.split hnodup).1

end Step.Taken

/-! ### Builds below a step -/

/-- A node was built below a step: for a field tried there, or for one tried in such a build. -/
inductive Step.Above : Step → Report → Prop
  | child {s : Step} {t : Trial} {q : Report} : t ∈ s.trials.all → q ∈ t.reports → Above s q
  | deeper {s s' : Step} {t : Trial} {u q : Report} :
    t ∈ s.trials.all → u ∈ t.reports → s' ∈ u.steps → Above s' q → Above s q

/-- What was built below a step are nodes below a field of its entry, against the root of its
    scope. -/
theorem Step.Above.reported {s : Step} {q : Report} (h : s.Above q) {n : Node}
    (hn : n.WellFormed) (hs : s.entry ∈ n.entries) {scope : Scope}
    (htrials : ∃ j k, (reportEntry n s.entry scope).start j = (.ok s.trials, k)) :
    ∃ f ∈ s.entry.fields, ∃ m, f.child.node? = some m ∧ ∃ k, m.Spans k ∧
      ∃ input, Reported k scope.context (some scope.root) input q := by
  induction h generalizing n scope with
  | child ht hq =>
    obtain ⟨_, _, htrials⟩ := htrials
    obtain ⟨f, hf, m, hm, input, hreported⟩ :=
      exists_reported_below (hn.proper.name_of_mem _ hs) htrials ht hq
    exact ⟨f, hf, m, hm, m, .self m, input, hreported⟩
  | deeper ht hu hs' _ ih =>
    obtain ⟨_, _, htrials⟩ := htrials
    obtain ⟨f, hf, m, hm, input, hreported⟩ :=
      exists_reported_below (hn.proper.name_of_mem _ hs) htrials ht hu
    -- What is deeper was built below a step of the node below, against the same root.
    obtain ⟨hentry, _, _, _, htaken⟩ := hreported.taken _ hs'
    obtain ⟨g, hg, m', hm', k, hk, input', hreported'⟩ :=
      ih (hn.child (Node.mem_fields hs hf) hm) hentry htaken.trials
    exact ⟨f, hf, m, hm, k, .child (Node.mem_fields hentry hg) hm' hk, input', hreported'⟩

/-- A field was tried in a build: for an entry of its node, or in a build below. The report `q` is
    that of the node of the field, and the step `s` is that of the entry of the root. -/
inductive Report.Tries (r : Report) : Step → Report → Trial → Prop
  | here {s : Step} {t : Trial} : s ∈ r.steps → t ∈ s.trials.all → Tries r s r t
  | below {s s' : Step} {q : Report} {t : Trial} :
    s ∈ r.steps → s.Above q → s' ∈ q.steps → t ∈ s'.trials.all → Tries r s q t

/-! ### Copies -/

/-- The field was copied from a path: it is open, it was not sent, and it has this source. -/
structure Trial.Copies (t : Trial) (path : String) : Prop where
  source : t.field.copied? = some path
  unsent : t.scope.tree.sent? t.field.name = none
  ungated : blocked? t.scope t.field = .ok none

theorem Trial.Copies.given {t : Trial} {path : String} (h : t.Copies path) :
    given t.scope t.field = t.scope.lookup path := by
  rw [Build.given]
  rw [h.unsent, h.source]

theorem Field.source_of_copied? {f : Field} {path : String} (h : f.copied? = some path) :
    f.source = some path :=
  (Option.filter_eq_some_iff.1 h).1

/-- Every path that is copied from has a first segment. -/
def CopiesNamed (n : Node) : Prop :=
  ∀ m, n.Spans m → ∀ f ∈ m.fields, ∀ path, f.copied? = some path →
    ∃ x, (Path.ofString path).first? = some x

/-- The path leads to the entry that the field is evaluated for: for an anchored path the entry of
    the root at or below which it stands, otherwise the entry of its own node. -/
def Trial.CopiesOwn (t : Trial) (s : Step) (path : String) : Prop :=
  (Path.ofString path).first? =
    some (if (Path.ofString path).anchored then s.entry.name else t.field.name)

/-- A trial of a report is one of a field of its entry, in the scope of the step. Where the field is
    open, it was filled with the value it has by itself. -/
theorem Reported.tried {n : Node} {c : Context} {root? : Option Tree}
    {input : List (Value × Value)} {r : Report} (h : Reported n c root? input r)
    (hn : n.IsProper) {s : Step} (hs : s ∈ r.steps) {t : Trial} (ht : t ∈ s.trials.all) :
    s.entry ∈ n.entries ∧ t.field ∈ s.entry.fields ∧
      (∃ pre post here, s.Taken n c root? (evaluationOrder root?.isNone n.entries) r.input r.tree
        pre post here ∧ t.scope = scopeOf c root? here) ∧
      (blocked? t.scope t.field = .ok none →
        ∃ own, given t.scope t.field = .ok own ∧ Keeps t.field.auto own t.filled) := by
  obtain ⟨hentry, pre, post, here, htaken⟩ := h.taken s hs
  obtain ⟨_, _, htrials⟩ := htaken.trials
  have hname := hn.name_of_mem _ hentry
  obtain ⟨f, hf, fills, hmade, _, _, _, hfield⟩ := mem_trials hname htrials t ht
  obtain ⟨rfl, hscope, hcases⟩ := reportField_cases hfield
  refine ⟨hentry, hf, ⟨pre, post, here, htaken, hscope⟩, fun hopen => ?_⟩
  rw [hscope] at hopen ⊢
  -- The field is open, so that it was filled.
  rcases hcases with ⟨path, hblocked, -⟩ | ⟨-, ⟨_, _, hfill⟩, -⟩
  · rw [hopen] at hblocked
    cases hblocked
  · rw [← hname _ hf] at hmade
    exact (fill_given hmade hfill).2

/-- What a path in the tree of a step leads to is what it leads to in the resolved tree, or what was
    sent where it begins at the entry of the step. -/
theorem Step.Taken.get?_copied {n : Node} {c : Context} {root? : Option Tree} {t u here : Tree}
    {s : Step} {pre post : List Schema.Entry}
    (h : s.Taken n c root? (evaluationOrder root?.isNone n.entries) t u pre post here)
    (hn : n.IsProper) (hac : n.IsAcyclic root?.isNone) {x : String}
    (hx : x ∈ (s.entry.slot root?.isNone).sources) :
    (x ≠ s.entry.name → here.get? x = u.get? x) ∧ (x = s.entry.name → here.get? x = t.get? x) := by
  have hnodup := hn.nodup_evaluationOrder root?.isNone
  refine ⟨fun hne => ?_, ?_⟩
  · exact (h.get?_source (Node.evaluationOrder_isOrdered hn hac) hnodup hx hne).symm
  · rintro rfl
    exact h.get?_own hnodup

theorem lookup_scopeOf (c : Context) (root? : Option Tree) (t : Tree) (path : String) :
    (scopeOf c root? t).lookup path =
      (Path.ofString path).resolve t.toValue (root?.getD t).toValue := rfl

/-- The value found at the source of a field when it was copied is what the path leads to in the
    resolved trees; where the path begins at the entry that the field is evaluated for, it is what
    the path led to in the inputs. -/
structure Trial.Sees (t : Trial) (s : Step) (r q : Report) (path : String) (found : Option Value) :
    Prop where
  resolved : ¬t.CopiesOwn s path →
    (Path.ofString path).resolve q.tree.toValue r.tree.toValue = .ok found
  sent : t.CopiesOwn s path →
    (Path.ofString path).resolve q.input.toValue r.input.toValue = .ok found

section Copied

variable {n : Node} {c : Context} {input : List (Value × Value)} {r : Report} {s : Step} {t : Trial}
  {path x : String} {found : Option Value}

theorem sees_here (hn : n.WellFormed) (hac : n.Acyclic) (hr : Reported n c none input r)
    (hs : s ∈ r.steps) (ht : t ∈ s.trials.all) (hsource : t.field.source = some path)
    (hx : (Path.ofString path).first? = some x) (hfound : t.scope.lookup path = .ok found) :
    t.Sees s r r path found := by
  obtain ⟨hentry, hf, ⟨_, _, here, htaken, hscope⟩, -⟩ := hr.tried hn.proper hs ht
  have hname : t.field.name = s.entry.name := hn.proper.name_of_mem _ hentry _ hf
  -- At the root every path begins at the tree of the node itself.
  have hmem : x ∈ (s.entry.slot true).sources :=
    Entry.mem_sources hf hsource (.inl rfl) hx
  obtain ⟨hother, hown⟩ := htaken.get?_copied hn.proper hac.root hmem
  rw [hscope, lookup_scopeOf] at hfound
  have hiff : t.CopiesOwn s path ↔ x = s.entry.name := by
    rw [Trial.CopiesOwn, hname, ite_self, hx, Option.some_inj]
  constructor
  · intro hne
    have hsame := (hother (mt hiff.2 hne)).symm
    rw [← hfound]
    exact Path.resolve_congr hx (fun _ => hsame) fun _ => hsame
  · intro heq
    have hsame := (hown (hiff.1 heq)).symm
    rw [← hfound]
    exact Path.resolve_congr hx (fun _ => hsame) fun _ => hsame

theorem sees_below (hn : n.WellFormed) (hac : n.Acyclic) (hr : Reported n c none input r)
    (hs : s ∈ r.steps) {q : Report} (hq : s.Above q) {s' : Step} (hs' : s' ∈ q.steps)
    (ht : t ∈ s'.trials.all) (hsource : t.field.source = some path)
    (hx : (Path.ofString path).first? = some x) (hfound : t.scope.lookup path = .ok found) :
    t.Sees s r q path found := by
  obtain ⟨hentry, _, _, root, htaken⟩ := hr.taken s hs
  obtain ⟨f, hf, m, hm, k, hk, _, hq⟩ := hq.reported hn hentry htaken.trials
  have hproper : k.IsProper := hn.child (Node.mem_fields hentry hf) hm k hk
  obtain ⟨hentry', hf', ⟨_, _, here, htaken', hscope⟩, -⟩ := hq.tried hproper hs' ht
  have hname : t.field.name = s'.entry.name := hproper.name_of_mem _ hentry' _ hf'
  rw [hscope, lookup_scopeOf] at hfound
  cases hanchored : (Path.ofString path).anchored with
  | false =>
    -- A relative path stays in the node, in whose order it counts.
    have hmem : x ∈ (s'.entry.slot false).sources :=
      Entry.mem_sources hf' hsource (.inr hanchored) hx
    obtain ⟨hother, hown⟩ := htaken'.get?_copied hproper
      (hac.below f (Node.mem_fields hentry hf) m hm k hk) hmem
    have hiff : t.CopiesOwn s path ↔ x = s'.entry.name := by
      rw [Trial.CopiesOwn, hanchored, if_neg Bool.false_ne_true, hname, hx, Option.some_inj]
    refine ⟨fun hne => ?_, fun heq => ?_⟩ <;> rw [← hfound]
    · exact Path.resolve_congr hx (fun _ => (hother (mt hiff.2 hne)).symm) (by simp [hanchored])
    · exact Path.resolve_congr hx (fun _ => (hown (hiff.1 heq)).symm) (by simp [hanchored])
  | true =>
    -- An anchored path counts in the order of the root, wherever it stands.
    have hmem : x ∈ (s.entry.slot true).sources :=
      Entry.mem_sources_of_anchored hf hm
        (Node.mem_anchoredSources hk (Node.mem_fields hentry' hf') hsource hanchored hx)
    obtain ⟨hother, hown⟩ := htaken.get?_copied hn.proper hac.root hmem
    have hiff : t.CopiesOwn s path ↔ x = s.entry.name := by
      rw [Trial.CopiesOwn, hanchored, if_pos rfl, hx, Option.some_inj]
    refine ⟨fun hne => ?_, fun heq => ?_⟩ <;> rw [← hfound]
    · exact Path.resolve_congr hx (by simp [hanchored]) fun _ => (hother (mt hiff.2 hne)).symm
    · exact Path.resolve_congr hx (by simp [hanchored]) fun _ => (hown (hiff.1 heq)).symm

/-- Every field that was tried where it was open was filled with the value it has by itself, unless
    there is a generator for it. -/
theorem Report.Tries.filled {q : Report} (hn : n.WellFormed) (hr : Reported n c none input r)
    (h : r.Tries s q t) (hopen : blocked? t.scope t.field = .ok none) :
    ∃ own, given t.scope t.field = .ok own ∧ Keeps t.field.auto own t.filled := by
  cases h with
  | here hs ht => exact (hr.tried hn.proper hs ht).2.2.2 hopen
  | below hs hq hs' ht =>
    obtain ⟨hentry, _, _, _, htaken⟩ := hr.taken s hs
    obtain ⟨f, hf, m, hm, k, hk, _, hq⟩ := hq.reported hn hentry htaken.trials
    exact (hq.tried (hn.child (Node.mem_fields hentry hf) hm k hk) hs' ht).2.2.2 hopen

/-- A field that was tried in a build is one of a node of the schema. -/
theorem Report.Tries.spans {q : Report} (hn : n.WellFormed) (hr : Reported n c none input r)
    (h : r.Tries s q t) : ∃ m, n.Spans m ∧ t.field ∈ m.fields := by
  cases h with
  | here hs ht =>
    obtain ⟨hentry, hf, -⟩ := hr.tried hn.proper hs ht
    exact ⟨n, .self n, Node.mem_fields hentry hf⟩
  | below hs hq hs' ht =>
    obtain ⟨hentry, _, _, _, htaken⟩ := hr.taken s hs
    obtain ⟨f, hf, m, hm, k, hk, _, hq⟩ := hq.reported hn hentry htaken.trials
    have hfield := Node.mem_fields hentry hf
    obtain ⟨hentry', hf', -⟩ := hq.tried (hn.child hfield hm k hk) hs' ht
    exact ⟨k, .child hfield hm hk, Node.mem_fields hentry' hf'⟩

end Copied

/-- A field is copied from what its path leads to once the whole build has finished; only where the
    path begins at the entry that the field is evaluated for, it is copied from what was sent. -/
theorem copied_eq_resolved {n : Node} (hn : n.WellFormed) (hac : n.Acyclic) (hpaths : CopiesNamed n)
    {c : Context} {input : List (Value × Value)} {result : Result} {tree : Option Tree}
    {j k : Journal} (h : (build n c (.map input)).start j = (.ok (result, tree), k)) :
    ∃ r, (nodeReport n c none input).start j = (.ok r, k) ∧ r.result = result ∧
      some r.tree = tree ∧ ∀ s q t, r.Tries s q t → ∀ path, t.Copies path →
        ∃ found, t.scope.lookup path = .ok found ∧ Keeps t.field.auto found t.filled ∧
          t.Sees s r q path found := by
  obtain ⟨r, hrun, rfl, rfl⟩ := exists_reported_of_build h
  have hr : Reported n c none input r := ⟨_, _, hrun⟩
  refine ⟨r, hrun, rfl, rfl, fun s q t htries path hcopies => ?_⟩
  -- The value found is the one that the field has by itself.
  obtain ⟨found, hfound, hkeeps⟩ := htries.filled hn hr hcopies.ungated
  rw [hcopies.given] at hfound
  obtain ⟨m, hm, hf⟩ := htries.spans hn hr
  obtain ⟨x, hx⟩ := hpaths m hm t.field hf path hcopies.source
  have hsource := Field.source_of_copied? hcopies.source
  refine ⟨found, hfound, hkeeps, ?_⟩
  cases htries with
  | here hs ht => exact sees_here hn hac hr hs ht hsource hx hfound
  | below hs hq hs' ht => exact sees_below hn hac hr hs hq hs' ht hsource hx hfound

/-! ### An account -/

/-- A field with nothing but a name. -/
def plainField (name : String) : Field :=
  ⟨name, "any", none, none, [], [], none, none, none, none, .none⟩

/-- A node with nothing but entries. -/
def plainNode (name : String) (entries : List Schema.Entry) : Node :=
  ⟨name, entries, false, false, false, none, none, []⟩

/-- The user of an account: a name that is cleaned, and an alias, which is copied from it by an
    anchored path. -/
def accountUser : Node :=
  plainNode "User"
    [.field { plainField "name" with rule := [("sanitize", [⟨"trim", .none⟩])] },
     .field { plainField "alias" with source := some "root.user.name" }]

/-- An account: a handle, which is copied from the name of its user, and the user. -/
def account : Node :=
  plainNode "Account"
    [.field { plainField "handle" with source := some "user.name" },
     .field { plainField "user" with child := .single accountUser }]

/-- An account whose user has a name with blanks around it. -/
def accountInput : List (Value × Value) :=
  [(.text "user", .map [(.text "name", .text " bob ")])]

theorem account_wellFormed : account.WellFormed :=
  Node.forall_spans_of_child rfl rfl ⟨by decide, by simp [account, plainNode, Entry.fields, Entry.name]⟩
    ⟨by decide, by simp [accountUser, plainNode, Entry.fields, Entry.name]⟩

theorem userName_path : Path.ofString "user.name" = ⟨false, ["user", "name"]⟩ := by
  decide +kernel

theorem rootUserName_path : Path.ofString "root.user.name" = ⟨true, ["user", "name"]⟩ := by
  decide +kernel

theorem account_copiesNamed : CopiesNamed account := by
  refine Node.forall_spans_of_child rfl rfl ?_ ?_
  · intro f hf path hpath
    simp only [account, plainNode, Node.fields, Entry.fields, List.flatMap_cons, List.flatMap_nil,
      List.cons_append, List.nil_append, List.mem_cons, List.not_mem_nil, or_false] at hf
    rcases hf with rfl | rfl
    · obtain rfl : "user.name" = path := (Option.some_inj.1 (Field.source_of_copied? hpath))
      exact ⟨"user", by rw [userName_path]; rfl⟩
    · cases hpath
  · intro f hf path hpath
    simp only [accountUser, plainNode, Node.fields, Entry.fields, List.flatMap_cons,
      List.flatMap_nil, List.cons_append, List.nil_append, List.mem_cons, List.not_mem_nil,
      or_false] at hf
    rcases hf with rfl | rfl
    · cases hpath
    · obtain rfl : "root.user.name" = path := (Option.some_inj.1 (Field.source_of_copied? hpath))
      exact ⟨"user", by rw [rootUserName_path]; rfl⟩

theorem account_slots : account.entries.map (Entry.slot true) =
    [⟨"handle", 1, ["user"]⟩, ⟨"user", 2, ["user"]⟩] := by
  simp [account, plainNode, plainField, accountUser, Entry.slot, Entry.name, Entry.stage,
    Entry.fields, Field.isComposite, Field.copied?, Child.node?, Field.sources, sourceOf,
    userName_path, Child.anchoredSources, Node.anchoredSources, anchoredSourcesOf,
    Entry.anchoredSources, Field.anchoredSources, anchoredSourceOf, rootUserName_path]

theorem accountUser_slots : accountUser.entries.map (Entry.slot false) =
    [⟨"name", 0, []⟩, ⟨"alias", 1, []⟩] := by
  simp [plainNode, plainField, accountUser, Entry.slot, Entry.name, Entry.stage, Entry.fields,
    Field.isComposite, Field.copied?, Child.node?, Field.sources, sourceOf, rootUserName_path]

theorem account_acyclic : account.Acyclic where
  root := by
    refine Slot.Acyclic.of_rank (fun name => if name = "handle" then 1 else 0) ?_
    rw [account_slots]
    rintro a b ⟨s, hs, rfl, hb, hne, -⟩
    simp only [List.mem_cons, List.not_mem_nil, or_false] at hs
    rcases hs with rfl | rfl
    · obtain rfl : b = "user" := List.mem_singleton.1 hb
      decide
    · exact absurd (List.mem_singleton.1 hb) hne
  below := by
    intro f hf m hm
    obtain rfl : m = accountUser := List.mem_singleton.1 (Node.mem_children.2 ⟨f, hf, hm⟩)
    refine Node.forall_spans_of_leaf rfl ?_
    refine Slot.Acyclic.of_rank (fun _ => 0) ?_
    rw [accountUser_slots]
    rintro a b ⟨s, hs, -, hb, -⟩
    simp only [List.mem_cons, List.not_mem_nil, or_false] at hs
    rcases hs with rfl | rfl <;> exact absurd hb List.not_mem_nil

theorem account_copied : ∃ result tree k r,
    (build account ⟨.create, false⟩ (.map accountInput)).start .empty = (.ok (result, tree), k) ∧
      (nodeReport account ⟨.create, false⟩ none accountInput).start .empty = (.ok r, k) ∧
      some r.tree = tree ∧
      ∀ s q t, r.Tries s q t → ∀ path, t.Copies path →
        ∃ found, t.scope.lookup path = .ok found ∧ Keeps t.field.auto found t.filled ∧
          t.Sees s r q path found := by
  obtain ⟨⟨result, tree⟩, k, h⟩ := Run.exists_of_isOk
    (show ((build account ⟨.create, false⟩ (.map accountInput)).start .empty).1.isOk = true by
      decide +kernel)
  obtain ⟨r, hr, -, htree, hcopies⟩ :=
    copied_eq_resolved account_wellFormed account_acyclic account_copiesNamed h
  exact ⟨result, tree, k, r, h, hr, htree, hcopies⟩

/-- The text that a path leads to when a build has finished. -/
def resolvedText? (path : String) : Except Fault (Result × Option Tree) → Option String
  | .ok (_, some tree) =>
    match (Path.ofString path).resolve tree.toValue tree.toValue with
    | .ok (some (.text s)) => some s
    | _ => none
  | _ => none

/-- The alias stands below the entry that it is copied from: it has the blanks that the name lost.
    The handle, which is copied from the same place, has lost them. -/
theorem account_alias_unresolved :
    let answer := ((build account ⟨.create, false⟩ (.map accountInput)).start .empty).1
    resolvedText? "root.user.name" answer = some "bob" ∧
      resolvedText? "handle" answer = some "bob" ∧
      resolvedText? "user.alias" answer = some " bob " := by
  decide +kernel

end Intake.Build
