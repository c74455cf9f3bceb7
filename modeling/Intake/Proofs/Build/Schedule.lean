import Intake.Proofs.Build.Copies

/-!
# Two orders of evaluation

The entries of a node may be evaluated in any order in which every entry comes behind the entries it
copies from. Whatever the order, an entry sees the same of the tree: what was sent for itself, and
what its sources resolve to. Two orders therefore lead to the same outcomes and the same tree, up to
how closely what is evaluated in them agrees (`evaluateParts_agree_of_matching`).

The first order is taken as it went, from its start to the tree it ended with. The second one is
followed step by step: the names that are done hold what they hold at the end of the first order,
and the others what was sent (`Midway`).
-/

namespace Intake.Build

open Intake.Schema

/-! ### The entries of one order -/

section Visits

variable {n : Node} {c : Context} {root? : Option Tree} {atRoot : Bool} {es : List Schema.Entry}
  {t u : Tree} {os : Outcomes} {j k : Journal}

/-- An entry was evaluated at the tree `here`, on the way from the tree `t` to the tree `u`. The tree
    held what was sent for the entry, and what its sources resolve to. -/
structure Visit (n : Node) (c : Context) (root? : Option Tree) (atRoot : Bool) (t u : Tree)
    (e : Schema.Entry) (o : Outcome) (here : Tree) : Prop where
  run : ∃ j k, (entryEvaluator n e (scopeOf c root? here)).start j = (.ok o, k)
  own : here.get? e.name = t.get? e.name
  source : ∀ x ∈ (e.slot atRoot).sources, x ≠ e.name → u.get? x = here.get? x
  resolved : u.get? e.name = (o.resolve e.name here).get? e.name

theorem names_of_evaluateParts
    (h : (evaluateParts c root? (es.map fun e => (e, entryEvaluator n e)) t).start j =
      (.ok (os, u), k)) : os.map Prod.fst = es.map Entry.name := by
  obtain ⟨steps, hsteps, rfl⟩ := evaluateParts_eq_ok.1 h
  rw [← (reportParts_steps hsteps).1, Step.outcomes, List.map_map, List.map_map]
  rfl

theorem lookup_eq_none_of_evaluateParts
    (h : (evaluateParts c root? (es.map fun e => (e, entryEvaluator n e)) t).start j =
      (.ok (os, u), k)) {x : String} (hx : x ∉ es.map Entry.name) : os.lookup x = none := by
  rw [← names_of_evaluateParts h] at hx
  rw [List.lookup_eq_none_iff]
  intro p hp
  rw [bne_iff_ne]
  exact fun heq => hx (heq ▸ List.mem_map_of_mem hp)

theorem evaluateParts_frame
    (h : (evaluateParts c root? (es.map fun e => (e, entryEvaluator n e)) t).start j =
      (.ok (os, u), k)) {x : String} (hx : x ∉ es.map Entry.name) : u.get? x = t.get? x := by
  obtain ⟨steps, hsteps, rfl⟩ := evaluateParts_eq_ok.1 h
  exact reportParts_frame hsteps hx

theorem nodup_of_evaluateParts (ht : t.names.Nodup)
    (h : (evaluateParts c root? (es.map fun e => (e, entryEvaluator n e)) t).start j =
      (.ok (os, u), k)) : u.names.Nodup := by
  obtain ⟨steps, hsteps, rfl⟩ := evaluateParts_eq_ok.1 h
  exact reportParts_nodup hsteps ht

/-- Every entry of an order was evaluated at a tree on the way. -/
theorem exists_visit (hordered : Slot.IsOrdered (Entry.slot atRoot) es)
    (hnodup : (es.map Entry.name).Nodup)
    (h : (evaluateParts c root? (es.map fun e => (e, entryEvaluator n e)) t).start j =
      (.ok (os, u), k)) {e : Schema.Entry} (he : e ∈ es) :
    ∃ o here, os.lookup e.name = some o ∧ Visit n c root? atRoot t u e o here := by
  obtain ⟨steps, hsteps, rfl⟩ := evaluateParts_eq_ok.1 h
  obtain ⟨hentries, htaken⟩ := reportParts_steps hsteps
  rw [← hentries] at he
  obtain ⟨s, hs, rfl⟩ := List.mem_map.1 he
  obtain ⟨pre, post, here, hs'⟩ := htaken s hs
  obtain ⟨i, l, htrials⟩ := hs'.trials
  have hnames : ((Step.outcomes steps).map Prod.fst).Nodup := by
    rw [Step.outcomes, List.map_map]
    rw [← hentries, List.map_map] at hnodup
    exact hnodup
  refine ⟨s.outcome, here, Tree.lookup_of_mem hnames (List.mem_map_of_mem hs), ?_⟩
  constructor
  · refine ⟨i, l, ?_⟩
    rw [entryEvaluator_eq_outcome]
    exact Run.start_map_eq_ok.2 ⟨_, htrials, rfl⟩
  · exact hs'.get?_own hnodup
  · exact fun x hx hne => hs'.get?_source hordered hnodup hx hne
  · -- No later entry has its name.
    exact hs'.own (Node.name_notMem_of_split hs'.split hnodup).2

end Visits

/-! ### Entries that stand for each other -/

section Matching

variable {V : Value → Value → Prop} {O : Outcome → Outcome → Prop} {n n' : Node} {c : Context}
  {root? root?' : Option Tree} {atRoot : Bool} {es es' : List Schema.Entry}

/-- The trees hold related values under a name. -/
def RelatedAt (V : Value → Value → Prop) (t t' : Tree) (x : String) : Prop :=
  Option.Rel V (t.get? x) (t'.get? x)

/-- The trees hold related values under the name of an entry and under those of its sources. -/
structure SeenAlike (V : Value → Value → Prop) (atRoot : Bool) (e : Schema.Entry) (t t' : Tree) :
    Prop where
  own : RelatedAt V t t' e.name
  source : ∀ x ∈ (e.slot atRoot).sources, RelatedAt V t t' x

/-- Two entries stand for each other: they have one name and the same sources, and where they see
    related values, they are evaluated to related outcomes. -/
structure Counterpart (V : Value → Value → Prop) (O : Outcome → Outcome → Prop) (n n' : Node)
    (c : Context) (root? root?' : Option Tree) (atRoot : Bool) (e e' : Schema.Entry) : Prop where
  name : e'.name = e.name
  sources : ∀ x, x ∈ (e.slot atRoot).sources ↔ x ∈ (e'.slot atRoot).sources
  agree : ∀ t t', SeenAlike V atRoot e t t' →
    Run.Agree O (entryEvaluator n e (scopeOf c root? t)) (entryEvaluator n' e' (scopeOf c root?' t'))

/-- Two orders of entries that stand for each other. In both, every entry comes behind its
    sources. -/
structure Matching (V : Value → Value → Prop) (O : Outcome → Outcome → Prop) (n n' : Node)
    (c : Context) (root? root?' : Option Tree) (atRoot : Bool) (es es' : List Schema.Entry) :
    Prop where
  ordered : Slot.IsOrdered (Entry.slot atRoot) es
  nodup : (es.map Entry.name).Nodup
  ordered' : Slot.IsOrdered (Entry.slot atRoot) es'
  nodup' : (es'.map Entry.name).Nodup
  partner : ∀ e ∈ es, ∃ e' ∈ es', Counterpart V O n n' c root? root?' atRoot e e'
  partner' : ∀ e' ∈ es', ∃ e ∈ es, Counterpart V O n n' c root? root?' atRoot e e'

theorem rel_flip {α β : Type} {R : α → β → Prop} {a : Option α} {b : Option β}
    (h : Option.Rel (fun y x => R x y) b a) : Option.Rel R a b := by
  cases h with
  | none => exact .none
  | some h => exact .some h

theorem Counterpart.flip {e e' : Schema.Entry}
    (h : Counterpart V O n n' c root? root?' atRoot e e') :
    Counterpart (fun w v => V v w) (fun o' o => O o o') n' n c root?' root? atRoot e' e where
  name := h.name.symm
  sources x := (h.sources x).symm
  agree t' t hseen := by
    refine (h.agree t t' ⟨?_, fun x hx => ?_⟩).symm fun _ _ h => h
    · rw [← h.name]
      exact rel_flip hseen.own
    · exact rel_flip (hseen.source x ((h.sources x).1 hx))

theorem Matching.flip (h : Matching V O n n' c root? root?' atRoot es es') :
    Matching (fun w v => V v w) (fun o' o => O o o') n' n c root?' root? atRoot es' es where
  ordered := h.ordered'
  nodup := h.nodup'
  ordered' := h.ordered
  nodup' := h.nodup
  partner e' he' := by
    obtain ⟨e, he, hee'⟩ := h.partner' e' he'
    exact ⟨e, he, hee'.flip⟩
  partner' e he := by
    obtain ⟨e', he', hee'⟩ := h.partner e he
    exact ⟨e', he', hee'.flip⟩

/-- Both orders are of the same names. -/
theorem Matching.mem_names (h : Matching V O n n' c root? root?' atRoot es es') {x : String} :
    x ∈ es.map Entry.name ↔ x ∈ es'.map Entry.name := by
  constructor
  · intro hx
    obtain ⟨e, he, rfl⟩ := List.mem_map.1 hx
    obtain ⟨e', he', hee'⟩ := h.partner e he
    exact hee'.name ▸ List.mem_map_of_mem he'
  · intro hx
    obtain ⟨e', he', rfl⟩ := List.mem_map.1 hx
    obtain ⟨e, he, hee'⟩ := h.partner' e' he'
    exact hee'.name ▸ List.mem_map_of_mem he

/-! ### Following one order in another one -/

/-- A tree on the way of the second order, where the first one went from `t` to `u`: the names of the
    entries done hold what they resolve to, the others what was sent. -/
structure Midway (V : Value → Value → Prop) (t u : Tree) (names : List String) (here : Tree) :
    Prop where
  done : ∀ x ∈ names, RelatedAt V u here x
  rest : ∀ x, x ∉ names → RelatedAt V t here x

/-- What the first order saw for an entry, the second one sees for its counterpart. -/
theorem Midway.seenAlike (h : Matching V O n n' c root? root?' atRoot es es') {t u : Tree}
    {os : Outcomes} {j k : Journal}
    (hrun : (evaluateParts c root? (es.map fun e => (e, entryEvaluator n e)) t).start j =
      (.ok (os, u), k)) {pre post : List Schema.Entry} {e e' : Schema.Entry}
    (hsplit : es' = pre ++ e' :: post) (hee' : Counterpart V O n n' c root? root?' atRoot e e')
    {o : Outcome} {here here' : Tree} (hvisit : Visit n c root? atRoot t u e o here)
    (hmid : Midway V t u (pre.map Entry.name) here') : SeenAlike V atRoot e here here' := by
  have hown : RelatedAt V here here' e.name := by
    -- The name of an entry is done only behind it.
    have hpre := (Node.name_notMem_of_split hsplit h.nodup').1
    rw [hee'.name] at hpre
    rw [RelatedAt, hvisit.own]
    exact hmid.rest _ hpre
  refine ⟨hown, fun x hx => ?_⟩
  by_cases hne : x = e.name
  · exact hne ▸ hown
  rw [RelatedAt, ← hvisit.source x hx hne]
  by_cases hpre : x ∈ pre.map Entry.name
  · exact hmid.done x hpre
  · -- A source that is not done in the second order is not declared, and never changes.
    have hundeclared : x ∉ es.map Entry.name := by
      rw [h.mem_names]
      intro hdeclared
      obtain ⟨e'', he'', rfl⟩ := List.mem_map.1 hdeclared
      obtain ⟨y, hy, hname⟩ := h.ordered' pre e' post hsplit e''.name ((hee'.sources _).1 hx)
        (fun heq => hne (heq.trans hee'.name)) ⟨e'', he'', rfl⟩
      exact hpre (List.mem_map.2 ⟨y, hy, hname⟩)
    rw [evaluateParts_frame hrun hundeclared]
    exact hmid.rest x hpre

/-- The next entry of the second order resolves to what it resolved to in the first one. -/
theorem Midway.next
    (hO : ∀ o o', O o o' → Option.Rel V (o.resolved.map (·.tree)) (o'.resolved.map (·.tree)))
    {t u here here' : Tree} {names : List String} {e e' : Schema.Entry} {o o' : Outcome}
    (hmid : Midway V t u names here') (hname : e'.name = e.name)
    (hvisit : Visit n c root? atRoot t u e o here) (hown : RelatedAt V here here' e.name)
    (ho : O o o') : Midway V t u (names ++ [e'.name]) (o'.resolve e'.name here') := by
  have hresolved : RelatedAt V u (o'.resolve e'.name here') e'.name := by
    have htree := hO o o' ho
    rw [RelatedAt, hname, hvisit.resolved]
    rw [Outcome.resolve, Outcome.resolve]
    generalize o.resolved = r? at htree
    generalize o'.resolved = r?' at htree
    rcases r? with _ | r <;> rcases r?' with _ | r'
    · exact hown
    · cases htree
    · cases htree
    · dsimp only
      rw [Tree.get?_put_self, Tree.get?_put_self]
      exact htree
  constructor
  · intro x hx
    by_cases hne : x = e'.name
    · exact hne ▸ hresolved
    · rw [List.mem_append, List.mem_singleton] at hx
      rw [RelatedAt, Outcome.get?_resolve_of_ne hne]
      exact hmid.done x (hx.resolve_right hne)
  · intro x hx
    rw [List.mem_append, List.mem_singleton, not_or] at hx
    rw [RelatedAt, Outcome.get?_resolve_of_ne hx.2]
    exact hmid.rest x hx.1

/-- Where the first order answers, the second one does so too from any point on its way, with related
    outcomes. -/
theorem follow
    (hO : ∀ o o', O o o' → Option.Rel V (o.resolved.map (·.tree)) (o'.resolved.map (·.tree)))
    (h : Matching V O n n' c root? root?' atRoot es es') {t u : Tree} {os : Outcomes} {j k : Journal}
    (hrun : (evaluateParts c root? (es.map fun e => (e, entryEvaluator n e)) t).start j =
      (.ok (os, u), k)) {pre post : List Schema.Entry} (hsplit : es' = pre ++ post) {here : Tree}
    (hmid : Midway V t u (pre.map Entry.name) here) (i : Journal) :
    ∃ os' u' l, (evaluateParts c root?' (post.map fun e => (e, entryEvaluator n' e)) here).start i =
        (.ok (os', u'), l) ∧
      (∀ x ∈ post.map Entry.name, Option.Rel O (os.lookup x) (os'.lookup x)) ∧
      Midway V t u (es'.map Entry.name) u' := by
  induction post generalizing pre here i with
  | nil =>
    rw [List.append_nil] at hsplit
    exact ⟨[], here, i, rfl, fun x hx => absurd hx List.not_mem_nil, hsplit ▸ hmid⟩
  | cons e' post ih =>
    -- The counterpart of the next entry was visited on the way of the first order, where it saw what
    -- the next entry sees now.
    obtain ⟨e, he, hee'⟩ := h.partner' e' (by simp [hsplit])
    obtain ⟨o, there, hlookup, hvisit⟩ := exists_visit h.ordered h.nodup hrun he
    have hseen := Midway.seenAlike h hrun hsplit hee' hvisit hmid
    obtain ⟨_, _, hentry⟩ := hvisit.run
    obtain ⟨o', i', hentry', ho⟩ := (hee'.agree _ _ hseen).answer hentry i
    have hnext := hmid.next hO hee'.name hvisit hseen.own ho
    rw [show pre.map Entry.name ++ [e'.name] = (pre ++ [e']).map Entry.name by simp] at hnext
    obtain ⟨os', u', l, hrest, hos, hu⟩ := ih (by simp [hsplit]) hnext i'
    refine ⟨(e'.name, o') :: os', u', l, ?_, fun x hx => ?_, hu⟩
    · simp only [List.map_cons, evaluateParts, Run.start_bind_eq_ok]
      exact ⟨o', i', hentry', (os', u'), l, hrest, rfl⟩
    · rw [List.lookup_cons]
      by_cases hne : x = e'.name
      · subst hne
        rw [hee'.name, hlookup, beq_self_eq_true]
        exact .some ho
      · rw [beq_false_of_ne hne]
        rw [List.map_cons, List.mem_cons] at hx
        exact hos x (hx.resolve_left hne)

/-- The outcomes under each name are related, and the trees hold related values. -/
def PartsRelated (V : Value → Value → Prop) (O : Outcome → Outcome → Prop)
    (p q : Outcomes × Tree) : Prop :=
  (∀ x, Option.Rel O (p.1.lookup x) (q.1.lookup x)) ∧ ∀ x, RelatedAt V p.2 q.2 x

/-- Where the first order answers, the second one does, with related outcomes and trees. -/
theorem follow_whole
    (hO : ∀ o o', O o o' → Option.Rel V (o.resolved.map (·.tree)) (o'.resolved.map (·.tree)))
    (h : Matching V O n n' c root? root?' atRoot es es') {t t' : Tree}
    (ht : ∀ x, RelatedAt V t t' x) {p : Outcomes × Tree} {j k : Journal}
    (hrun : (evaluateParts c root? (es.map fun e => (e, entryEvaluator n e)) t).start j = (.ok p, k))
    (i : Journal) :
    ∃ q l, (evaluateParts c root?' (es'.map fun e => (e, entryEvaluator n' e)) t').start i =
      (.ok q, l) ∧ PartsRelated V O p q := by
  obtain ⟨os, u⟩ := p
  have hstart : Midway V t u ([].map Entry.name) t' :=
    ⟨fun x hx => absurd hx List.not_mem_nil, fun x _ => ht x⟩
  obtain ⟨os', u', l, hrun', hos, hmid⟩ := follow hO h hrun (List.nil_append es').symm hstart i
  refine ⟨(os', u'), l, hrun', fun x => ?_, fun x => ?_⟩
  · by_cases hx : x ∈ es'.map Entry.name
    · exact hos x hx
    · rw [lookup_eq_none_of_evaluateParts hrun' hx,
        lookup_eq_none_of_evaluateParts hrun (fun h' => hx (h.mem_names.1 h'))]
      exact .none
  · by_cases hx : x ∈ es'.map Entry.name
    · exact hmid.done x hx
    · rw [RelatedAt, evaluateParts_frame hrun (fun h' => hx (h.mem_names.1 h'))]
      exact hmid.rest x hx

/-- Two orders of entries that stand for each other lead to related outcomes and trees, or both to a
    fault. -/
theorem evaluateParts_agree_of_matching
    (hO : ∀ o o', O o o' → Option.Rel V (o.resolved.map (·.tree)) (o'.resolved.map (·.tree)))
    (h : Matching V O n n' c root? root?' atRoot es es') {t t' : Tree}
    (ht : ∀ x, RelatedAt V t t' x) :
    Run.Agree (PartsRelated V O)
      (evaluateParts c root? (es.map fun e => (e, entryEvaluator n e)) t)
      (evaluateParts c root?' (es'.map fun e => (e, entryEvaluator n' e)) t') := by
  refine .of_answers (fun j p k hrun i => follow_whole hO h ht hrun i) fun j q k hrun i => ?_
  -- The other direction is the same with the orders exchanged.
  obtain ⟨p, l, hrun', -⟩ := follow_whole
    (fun o' o ho => rel_flip (hO o o' ho)) h.flip (fun x => rel_flip (ht x)) hrun i
  exact ⟨p, l, hrun'⟩

end Matching

end Intake.Build
