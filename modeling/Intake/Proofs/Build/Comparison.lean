import Intake.Build.Node
import Intake.Proofs.Run

/-!
# Comparing the steps of two builds

Two builds of a node go through the same steps, and are compared step by step. What is said of one
step differs from one comparison to the next, and so does the way in which runs compare
(`Run.Comparison`), but how the steps follow each other does not:

* candidates are tried in turn, with the fills of those before them, until one of them is clean
  (`evaluateCandidates_compared`);
* entries are evaluated in turn, each against the tree that those before it have resolved to
  (`evaluateParts_compared`). The trees are related all along by a relation that resolved entries
  keep. Where it is equality, so is the relation of what the steps come to (`evaluateParts_same`).

The outcomes of two builds are related under the same names, in the same order (`Named`).
-/

namespace Intake

/-! ### Items under the same names -/

/-- Lists with the same names in the same order, and related items under each name. -/
def Named {α : Type} (R : String → α → α → Prop) : List (String × α) → List (String × α) → Prop :=
  List.Forall₂ fun p q => p.1 = q.1 ∧ R p.1 p.2 q.2

namespace Named

variable {α : Type} {R : String → α → α → Prop} {l m : List (String × α)}

theorem refl (h : ∀ name a, R name a a) (l : List (String × α)) : Named R l l :=
  List.forall₂_same.2 fun p _ => ⟨rfl, h p.1 p.2⟩

/-- Equal items under the same names make the same list. -/
theorem eq (h : Named (fun _ => Eq) l m) : l = m := by
  induction h with
  | nil => rfl
  | cons hpq _ ih => rw [Prod.ext hpq.1 hpq.2, ih]

theorem names_eq (h : Named R l m) : l.map Prod.fst = m.map Prod.fst := by
  induction h with
  | nil => rfl
  | cons hpq _ ih => rw [List.map_cons, List.map_cons, hpq.1, ih]

theorem lookup (h : Named R l m) (name : String) :
    Option.Rel (R name) (l.lookup name) (m.lookup name) := by
  induction h with
  | nil => exact .none
  | @cons p q l m hpq _ ih =>
    rw [List.lookup_cons, List.lookup_cons, ← hpq.1]
    by_cases hname : name = p.1
    · subst hname
      simp only [beq_self_eq_true]
      exact .some hpq.2
    · simpa only [beq_false_of_ne hname] using ih

theorem put {R : String → Value → Value → Prop} {t t' : Tree} (h : Named R t t') {name : String}
    {v w : Value} (hvw : R name v w) : Named R (t.put name v) (t'.put name w) := by
  induction h with
  | nil => exact .cons ⟨rfl, hvw⟩ .nil
  | @cons p q t t' hpq ht ih =>
    rw [Tree.put, Tree.put, ← hpq.1]
    split
    · exact .cons ⟨rfl, hvw⟩ ht
    · exact .cons hpq ih

end Named

namespace Build

/-! ### Steps of nodes -/

/-- Related outcomes resolve to related trees, where values put under the name keep the relation. -/
theorem Outcome.resolve_related {T : Tree → Tree → Prop} {Q : Resolved → Resolved → Prop}
    {name : String} {o o' : Outcome} (h : Option.Rel Q o.resolved o'.resolved) {t t' : Tree}
    (ht : T t t') (hput : ∀ r r', Q r r' → T (t.put name r.tree) (t'.put name r'.tree)) :
    T (o.resolve name t) (o'.resolve name t') := by
  rw [Outcome.resolve, Outcome.resolve]
  generalize o.resolved = x at h
  generalize o'.resolved = y at h
  rcases h with hr | _
  · exact hput _ _ hr
  · exact ht

variable (C : Run.Comparison)

/-- Candidates evaluated to related outcomes, with related fills, come to related outcomes, if of
    these both have failures or none. -/
theorem evaluateCandidates_compared {R : Outcome → Outcome → Prop} {P : Fills → Fills → Prop}
    (habsent : R .absent .absent) (hclean : ∀ o o', R o o' → o.isClean = o'.isClean) {s s' : Scope}
    {evaluators evaluators' : List FieldEvaluator}
    (h : List.Forall₂ (fun evaluate evaluate' => ∀ fills fills', P fills fills' →
      C.Holds (fun p q => R p.1 q.1 ∧ P p.2 q.2) (evaluate s fills) (evaluate' s' fills'))
      evaluators evaluators')
    {fills fills' : Fills} (hfills : P fills fills') :
    C.Holds R (evaluateCandidates s evaluators fills)
      (evaluateCandidates s' evaluators' fills') := by
  induction h generalizing fills fills' with
  | nil => exact C.pure habsent
  | cons h hs ih =>
    cases hs with
    | nil => exact C.bind (h _ _ hfills) fun p q hpq => C.pure hpq.1
    | cons h' hs' =>
      refine C.bind (h _ _ hfills) ?_
      rintro ⟨o, fills⟩ ⟨o', fills'⟩ ⟨ho, hfills⟩
      dsimp only
      rw [hclean o o' ho]
      split
      · exact C.pure ho
      · exact ih hfills

variable {c c' : Context} {root? root?' : Option Tree} {es : List Schema.Entry}
  {evaluate evaluate' : Schema.Entry → EntryEvaluator}

/-- Entries evaluated to related outcomes in related trees leave related trees behind, if an outcome
    resolves to a related tree in each of two related trees. -/
theorem evaluateParts_compared {T : Tree → Tree → Prop} {R : String → Outcome → Outcome → Prop}
    (hresolve : ∀ name o o' t t', R name o o' → T t t' →
      T (o.resolve name t) (o'.resolve name t'))
    (h : ∀ e ∈ es, ∀ t t', T t t' →
      C.Holds (R e.name) (evaluate e (scopeOf c root? t)) (evaluate' e (scopeOf c' root?' t')))
    {t t' : Tree} (ht : T t t') :
    C.Holds (fun p q => Named R p.1 q.1 ∧ T p.2 q.2)
      (evaluateParts c root? (es.map fun e => (e, evaluate e)) t)
      (evaluateParts c' root?' (es.map fun e => (e, evaluate' e)) t') := by
  induction es generalizing t t' with
  | nil => exact C.pure ⟨.nil, ht⟩
  | cons e rest ih =>
    rw [List.forall_mem_cons] at h
    simp only [List.map_cons, evaluateParts]
    refine C.bind (h.1 t t' ht) fun o o' ho => ?_
    exact C.bind (ih h.2 (hresolve e.name o o' t t' ho ht)) fun p q hpq =>
      C.pure ⟨.cons ⟨rfl, ho⟩ hpq.1, hpq.2⟩

/-- Entries evaluated to the same outcomes in every tree resolve to the same tree. -/
theorem evaluateParts_same
    (h : ∀ e ∈ es, ∀ t,
      C.Holds Eq (evaluate e (scopeOf c root? t)) (evaluate' e (scopeOf c' root?' t))) (t : Tree) :
    C.Holds Eq (evaluateParts c root? (es.map fun e => (e, evaluate e)) t)
      (evaluateParts c' root?' (es.map fun e => (e, evaluate' e)) t) := by
  refine C.imp (fun p q hpq => Prod.ext hpq.1.eq hpq.2)
    (evaluateParts_compared C (T := Eq) (R := fun _ => Eq) ?_ ?_ rfl)
  · rintro name o _ t _ rfl rfl
    rfl
  · rintro e he t _ rfl
    exact h e he t

end Build

end Intake
