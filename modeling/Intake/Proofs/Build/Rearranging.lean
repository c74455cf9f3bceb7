import Intake.Proofs.Build.Reordering
import Intake.Proofs.Build.Spelling

/-!
# Builds of inputs in another order

The order of the maps in an input does not matter: alike inputs are built to alike results
(`build_alike`), if what the user supplies does not depend on the order of maps either
(`IsInsensitive`). The likeness leaves out what shows the order, which are messages and the order of
names and failures in payloads.

In both builds the entries are evaluated in the same order, each of them in alike scopes
(`ScopesAlike`): all paths lead to alike values there, or to the same fault. Outcomes that are alike
leave alike trees behind, so that the scopes of the next entry are alike again. The nodes below are
built alike by induction (`BuildsRearranged`), whatever root they are built against.
-/

namespace Intake.Build

open Intake.Schema Intake.Failure

open Likeness (alike alike_lawful)

/-! ### Alike scopes -/

/-- Places in alike trees, in one context. -/
structure ScopesAlike (s s' : Scope) : Prop where
  context : s.context = s'.context
  tree : s.tree.Alike s'.tree
  root : s.root.Alike s'.root

/-- All paths lead to alike values, or to the same fault. -/
theorem ScopesAlike.lookup {s s' : Scope} (h : ScopesAlike s s') (path : String) :
    Run.SameEnd (Option.Rel Value.Alike) (s.lookup path) (s'.lookup path) := by
  rw [Scope.lookup, Scope.lookup, Path.resolve, Path.resolve]
  split
  · exact Path.find_alike _ h.root.toValue
  · exact Path.find_alike _ h.tree.toValue

/-- The evaluation of a field reads alike values in alike scopes. -/
theorem ScopesAlike.reads {s s' : Scope} (h : ScopesAlike s s') (f : Field) :
    ReadsAlike alike f s s' := by
  have hsent : Option.Rel Value.Alike (s.tree.sent? f.name) (s'.tree.sent? f.name) :=
    Run.rel_filter (h.tree.get? f.name) fun _ _ hvw => by rw [hvw.isNull]
  exact .of_lookups hsent
    (fun path _ => ((h.lookup path).imp fun _ _ => Run.rel_isSome).map_eq)
    fun path _ => (h.lookup path).matched

/-- Scopes of alike trees with alike roots are alike. -/
theorem ScopesAlike.of_roots {root? root?' : Option Tree} (h : Option.Rel Tree.Alike root? root?')
    (c : Context) {t t' : Tree} (ht : t.Alike t') :
    ScopesAlike (scopeOf c root? t) (scopeOf c root?' t') := by
  cases h with
  | none => exact ⟨rfl, ht, ht⟩
  | some h => exact ⟨rfl, ht, h⟩

/-! ### Entries -/

/-- The builder of a node builds alike maps to alike results, with alike roots. -/
def BuildsRearranged (n : Node) : Prop :=
  ∀ c root? root?', Option.Rel Tree.Alike root? root?' → ∀ es es', Value.Alike (.map es) (.map es') →
    Run.Agree alike.Built (nodeBuilder n c root? es) (nodeBuilder n c root?' es')

section Entries

variable {n : Node} {s s' : Scope}

/-- What stands below a field is built alike in alike scopes. -/
theorem childBuilder_rearranged {f : Field} (hs : ScopesAlike s s')
    (hbuilds : ∀ m, f.child.node? = some m → BuildsRearranged m) :
    Option.Rel (BelowAgree alike f f.child s s') (childBuilder f.child) (childBuilder f.child) := by
  have hagree : ∀ m, f.child.node? = some m →
      BuildersAgree alike s s' (nodeBuilder m) (nodeBuilder m) := by
    intro m hm es es' hes
    rw [← hs.context]
    exact hbuilds m hm s.context _ _ (.some hs.root) es es' hes
  cases hchild : f.child with
  | none => exact .none
  | single m => exact .some (buildSingle_agree alike_lawful (hagree m (by rw [hchild]; rfl)))
  | many m => exact .some (buildMany_agree alike_lawful (hagree m (by rw [hchild]; rfl)))

/-- An entry is evaluated alike in alike scopes, if the nodes below it are built alike. -/
theorem entryEvaluator_rearranged {e : Schema.Entry} (hn : IsInsensitive n)
    (hbuilds : ∀ f ∈ n.fields, ∀ m, f.child.node? = some m → BuildsRearranged m)
    (he : e ∈ n.entries) (hs : ScopesAlike s s') :
    Run.Agree alike.Outcome (entryEvaluator n e s) (entryEvaluator n e s') := by
  refine entryEvaluator_alike alike_lawful rfl rfl
    (fun f hf => hn.field f (Node.mem_fields he hf)) (List.forall₂_same.2 fun f hf => ?_)
  exact ⟨(Field.withChild_child f).symm, hs.reads f,
    childBuilder_rearranged hs (hbuilds f (Node.mem_fields he hf))⟩

/-- Entries are evaluated alike, one after the other. -/
theorem evaluateParts_rearranged {es : List Schema.Entry}
    (h : ∀ e ∈ es, ∀ s s', ScopesAlike s s' →
      Run.Agree alike.Outcome (entryEvaluator n e s) (entryEvaluator n e s'))
    (c : Context) {root? root?' : Option Tree} (hroots : Option.Rel Tree.Alike root? root?')
    {t t' : Tree} (ht : t.Alike t') :
    Run.Agree (fun p q => Named (fun _ => alike.Outcome) p.1 q.1 ∧ p.2.Alike q.2)
      (evaluateParts c root? (es.map fun e => (e, entryEvaluator n e)) t)
      (evaluateParts c root?' (es.map fun e => (e, entryEvaluator n e)) t') := by
  refine evaluateParts_compared .agree (R := fun _ => alike.Outcome) ?_
    (fun e he t t' ht => h e he _ _ (.of_roots hroots c ht)) ht
  exact fun name o o' t t' ho ht =>
    Outcome.resolve_related ho.resolved ht fun r r' hr => ht.put name hr.tree

/-- The clauses of an entry are rejected alike in alike scopes. -/
theorem rejectionsOf_rearranged (hn : n.IsProper) (hinsensitive : IsInsensitive n)
    (hs : ScopesAlike s s') {os os' : Outcomes} (hof : OutcomesOf n os)
    (hos : Named (fun _ => alike.Outcome) os os') {e : Schema.Entry} (he : e ∈ n.entries) :
    Run.Agree (Rearranged Failure.Entry.Alike) (rejectionsOf n s os e) (rejectionsOf n s' os' e) := by
  obtain ⟨hresolved, -, hclauses⟩ := of_alike hos.lookup (Entry.reordered_refl e)
  rw [rejectionsOf, rejectionsOf, ← Run.rel_isSome hresolved, ← hclauses]
  split
  · rcases hof.clauses hn he with hnil | ⟨f, hf, -⟩
    · rw [hnil]
      exact .pure (rearranged_refl [])
    · exact Domain.evaluate_agree alike_lawful
        (hinsensitive.field f (Node.mem_fields he hf)).functions e.name _
        fun _ _ path _ => (hs.lookup path).matched
  · exact .pure (rearranged_refl [])

end Entries

/-! ### Nodes -/

section Nodes

variable {n : Node}

theorem evaluateNode_rearranged (hn : n.IsProper) (hinsensitive : IsInsensitive n)
    (hbuilds : ∀ f ∈ n.fields, ∀ m, f.child.node? = some m → BuildsRearranged m) (c : Context)
    {root? root?' : Option Tree} (hroots : Option.Rel Tree.Alike root? root?') {t t' : Tree}
    (ht : t.Alike t') :
    Run.Agree alike.Built
      (evaluateNode n (n.entries.map fun e => (e, entryEvaluator n e)) c root? t)
      (evaluateNode n (n.entries.map fun e => (e, entryEvaluator n e)) c root?' t') := by
  have hsame := Node.reordered_refl n
  have hatRoot : root?.isNone = root?'.isNone := by
    rw [← Option.not_isSome, ← Option.not_isSome, Run.rel_isSome hroots]
  have hrefusal := refusal?_alike hsame c.mode ht
  rw [evaluateNode, evaluateNode]
  generalize refusal? n c.mode t = p? at hrefusal
  generalize refusal? n c.mode t' = q? at hrefusal
  rcases hrefusal with hpq | _
  · exact .pure ⟨.error hpq, ht.toValue⟩
  dsimp only
  rw [hatRoot, orderedParts_eq]
  have hmem : ∀ e ∈ evaluationOrder root?'.isNone n.entries, e ∈ n.entries :=
    fun _ => Node.mem_evaluationOrder.1
  refine ((evaluateParts_rearranged (fun e he s s' hs => entryEvaluator_rearranged hinsensitive
    hbuilds (hmem e he) hs) c hroots ht).and_left (P := fun p => OutcomesOf n p.1) ?_).bind ?_
  · exact fun _ _ _ hrun => outcomesOf_of_evaluateParts hn hmem hrun
  rintro ⟨os, u⟩ ⟨os', u'⟩ ⟨⟨hos, hu⟩, hof⟩
  refine (Run.Agree.mapM (List.forall₂_same.2 fun e he =>
    rejectionsOf_rearranged hn hinsensitive (.of_roots hroots c hu) hof hos he)).bind
      fun rejected rejected' hrejected => ?_
  -- Alike outcomes have alike failures and values, for which the node settles alike.
  refine (settle_agree alike_lawful rfl rfl hinsensitive.main
    (fun _ _ => recordOf_alike hsame hn)
    ((failures_alike hsame hos.lookup).append (Rearranged.of_forall₂ hrejected).flatten)
    (valuesOf_alike hsame hn hos.lookup)).bind fun r r' hr => ?_
  exact .pure ⟨hr, hu.toValue⟩

/-- A node is built alike for alike inputs, by induction on the nodes below. -/
theorem nodeBuilder_rearranged (n : Node) :
    n.WellFormed → (∀ m, n.Spans m → IsInsensitive m) → BuildsRearranged n := by
  induction n using Node.below_induction with
  | h n ih =>
    intro hn hinsensitive c root? root?' hroots es es' hes
    rw [nodeBuilder_eq_buildWith, buildWith]
    refine (Run.Agree.ofExcept (Tree.read_alike hes)).bind fun t t' ht => ?_
    refine (trace_agree c _ _ _ _).bind fun _ _ _ => ?_
    refine (evaluateNode_rearranged hn.proper (hinsensitive n (.self n)) (fun f hf m hm =>
      ih f hf m hm (hn.child hf hm) fun k hk => hinsensitive k (.child hf hm hk)) c hroots ht).bind ?_
    rintro ⟨r, u⟩ ⟨r', u'⟩ hbuilt
    exact (announce_agree rfl c hbuilt.result).bind fun _ _ _ => .pure hbuilt

/-- Inputs that differ in the order of maps are built to alike results, or both end in a fault. -/
theorem build_alike (hn : n.WellFormed) (hinsensitive : ∀ m, n.Spans m → IsInsensitive m)
    (c : Context) {v w : Value} (h : v.Alike w) :
    Run.Agree (fun p q => alike.Result p.1 q.1) (build n c v) (build n c w) := by
  have hmap := alike_lawful.isMap v w h
  have htype := alike_lawful.typeName v w h
  simp only [build]
  cases v with
  | map es =>
    cases w with
    | map es' =>
      exact (nodeBuilder_rearranged n hn hinsensitive c none none .none es es' h).bind
        fun _ _ hbuilt => .pure hbuilt.result
    | _ => cases hmap
  | _ =>
    cases w with
    | map es' => cases hmap
    | _ =>
      dsimp only
      rw [htype]
      split
      · exact (Run.Agree.log (R := Eq) rfl _ _ _ _).bind fun _ _ _ => .throw _ _
      · exact .pure (.error (.refl _))

end Nodes

end Intake.Build
