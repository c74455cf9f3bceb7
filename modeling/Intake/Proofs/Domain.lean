import Intake.Domain.Evaluation
import Intake.Proofs.Check.Stage

/-!
# Clauses about alike values

A clause reads the value at its path and, where it demands the value of a further place, the one
there (`Clause.reads`). Where the lookups give alike values at these paths, the clause is satisfied
by both or by none (`evaluateClause_agree`).

A clause holds (`Clause.Holds`) when its place is absent though the clause is not required, or when
the value there conforms, whatever has happened before. The evaluation finds no failures exactly
when all clauses hold (`holds_of_evaluate`).
-/

namespace Intake.Domain

open Intake.Rule Intake.Failure

/-- The further path that a demand reads. -/
def Demand.reads : Demand → List String
  | .samePath path => [path]
  | _ => []

/-- The paths that a clause reads. -/
def Clause.reads (c : Clause) : List String :=
  c.path :: c.demand.reads

variable {L : Likeness} {functions : Functions} {lookup lookup' : Lookup}

/-- The lookups give alike values at a path. -/
def SameAt (L : Likeness) (lookup lookup' : Lookup) (path : String) : Prop :=
  Run.Matched (Option.Rel L.value) (lookup path) (lookup' path)

theorem holds_agree (hfunctions : L.RespectsAll functions) (hL : L.Lawful) (f : FunctionRef)
    {v w : Value} (hvw : L.value v w) :
    Run.Agree Eq (holds functions f v) (holds functions f w) := by
  refine (Check.applyRef_agree hfunctions f hvw).bind fun r r' hr => ?_
  cases hr with
  | @plain u u' h =>
    rcases hL.eq_or_compound u u' h with rfl | ⟨hu, hu'⟩
    · cases u <;> first | exact .pure rfl | exact .throw _ _
    · cases u <;> cases hu <;> cases u' <;> cases hu' <;> exact .throw _ _
  | ok => exact .throw _ _
  | err => exact .throw _ _
  | message => exact .throw _ _
  | refused => exact .throw _ _

theorem conforms_agree (hL : L.Lawful) (hfunctions : L.RespectsAll functions) (d : Demand)
    (hlookup : ∀ path ∈ d.reads, SameAt L lookup lookup' path) {v w : Value} (hvw : L.value v w) :
    Run.Agree Eq (conforms functions lookup d v) (conforms functions lookup' d w) := by
  cases d with
  | members s =>
    refine .pure ?_
    exact hL.contains s v w hvw
  | function f => exact holds_agree hfunctions hL f hvw
  | samePath path =>
    refine (Run.Agree.ofExcept (hlookup path (List.mem_singleton_self path))).bind ?_
    rintro _ _ (h | _)
    · exact .pure (hL.equals _ _ _ _ h hvw)
    · exact .pure rfl
  | either ds => exact Check.anyPasses_agree hL hfunctions ds hvw
  | equal u =>
    refine (Check.run_agree hL hfunctions _ hvw).bind fun x y hxy => ?_
    exact .pure hxy.isPass

theorem evaluateClause_agree (hL : L.Lawful) (hfunctions : L.RespectsAll functions)
    (field : String) (c : Clause) (hlookup : ∀ path ∈ c.reads, SameAt L lookup lookup' path) :
    Run.Agree L.failures (evaluateClause functions lookup field c)
      (evaluateClause functions lookup' field c) := by
  refine (Run.Agree.ofExcept (hlookup c.path List.mem_cons_self)).bind ?_
  rintro _ _ (@⟨v, w, hvw⟩ | _)
  · refine (conforms_agree hL hfunctions c.demand
      (fun path hpath => hlookup path (List.mem_cons_of_mem _ hpath)) hvw).bind fun b b' hb => ?_
    subst hb
    cases b
    · refine (Run.Agree.log (R := Eq) rfl _ _ _ _).bind fun _ _ _ => ?_
      exact .pure (hL.failures_refl _)
    · exact .pure (hL.failures_refl _)
  · exact .pure (hL.failures_refl _)

/-- The clauses of a field give alike failures. -/
theorem evaluate_agree (hL : L.Lawful) (hfunctions : L.RespectsAll functions) (field : String)
    (cs : List Clause) (hlookup : ∀ c ∈ cs, ∀ path ∈ c.reads, SameAt L lookup lookup' path) :
    Run.Agree L.failures (evaluate functions lookup field cs)
      (evaluate functions lookup' field cs) := by
  induction cs with
  | nil => exact .pure (hL.failures_refl _)
  | cons c cs ih =>
    refine (evaluateClause_agree hL hfunctions field c (hlookup c List.mem_cons_self)).bind
      fun es fs hes => ?_
    refine (ih fun c' hc' => hlookup c' (List.mem_cons_of_mem _ hc')).bind fun es' fs' hes' => ?_
    exact .pure (hL.failures_append _ _ _ _ hes hes')

/-! ### Clauses that hold -/

/-- The value conforms to a demand, whatever has happened before. -/
def Demand.IsMet (functions : Functions) (lookup : Lookup) (d : Demand) (v : Value) : Prop :=
  ∀ j, ((conforms functions lookup d v).start j).1 = .ok true

/-- The place of the clause is absent, and the clause is not required, or the value there
    conforms. -/
def Clause.Holds (functions : Functions) (lookup : Lookup) (c : Clause) : Prop :=
  (lookup c.path = .ok none ∧ c.required = false) ∨
    ∃ v, lookup c.path = .ok (some v) ∧ c.demand.IsMet functions lookup v

/-- Equal values are found at a path. -/
theorem sameAt_same {path : String} (h : lookup path = lookup' path) :
    SameAt .same lookup lookup' path := by
  rw [SameAt, h]
  exact .refl Likeness.same_rel _

/-- Whether a clause holds depends on what its paths lead to. -/
theorem Clause.Holds.congr {c : Clause} (h : c.Holds functions lookup)
    (hlookup : ∀ path ∈ c.reads, lookup path = lookup' path) : c.Holds functions lookup' := by
  rw [Clause.Holds, ← hlookup c.path List.mem_cons_self]
  rcases h with h | ⟨v, hv, hmet⟩
  · exact .inl h
  · refine .inr ⟨v, hv, fun j => ?_⟩
    have hagree := conforms_agree Likeness.same_lawful (Likeness.same_respectsAll functions) c.demand
      (fun path hpath => sameAt_same (hlookup path (List.mem_cons_of_mem _ hpath)))
      (show Likeness.same.value v v from rfl)
    obtain ⟨b, k, hb, rfl⟩ := hagree.answer (Prod.ext (hmet j) rfl) j
    rw [hb]

/-- A clause is evaluated alike where its place is the same in both lookups and, if there is something
    at it, what the demand reads as well. -/
theorem evaluateClause_congr {c : Clause} (h : lookup c.path = lookup' c.path)
    (hother : ∀ v, lookup c.path = .ok (some v) →
      ∀ path ∈ c.demand.reads, lookup path = lookup' path)
    (functions : Functions) (field : String) :
    evaluateClause functions lookup field c = evaluateClause functions lookup' field c := by
  rw [evaluateClause, evaluateClause, ← h]
  cases hfound : lookup c.path with
  | error e => rfl
  | ok v? =>
    cases v? with
    | none => rfl
    | some v =>
      have hconforms : conforms functions lookup c.demand v =
          conforms functions lookup' c.demand v := by
        have hother := hother v hfound
        cases hd : c.demand with
        | samePath path =>
          rw [hd] at hother
          rw [conforms, conforms, hother path List.mem_cons_self]
        | _ => rfl
      simp only [Run.ofExcept, pure_bind, hconforms]

/-- The entries of a clause that is not satisfied are about the field and the path of the clause. -/
theorem ofDomain_of_evaluateClause {field : String} {c : Clause} {es : List Entry} {j k : Journal}
    (h : (evaluateClause functions lookup field c).start j = (.ok es, k)) :
    ∀ e ∈ es, ∃ missing, e = .ofDomain field c.path missing := by
  rw [evaluateClause] at h
  rw [Run.start_bind_eq_ok] at h
  obtain ⟨found, _, -, h⟩ := h
  cases found with
  | none =>
    cases h
    split
    · exact fun e he => ⟨true, List.mem_singleton.1 he⟩
    · exact fun e he => absurd he List.not_mem_nil
  | some v =>
    rw [Run.start_bind_eq_ok] at h
    obtain ⟨b, _, -, h⟩ := h
    cases b with
    | true =>
      cases h
      exact fun e he => absurd he List.not_mem_nil
    | false =>
      rw [if_neg Bool.false_ne_true, Run.start_bind_eq_ok] at h
      obtain ⟨_, _, -, h⟩ := h
      cases h
      exact fun e he => ⟨false, List.mem_singleton.1 he⟩

/-- The entries of clauses are about the field and the path of one of the clauses. -/
theorem ofDomain_of_evaluate {field : String} {cs : List Clause} {es : List Entry} {j k : Journal}
    (h : (evaluate functions lookup field cs).start j = (.ok es, k)) :
    ∀ e ∈ es, ∃ c ∈ cs, ∃ missing, e = .ofDomain field c.path missing := by
  induction cs generalizing j es with
  | nil =>
    cases h
    exact fun e he => absurd he List.not_mem_nil
  | cons c cs ih =>
    simp only [evaluate, Run.start_bind_eq_ok, Run.start_pure] at h
    obtain ⟨own, _, hown, rest, _, hrest, heq⟩ := h
    cases heq
    intro e he
    rcases List.mem_append.1 he with he | he
    · exact ⟨c, List.mem_cons_self, ofDomain_of_evaluateClause hown e he⟩
    · obtain ⟨c', hc', he⟩ := ih hrest e he
      exact ⟨c', List.mem_cons_of_mem _ hc', he⟩

end Intake.Domain
