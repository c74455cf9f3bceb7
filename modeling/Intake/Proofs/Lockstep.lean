import Intake.Proofs.Run

/-!
# Runs in step

Two runs are in step if they end alike from journals with the same calls: with the same fault, or
with related answers, and in journals with the same calls again. What is logged does not count. A run
that is in step with itself takes nothing from the journal but its calls; if it also raises no payload
as the failure of a node, it is a local one (`Run.Local`).

Either run may be halted on the way, by a fault that tells that it has come to a point behind which
nothing is said (`InStep S T`: the first run by a fault of `S`, the second one by a fault of `T`). A
run that has ended with a fault does nothing more, so that the runs need not be followed any further;
this is all that `InStep.bind` has to say about it.
-/

namespace Intake.Run

variable {α β γ δ : Type}

/-- The result is a fault of the kind. -/
def Halts (S : Fault → Prop) (r : Except Fault α) : Prop :=
  ∃ e, r = .error e ∧ S e

/-- Both results are the same error, or both are answers and related. -/
def SameEnd {ε : Type} (R : α → β → Prop) : Except ε α → Except ε β → Prop
  | .ok a, .ok b => R a b
  | .error e, .error e' => e = e'
  | _, _ => False

section SameEnd

variable {ε : Type} {R Q : α → β → Prop}

theorem SameEnd.of_eq {x y : Except ε α} (h : x = y) : SameEnd Eq x y := by
  subst h
  cases x <;> rfl

theorem SameEnd.eq {x y : Except ε α} (h : SameEnd Eq x y) : x = y := by
  cases x <;> cases y
  · exact congrArg _ h
  · exact h.elim
  · exact h.elim
  · exact congrArg _ h

theorem SameEnd.imp (h : ∀ a b, R a b → Q a b) {x : Except ε α} {y : Except ε β}
    (hxy : SameEnd R x y) : SameEnd Q x y := by
  cases x <;> cases y
  · exact hxy
  · exact hxy
  · exact hxy
  · exact h _ _ hxy

theorem SameEnd.map_eq {f : α → γ} {g : β → γ} {x : Except ε α} {y : Except ε β}
    (h : SameEnd (fun a b => f a = g b) x y) : x.map f = y.map g := by
  cases x <;> cases y
  · exact congrArg Except.error h
  · exact h.elim
  · exact h.elim
  · exact congrArg Except.ok h

/-- Where two results end alike, both are errors or both are answers. -/
theorem SameEnd.matched {x : Except ε α} {y : Except ε β} (h : SameEnd R x y) : Matched R x y := by
  cases x <;> cases y
  · exact trivial
  · exact h
  · exact h
  · exact h

end SameEnd

/-- From journals with the same calls, one of the runs is halted, or both end alike, with the same
    calls. -/
def InStep (S T : Fault → Prop) (R : α → β → Prop) (x : Run α) (y : Run β) : Prop :=
  ∀ j k, j.calls = k.calls → Halts S (x.start j).1 ∨ Halts T (y.start k).1 ∨
    SameEnd R (x.start j).1 (y.start k).1 ∧ (x.start j).2.calls = (y.start k).2.calls

/-- No fault. -/
def never : Fault → Prop := fun _ => False

/-- The result is no payload that is raised. -/
def Unraised (r : Except Fault α) : Prop :=
  ∀ p name, r ≠ .error (.build p name)

/-- The run takes nothing from the journal but the calls, and raises no payload. -/
structure Local (x : Run α) : Prop where
  same : InStep never never Eq x x
  unraised : ∀ j, Unraised (x.start j).1

theorem not_halts_never {r : Except Fault α} : ¬Halts never r := fun ⟨_, _, h⟩ => h

/-- A run that does not end with the fault is not halted by it. -/
theorem not_halts_of_ne {halt : Fault} {r : Except Fault α} (h : r ≠ .error halt) :
    ¬Halts (· = halt) r := by
  rintro ⟨e, he, rfl⟩
  exact h he

/-- Runs that are in step and never halted end alike. -/
theorem InStep.ends {R : α → β → Prop} {x : Run α} {y : Run β} (h : InStep never never R x y)
    {j k : Journal} (hcalls : j.calls = k.calls) :
    SameEnd R (x.start j).1 (y.start k).1 ∧ (x.start j).2.calls = (y.start k).2.calls :=
  ((h j k hcalls).resolve_left not_halts_never).resolve_left not_halts_never

section InStep

variable {S T : Fault → Prop} {R : α → β → Prop}

theorem InStep.imp {Q : α → β → Prop} (h : ∀ a b, R a b → Q a b) {x : Run α} {y : Run β}
    (hxy : InStep S T R x y) : InStep S T Q x y := by
  intro j k hcalls
  exact (hxy j k hcalls).imp_right (Or.imp_right fun ⟨hend, hrest⟩ => ⟨hend.imp h, hrest⟩)

/-- Runs that are in step without being halted are in step however they may be halted. -/
theorem InStep.of_never {x : Run α} {y : Run β} (h : InStep never never R x y) :
    InStep S T R x y :=
  fun _ _ hcalls => .inr (.inr (h.ends hcalls))

theorem InStep.pure {a : α} {b : β} (h : R a b) :
    InStep S T R (Pure.pure a) (Pure.pure b) :=
  fun _ _ hcalls => .inr (.inr ⟨h, hcalls⟩)

theorem InStep.throw (e : Fault) : InStep S T R (throw e : Run α) (MonadExcept.throw e : Run β) :=
  fun _ _ hcalls => .inr (.inr ⟨rfl, hcalls⟩)

theorem InStep.ofExcept {x : Except Fault α} {y : Except Fault β} (h : SameEnd R x y) :
    InStep S T R (Run.ofExcept x) (Run.ofExcept y) := by
  intro j k hcalls
  rw [start_ofExcept, start_ofExcept]
  exact .inr (.inr ⟨h, hcalls⟩)

theorem InStep.log (R : Unit → Unit → Prop) (h : R () ()) (e e' : String)
    (d d' : List (String × Value)) : InStep S T R (Run.log e d) (Run.log e' d') :=
  fun _ _ hcalls => .inr (.inr ⟨h, hcalls⟩)

/-- A run that is halted stays so, whatever was to come behind it. -/
theorem halts_bind {x : Run α} (f : α → Run β) {j : Journal} (h : Halts S (x.start j).1) :
    Halts S ((x >>= f).start j).1 := by
  obtain ⟨e, he, hS⟩ := h
  refine ⟨e, ?_, hS⟩
  rw [start_bind]
  rcases hx : x.start j with ⟨e' | a, k⟩ <;> rw [hx] at he <;> cases he
  rfl

/-- Runs in step may be continued in step: a halted one is halted still, and otherwise both have
    ended, or both go on, with related answers. -/
theorem InStep.bind {Q : γ → δ → Prop} {x : Run α} {y : Run β} {f : α → Run γ} {g : β → Run δ}
    (hxy : InStep S T R x y) (hfg : ∀ a b, R a b → InStep S T Q (f a) (g b)) :
    InStep S T Q (x >>= f) (y >>= g) := by
  intro j k hcalls
  rcases hxy j k hcalls with hx | hy | ⟨hend, hcalls'⟩
  · exact .inl (halts_bind f hx)
  · exact .inr (.inl (halts_bind g hy))
  · rw [start_bind, start_bind]
    rcases hx : x.start j with ⟨e | a, j'⟩ <;> rcases hy : y.start k with ⟨e' | b, k'⟩ <;>
      rw [hx, hy] at hend hcalls'
    · exact .inr (.inr ⟨hend, hcalls'⟩)
    · exact hend.elim
    · exact hend.elim
    · exact hfg a b hend j' k' hcalls'

/-- The run ends here if it is to be halted. -/
def haltIf (halt : Fault) (b : Bool) : Run Unit :=
  if b then MonadExcept.throw halt else Pure.pure ()

/-- Where the first run is not halted at this point, it goes on. -/
theorem InStep.haltIf_left {halt : Fault} (hS : S halt) {b : Bool} {x : Run α} {y : Run β}
    (h : b = false → InStep S T R x y) : InStep S T R (haltIf halt b >>= fun _ => x) y := by
  cases b with
  | true => exact fun _ _ _ => .inl ⟨halt, rfl, hS⟩
  | false => exact h rfl

/-- Where the second run is not halted at this point, it goes on. -/
theorem InStep.haltIf_right {halt : Fault} (hT : T halt) {b : Bool} {x : Run α} {y : Run β}
    (h : b = false → InStep S T R x y) : InStep S T R x (haltIf halt b >>= fun _ => y) := by
  cases b with
  | true => exact fun _ _ _ => .inr (.inl ⟨halt, rfl, hT⟩)
  | false => exact h rfl

/-- Runs compare by being in step, as long as neither is halted. -/
def Comparison.inStep (S T : Fault → Prop) : Comparison where
  Holds := InStep S T
  imp := InStep.imp
  pure := InStep.pure
  bind := InStep.bind

/-- Items that are worked on one after the other, in step one by one. -/
theorem InStep.mapM {Q : γ → δ → Prop} {f : α → Run γ} {g : β → Run δ} {as : List α} {bs : List β}
    (h : List.Forall₂ (fun a b => InStep S T Q (f a) (g b)) as bs) :
    InStep S T (List.Forall₂ Q) (as.mapM f) (bs.mapM g) :=
  (Comparison.inStep S T).mapM h

theorem InStep.mapM_same {f g : α → Run γ} {as : List α}
    (h : ∀ a ∈ as, InStep S T Eq (f a) (g a)) : InStep S T Eq (as.mapM f) (as.mapM g) :=
  (InStep.mapM (List.forall₂_same.2 h)).imp fun _ _ h => by rwa [List.forall₂_eq_eq_eq] at h

end InStep

/-! ### Local runs -/

theorem unraised_ok (a : α) : Unraised (.ok a : Except Fault α) := by
  rintro _ _ ⟨⟩

/-- A result that goes on to results without payloads is one itself. -/
theorem Unraised.bind {r : Except Fault α} {f : α → Except Fault β} (h : Unraised r)
    (hf : ∀ a, Unraised (f a)) : Unraised (r >>= f) := by
  cases r with
  | error e =>
    rintro p name ⟨⟩
    exact h p name rfl
  | ok a => exact hf a

/-- A local run is in step with itself however it may be halted. -/
theorem Local.inStep {x : Run α} (h : Local x) {S T : Fault → Prop} : InStep S T Eq x x :=
  h.same.of_never

theorem local_pure (a : α) : Local (pure a) :=
  ⟨.pure rfl, fun _ => unraised_ok a⟩

theorem local_ofExcept {r : Except Fault α} (h : Unraised r) : Local (ofExcept r) where
  same := .ofExcept (.of_eq rfl)
  unraised j := by rwa [start_ofExcept]

theorem local_log (e : String) (d : List (String × Value)) : Local (log e d) :=
  ⟨.log Eq rfl e e d d, fun _ => unraised_ok ()⟩

theorem local_call (c : Call) : Local (call c) where
  same _ _ hcalls := .inr (.inr ⟨rfl, congrArg (· ++ [c]) hcalls⟩)
  unraised _ := unraised_ok ()

/-- Local runs one after the other are local. -/
theorem Local.bind {x : Run α} {f : α → Run β} (hx : Local x) (hf : ∀ a, Local (f a)) :
    Local (x >>= f) where
  same := InStep.bind hx.same fun a _ h => h ▸ (hf a).same
  unraised j := by
    have hunraised := hx.unraised j
    rw [start_bind]
    rcases hstart : x.start j with ⟨e | a, k⟩
    · rw [hstart] at hunraised
      rintro p name ⟨⟩
      exact hunraised p name rfl
    · exact (hf a).unraised k

theorem start_generate (g : Generator) (argument : Option Value) (j : Journal) :
    (generate g argument).start j =
      (.ok (g.run (j.generated g.label) argument),
        { j with calls := j.calls ++ [.generator g.label argument.toList] }) := rfl

/-- A generator is told only how often it has been called. -/
theorem local_generate (g : Generator) (argument : Option Value) :
    Local (generate g argument) where
  same j k hcalls := by
    have hcount : j.generated g.label = k.generated g.label := by
      rw [Journal.generated, Journal.generated, hcalls]
    rw [start_generate, start_generate, hcalls, hcount]
    exact .inr (.inr ⟨rfl, rfl⟩)
  unraised _ := unraised_ok _

end Intake.Run
