import Mathlib.Data.List.Forall2
import Mathlib.Data.List.Perm.Basic
import Intake.Journal

/-!
# Reasoning about runs

A run takes a journal to an answer and a longer journal. Two ways to speak about runs are used
throughout:

* how a run comes to its answer: `start_bind_eq_ok` takes a run apart into the runs it consists of,
  and `start_bind_eq_error` says where its fault comes from;
* how two runs compare, from whatever journals they start: `Run.Agree R x y` says that both end in a
  fault, or that both answer, with answers related by `R`. A run that agrees with itself
  (`Run.Steady`) does not depend on the journal.

Two runs that agree may be continued by runs that agree (`Agree.bind`), also item by item
(`Agree.mapM`). What follows from this alone is shown for any way to compare runs
(`Run.Comparison`), of which agreeing is one. A steady run that answers once does so from every
journal (`Steady.answers`), and steady runs may be made in another order (`Agree.mapM_perm`).
-/

namespace Intake.Run

variable {α β γ δ : Type}

/-! ### The steps of a run -/

@[simp] theorem start_pure (a : α) (j : Journal) : (pure a : Run α).start j = (.ok a, j) := rfl

@[simp] theorem start_throw (e : Fault) (j : Journal) :
    (throw e : Run α).start j = (.error e, j) := rfl

theorem start_bind (x : Run α) (f : α → Run β) (j : Journal) :
    (x >>= f).start j =
      match x.start j with
      | (.ok a, k) => (f a).start k
      | (.error e, k) => (.error e, k) := by
  rw [start, start, ExceptT.run, ExceptT.run, StateT.run, StateT.run]
  simp only [bind, ExceptT.bind, ExceptT.mk, StateT.bind, ExceptT.bindCont]
  rcases x j with ⟨e | a, k⟩ <;> rfl

/-- A run of two parts answers when the first part answers and the second answers to that. -/
theorem start_bind_eq_ok {x : Run α} {f : α → Run β} {j k : Journal} {b : β} :
    (x >>= f).start j = (.ok b, k) ↔
      ∃ a i, x.start j = (.ok a, i) ∧ (f a).start i = (.ok b, k) := by
  rw [start_bind]
  rcases hx : x.start j with ⟨e | a, i⟩
  · simp
  · constructor
    · intro h
      exact ⟨a, i, rfl, h⟩
    · rintro ⟨a', i', h, hf⟩
      cases h
      exact hf

/-- A run of two parts ends in a fault when the first part does, or when the second does on the answer
    of the first. -/
theorem start_bind_eq_error {x : Run α} {f : α → Run β} {j k : Journal} {e : Fault} :
    (x >>= f).start j = (.error e, k) ↔
      x.start j = (.error e, k) ∨ ∃ a i, x.start j = (.ok a, i) ∧ (f a).start i = (.error e, k) := by
  rw [start_bind]
  rcases hx : x.start j with ⟨e' | a, i⟩
  · simp
  · constructor
    · intro h
      exact .inr ⟨a, i, rfl, h⟩
    · rintro (h | ⟨a', i', h, hf⟩)
      · cases h
      · cases h
        exact hf

theorem start_map_eq_ok {x : Run α} {f : α → β} {j k : Journal} {b : β} :
    (f <$> x).start j = (.ok b, k) ↔ ∃ a, x.start j = (.ok a, k) ∧ f a = b := by
  rw [map_eq_pure_bind, start_bind_eq_ok]
  constructor
  · rintro ⟨a, i, hx, h⟩
    simp only [start_pure, Prod.mk.injEq, Except.ok.injEq] at h
    obtain ⟨rfl, rfl⟩ := h
    exact ⟨a, hx, rfl⟩
  · rintro ⟨a, hx, rfl⟩
    exact ⟨a, k, hx, rfl⟩

theorem start_map_eq_error {x : Run α} {f : α → β} {j k : Journal} {e : Fault} :
    (f <$> x).start j = (.error e, k) ↔ x.start j = (.error e, k) := by
  rw [map_eq_pure_bind, start_bind_eq_error]
  simp

/-- A result that is there already leaves the journal as it is. -/
theorem start_ofExcept (r : Except Fault α) (j : Journal) : (ofExcept r).start j = (r, j) := by
  cases r <;> rfl

theorem start_ofExcept_eq_ok {r : Except Fault α} {j k : Journal} {a : α} :
    (ofExcept r).start j = (.ok a, k) ↔ r = .ok a ∧ j = k := by
  cases r <;> simp [ofExcept]

theorem ofExcept_injective {r r' : Except Fault α}
    (h : ofExcept r = (ofExcept r' : Run α)) : r = r' := by
  have hstart := congrArg (fun x => (start x Journal.empty).1) h
  simpa only [start_ofExcept] using hstart

/-- A run answers where its result is no fault. -/
theorem exists_of_isOk {x : Run α} {j : Journal} (h : (x.start j).1.isOk = true) :
    ∃ a k, x.start j = (.ok a, k) := by
  rcases hx : x.start j with ⟨_ | a, k⟩
  · rw [hx] at h
    cases h
  · exact ⟨a, k, rfl⟩

/-- Runs one after the other whose answers are changed. -/
theorem mapM_comp_map (f : α → Run β) (g : β → γ) (as : List α) :
    as.mapM (fun a => g <$> f a) = List.map g <$> as.mapM f := by
  induction as with
  | nil => simp
  | cons a as ih => simp [List.mapM_cons, ih]

/-- Runs one after the other answer one by one. -/
theorem forall₂_of_mapM {f : α → Run β} {as : List α} {bs : List β} {j k : Journal}
    (h : (as.mapM f).start j = (.ok bs, k)) :
    List.Forall₂ (fun a b => ∃ i l, (f a).start i = (.ok b, l)) as bs := by
  induction as generalizing bs j k with
  | nil =>
    cases h
    exact .nil
  | cons a as ih =>
    simp only [List.mapM_cons, start_bind_eq_ok, start_pure] at h
    obtain ⟨b, _, hb, bs', _, hbs, heq⟩ := h
    cases heq
    exact .cons ⟨_, _, hb⟩ (ih hbs)

/-- What is related one by one: each item on the right has a partner on the left. -/
theorem exists_left {R : α → β → Prop} {as : List α} {bs : List β} (h : List.Forall₂ R as bs) :
    ∀ b ∈ bs, ∃ a ∈ as, R a b := by
  induction h with
  | nil => exact fun b hb => absurd hb List.not_mem_nil
  | @cons a b as bs hab _ ih =>
    intro b' hb'
    rcases List.mem_cons.1 hb' with rfl | hb'
    · exact ⟨a, List.mem_cons_self, hab⟩
    · obtain ⟨a', ha', h'⟩ := ih b' hb'
      exact ⟨a', List.mem_cons_of_mem _ ha', h'⟩

theorem exists_right {R : α → β → Prop} {as : List α} {bs : List β} (h : List.Forall₂ R as bs) :
    ∀ a ∈ as, ∃ b ∈ bs, R a b :=
  exists_left h.flip

/-- What is related to the items of a list one by one is a function of them, where no item comes
    twice. -/
theorem exists_map [Inhabited β] {R : α → β → Prop} {as : List α} {bs : List β}
    (h : List.Forall₂ R as bs) (hnodup : as.Nodup) :
    ∃ f : α → β, bs = as.map f ∧ ∀ a ∈ as, R a (f a) := by
  classical
  induction h with
  | nil => exact ⟨fun _ => default, rfl, fun _ ha => absurd ha List.not_mem_nil⟩
  | @cons a b as bs hab _ ih =>
    rw [List.nodup_cons] at hnodup
    obtain ⟨f, rfl, hf⟩ := ih hnodup.2
    have hother : ∀ x ∈ as, Function.update f a b x = f x := fun x hx =>
      Function.update_of_ne (ne_of_mem_of_not_mem hx hnodup.1) b f
    refine ⟨Function.update f a b, ?_, fun x hx => ?_⟩
    · rw [List.map_cons, Function.update_self, List.map_congr_left hother]
    · rcases List.mem_cons.1 hx with rfl | hx
      · rwa [Function.update_self]
      · rw [hother x hx]
        exact hf x hx

/-! ### Two results -/

/-- Related values that are passed on to functions with related results. -/
theorem rel_bind {R : α → β → Prop} {S : γ → δ → Prop} {a : Option α}
    {b : Option β} {f : α → Option γ} {g : β → Option δ} (hab : Option.Rel R a b)
    (hfg : ∀ x y, R x y → Option.Rel S (f x) (g y)) : Option.Rel S (a.bind f) (b.bind g) := by
  cases hab with
  | none => exact .none
  | some h => exact hfg _ _ h

theorem rel_map {R : α → β → Prop} {S : γ → δ → Prop} {a : Option α}
    {b : Option β} {f : α → γ} {g : β → δ} (hab : Option.Rel R a b)
    (hfg : ∀ x y, R x y → S (f x) (g y)) : Option.Rel S (a.map f) (b.map g) := by
  cases hab with
  | none => exact .none
  | some h => exact .some (hfg _ _ h)

theorem rel_filter {R : α → β → Prop} {a : Option α} {b : Option β} {p : α → Bool} {q : β → Bool}
    (hab : Option.Rel R a b) (hpq : ∀ x y, R x y → p x = q y) :
    Option.Rel R (a.filter p) (b.filter q) := by
  cases hab with
  | none => exact .none
  | @some x y h =>
    rw [Option.filter_some, Option.filter_some, hpq x y h]
    cases q y
    · exact .none
    · exact .some h

theorem rel_isSome {R : α → β → Prop} {a : Option α} {b : Option β} (hab : Option.Rel R a b) :
    a.isSome = b.isSome := by
  cases hab <;> rfl

theorem rel_getD {R : α → β → Prop} {a : Option α} {b : Option β} (hab : Option.Rel R a b) {x : α}
    {y : β} (hxy : R x y) : R (a.getD x) (b.getD y) := by
  cases hab with
  | none => exact hxy
  | some h => exact h

theorem rel_getElem? {R : α → β → Prop} {as : List α} {bs : List β} (h : List.Forall₂ R as bs)
    (i : Nat) : Option.Rel R as[i]? bs[i]? := by
  induction h generalizing i with
  | nil => exact .none
  | cons hab _ ih =>
    cases i with
    | zero => exact .some hab
    | succ i => exact ih i

/-- What is related one by one: the item at an index has its partner at the same index. -/
theorem getElem?_of_forall₂ {R : α → β → Prop} {as : List α} {bs : List β}
    (h : List.Forall₂ R as bs) {i : Nat} {a : α} (ha : as[i]? = some a) :
    ∃ b, bs[i]? = some b ∧ R a b := by
  have hrel := rel_getElem? h i
  rw [ha] at hrel
  generalize bs[i]? = b? at hrel
  rcases hrel with hab | _
  exact ⟨_, rfl, hab⟩

section Matched

variable {ε ε' : Type}

/-- Both results are faults, or both are answers and related. -/
def Matched (R : α → β → Prop) : Except ε α → Except ε' β → Prop
  | .ok a, .ok b => R a b
  | .error _, .error _ => True
  | _, _ => False

@[simp] theorem matched_ok {R : α → β → Prop} {a : α} {b : β} :
    Matched R (.ok a : Except ε α) (.ok b : Except ε' β) ↔ R a b := Iff.rfl

@[simp] theorem matched_error {R : α → β → Prop} {e : ε} {e' : ε'} :
    Matched R (.error e) (.error e') ↔ True := Iff.rfl

@[simp] theorem not_matched_ok_error {R : α → β → Prop} {a : α} {e : ε'} :
    ¬Matched R (.ok a : Except ε α) (.error e) := id

@[simp] theorem not_matched_error_ok {R : α → β → Prop} {e : ε} {b : β} :
    ¬Matched R (.error e) (.ok b : Except ε' β) := id

theorem Matched.imp {R S : α → β → Prop} (h : ∀ a b, R a b → S a b) {x : Except ε α}
    {y : Except ε' β} (hxy : Matched R x y) : Matched S x y := by
  cases x <;> cases y <;> simp_all

theorem Matched.map {R : α → β → Prop} {S : γ → δ → Prop} {f : α → γ} {g : β → δ}
    {x : Except ε α} {y : Except ε' β} (h : Matched R x y)
    (hfg : ∀ a b, R a b → S (f a) (g b)) : Matched S (x.map f) (y.map g) := by
  cases x <;> cases y <;> simp_all [Except.map]

theorem Matched.bind {R : α → β → Prop} {S : γ → δ → Prop} {f : α → Except ε γ}
    {g : β → Except ε' δ} {x : Except ε α} {y : Except ε' β} (h : Matched R x y)
    (hfg : ∀ a b, R a b → Matched S (f a) (g b)) : Matched S (x >>= f) (y >>= g) := by
  cases x <;> cases y <;> simp_all [Bind.bind, Except.bind]

theorem Matched.refl {R : α → α → Prop} (h : ∀ a, R a a) (x : Except ε α) : Matched R x x := by
  cases x <;> simp [h]

theorem Matched.symm {R : α → β → Prop} {S : β → α → Prop} (h : ∀ a b, R a b → S b a)
    {x : Except ε α} {y : Except ε' β} (hxy : Matched R x y) : Matched S y x := by
  cases x <;> cases y <;> simp_all

end Matched

/-! ### Two runs -/

/-- From whatever journals they start, both runs end in a fault, or both answer, with related
    answers. -/
def Agree (R : α → β → Prop) (x : Run α) (y : Run β) : Prop :=
  ∀ j k, Matched R (x.start j).1 (y.start k).1

/-- The answer of the run does not depend on the journal. -/
abbrev Steady (x : Run α) : Prop :=
  Agree Eq x x

theorem Agree.imp {R S : α → β → Prop} (h : ∀ a b, R a b → S a b) {x : Run α} {y : Run β}
    (hxy : Agree R x y) : Agree S x y :=
  fun j k => (hxy j k).imp h

theorem Agree.pure {R : α → β → Prop} {a : α} {b : β} (h : R a b) :
    Agree R (Pure.pure a) (Pure.pure b) :=
  fun _ _ => h

theorem Agree.throw {R : α → β → Prop} (e e' : Fault) :
    Agree R (throw e : Run α) (MonadExcept.throw e' : Run β) :=
  fun _ _ => trivial

theorem Agree.ofExcept {R : α → β → Prop} {x : Except Fault α} {y : Except Fault β}
    (h : Matched R x y) : Agree R (ofExcept x) (ofExcept y) := by
  intro j k
  cases x <;> cases y <;> simp_all [Run.ofExcept]

/-- Noting a call has no answer of its own. -/
theorem Agree.call {R : Unit → Unit → Prop} (h : R () ()) (c d : Call) :
    Agree R (call c) (Run.call d) :=
  fun _ _ => h

theorem Agree.log {R : Unit → Unit → Prop} (h : R () ()) (e e' : String)
    (d d' : List (String × Value)) : Agree R (log e d) (Run.log e' d') :=
  fun _ _ => h

/-- The replies of functions that answer alike. -/
theorem Agree.reply {R : Reply → Reply → Prop} {x y : Except String Reply} (h : Matched R x y) :
    Agree R (reply x) (Run.reply y) := by
  intro j k
  cases x <;> cases y <;> simp_all [Run.reply]

/-- Runs that agree may be continued by runs that agree. -/
theorem Agree.bind {R : α → β → Prop} {S : γ → δ → Prop} {x : Run α} {y : Run β} {f : α → Run γ}
    {g : β → Run δ} (hxy : Agree R x y) (hfg : ∀ a b, R a b → Agree S (f a) (g b)) :
    Agree S (x >>= f) (y >>= g) := by
  intro j k
  have h := hxy j k
  rw [start_bind, start_bind]
  rcases hx : x.start j with ⟨e | a, j'⟩ <;> rcases hy : y.start k with ⟨e' | b, k'⟩ <;>
    rw [hx, hy] at h
  · trivial
  · exact h.elim
  · exact h.elim
  · exact hfg a b h j' k'

theorem Agree.map {R : α → β → Prop} {S : γ → δ → Prop} {x : Run α} {y : Run β} {f : α → γ}
    {g : β → δ} (hxy : Agree R x y) (hfg : ∀ a b, R a b → S (f a) (g b)) :
    Agree S (f <$> x) (g <$> y) := by
  rw [map_eq_pure_bind, map_eq_pure_bind]
  exact hxy.bind fun a b h => .pure (hfg a b h)

/-- What is known of the changed answers of a run is known of the answers. -/
theorem Agree.of_map {R : γ → β → Prop} {x : Run α} {y : Run β} {f : α → γ}
    (h : Agree R (f <$> x) y) : Agree (fun a b => R (f a) b) x y := by
  intro j k
  have hm := h j k
  rw [map_eq_pure_bind, start_bind] at hm
  rcases hx : x.start j with ⟨e | a, i⟩ <;> rcases hy : y.start k with ⟨e' | b, l⟩ <;>
    rw [hx, hy] at hm <;> exact hm

theorem Agree.symm {R : α → β → Prop} {S : β → α → Prop} (h : ∀ a b, R a b → S b a) {x : Run α}
    {y : Run β} (hxy : Agree R x y) : Agree S y x :=
  fun j k => (hxy k j).symm h

/-- What holds of every answer of the first run is known of it where two runs agree. -/
theorem Agree.and_left {R : α → β → Prop} {P : α → Prop} {x : Run α} {y : Run β} (h : Agree R x y)
    (hx : ∀ j a k, x.start j = (.ok a, k) → P a) : Agree (fun a b => R a b ∧ P a) x y := by
  intro j k
  have hm := h j k
  rcases hxj : x.start j with ⟨e | a, j'⟩ <;> rcases hyk : y.start k with ⟨e' | b, k'⟩ <;>
    rw [hxj, hyk] at hm
  · trivial
  · exact hm.elim
  · exact hm.elim
  · exact ⟨hm, hx j a j' hxj⟩

theorem Agree.and_right {R : α → β → Prop} {P : β → Prop} {x : Run α} {y : Run β} (h : Agree R x y)
    (hy : ∀ j b k, y.start j = (.ok b, k) → P b) : Agree (fun a b => R a b ∧ P b) x y :=
  ((h.symm (S := fun b a => R a b) fun _ _ h => h).and_left hy).symm fun _ _ h => h

/-- Where one of two agreeing runs answers, the other one does too. -/
theorem Agree.answer {R : α → β → Prop} {x : Run α} {y : Run β} (h : Agree R x y) {j k : Journal}
    {a : α} (hx : x.start j = (.ok a, k)) (i : Journal) :
    ∃ b l, y.start i = (.ok b, l) ∧ R a b := by
  have hm := h j i
  rw [hx] at hm
  rcases hy : y.start i with ⟨_ | b, l⟩
  · rw [hy] at hm
    exact hm.elim
  · rw [hy] at hm
    exact ⟨b, l, rfl, hm⟩

/-- Where both of two agreeing runs answer, the answers are related. -/
theorem Agree.related {R : α → β → Prop} {x : Run α} {y : Run β} (h : Agree R x y)
    {j k j' k' : Journal} {a : α} {b : β} (hx : x.start j = (.ok a, k))
    (hy : y.start j' = (.ok b, k')) : R a b := by
  have hm := h j j'
  rwa [hx, hy] at hm

/-- Two runs agree when each of them answers where the other one does, with related answers. -/
theorem Agree.of_answers {R : α → β → Prop} {x : Run α} {y : Run β}
    (hxy : ∀ j a k, x.start j = (.ok a, k) → ∀ i, ∃ b l, y.start i = (.ok b, l) ∧ R a b)
    (hyx : ∀ j b k, y.start j = (.ok b, k) → ∀ i, ∃ a l, x.start i = (.ok a, l)) : Agree R x y := by
  intro j k
  rcases hx : x.start j with ⟨e | a, j'⟩
  · rcases hy : y.start k with ⟨e' | b, k'⟩
    · exact trivial
    · -- An answer of the second run would be one of the first run as well.
      obtain ⟨a, l, ha⟩ := hyx k b k' hy j
      rw [hx] at ha
      cases ha
  · obtain ⟨b, l, hb, hab⟩ := hxy j a j' hx k
    rw [hb]
    exact hab

/-- Runs that agree with one run agree, where their answers are related through its answers. -/
theorem Agree.trans {R : α → β → Prop} {S : β → γ → Prop} {T : α → γ → Prop} {x : Run α}
    {y : Run β} {z : Run γ} (hxy : Agree R x y) (hyz : Agree S y z)
    (h : ∀ a b c, R a b → S b c → T a c) : Agree T x z := by
  intro j k
  have h₁ := hxy j j
  have h₂ := hyz j k
  generalize (x.start j).1 = a at h₁
  generalize (y.start j).1 = b at h₁ h₂
  generalize (z.start k).1 = c at h₂
  -- All three runs answer, or none of them does.
  rcases a with _ | a <;> rcases b with _ | b <;> rcases c with _ | c
  · exact trivial
  · exact h₂.elim
  · exact h₁.elim
  · exact h₁.elim
  · exact h₁.elim
  · exact h₁.elim
  · exact h₂.elim
  · exact h a b c h₁ h₂

/-! ### Ways to compare runs -/

/-- A way to compare two runs by how their answers are related. Answers that are related compare as
    runs, and where runs compare, so do the runs that go on from related answers. -/
structure Comparison where
  /-- The runs compare, with answers related by `R`. -/
  Holds {α β : Type} (R : α → β → Prop) (x : Run α) (y : Run β) : Prop
  imp {α β : Type} {R S : α → β → Prop} (h : ∀ a b, R a b → S a b) {x : Run α} {y : Run β} :
    Holds R x y → Holds S x y
  pure {α β : Type} {R : α → β → Prop} {a : α} {b : β} :
    R a b → Holds R (Pure.pure a) (Pure.pure b)
  bind {α β γ δ : Type} {R : α → β → Prop} {S : γ → δ → Prop} {x : Run α} {y : Run β}
    {f : α → Run γ} {g : β → Run δ} : Holds R x y →
      (∀ a b, R a b → Holds S (f a) (g b)) → Holds S (x >>= f) (y >>= g)

/-- Lists of runs that compare one by one. -/
theorem Comparison.mapM (C : Comparison) {R : γ → δ → Prop} {f : α → Run γ} {g : β → Run δ}
    {as : List α} {bs : List β} (h : List.Forall₂ (fun a b => C.Holds R (f a) (g b)) as bs) :
    C.Holds (List.Forall₂ R) (as.mapM f) (bs.mapM g) := by
  induction h with
  | nil => exact C.pure .nil
  | cons hab _ ih =>
    rw [List.mapM_cons, List.mapM_cons]
    exact C.bind hab fun c d hcd => C.bind ih fun cs ds hs => C.pure (.cons hcd hs)

/-- Runs compare by agreeing. -/
def Comparison.agree : Comparison where
  Holds := Agree
  imp := Agree.imp
  pure := Agree.pure
  bind := Agree.bind

theorem Agree.mapM {R : γ → δ → Prop} {f : α → Run γ} {g : β → Run δ} {as : List α} {bs : List β}
    (h : List.Forall₂ (fun a b => Agree R (f a) (g b)) as bs) :
    Agree (List.Forall₂ R) (as.mapM f) (bs.mapM g) :=
  Comparison.agree.mapM h

/-! ### Steady runs -/

theorem Steady.bind {x : Run α} {f : α → Run β} (hx : Steady x) (hf : ∀ a, Steady (f a)) :
    Steady (x >>= f) :=
  Agree.bind hx fun a _ h => h ▸ hf a

theorem steady_ofExcept (r : Except Fault α) : Steady (ofExcept r) :=
  .ofExcept (.refl (fun _ => rfl) r)

/-- Items worked on one after the other, none of them heeding the journal. -/
theorem steady_mapM {f : α → Run β} (hf : ∀ a, Steady (f a)) (as : List α) :
    Steady (as.mapM f) := by
  have h := Agree.mapM (List.forall₂_same.2 fun a (_ : a ∈ as) => hf a)
  rwa [List.forall₂_eq_eq_eq] at h

/-- The run answers from every journal. -/
def Answers (x : Run α) (a : α) : Prop :=
  ∀ j, ∃ k, x.start j = (.ok a, k)

/-- A steady run that answers once answers from every journal. -/
theorem Steady.answers {x : Run α} (h : Steady x) {j k : Journal} {a : α}
    (hx : x.start j = (.ok a, k)) : Answers x a := by
  intro i
  obtain ⟨_, l, hi, rfl⟩ := h.answer hx i
  exact ⟨l, hi⟩

theorem Answers.pure (a : α) : Answers (Pure.pure a) a :=
  fun j => ⟨j, rfl⟩

/-- Runs that answer one after the other. -/
theorem Answers.bind {x : Run α} {f : α → Run β} {a : α} {b : β} (hx : Answers x a)
    (hf : Answers (f a) b) : Answers (x >>= f) b := by
  intro j
  obtain ⟨i, hi⟩ := hx j
  obtain ⟨k, hk⟩ := hf i
  exact ⟨k, start_bind_eq_ok.2 ⟨a, i, hi, hk⟩⟩

theorem Answers.agree {R : α → β → Prop} {x : Run α} {y : Run β} {a : α} {b : β}
    (hx : Answers x a) (hy : Answers y b) (h : R a b) : Agree R x y := by
  intro j k
  obtain ⟨_, hj⟩ := hx j
  obtain ⟨_, hk⟩ := hy k
  rw [hj, hk]
  exact h

/-- Items that are answered one by one are answered together. -/
theorem answers_mapM {f : α → Run β} {as : List α} {bs : List β}
    (h : List.Forall₂ (fun a b => Answers (f a) b) as bs) : Answers (as.mapM f) bs := by
  induction h with
  | nil => exact fun j => ⟨j, rfl⟩
  | cons hab _ ih =>
    intro j
    obtain ⟨i, hi⟩ := hab j
    obtain ⟨l, hl⟩ := ih i
    refine ⟨l, ?_⟩
    rw [List.mapM_cons]
    simp only [start_bind_eq_ok]
    exact ⟨_, _, hi, _, _, hl, rfl⟩

theorem exists_mapM_perm {f : α → Run β} {as as' : List α} (h : as.Perm as')
    (hf : ∀ a ∈ as, Steady (f a)) {bs : List β} {j k : Journal}
    (hrun : (as.mapM f).start j = (.ok bs, k)) (i : Journal) :
    ∃ bs' l, (as'.mapM f).start i = (.ok bs', l) ∧ bs.Perm bs' := by
  -- The answers are the same from every journal, so that they can be had in the other order.
  have hanswers := (List.forall₂_and_left _ _).2 ⟨hf, forall₂_of_mapM hrun⟩
  obtain ⟨bs', hbs', hperm⟩ := List.perm_comp_forall₂ h.symm
    (hanswers.imp fun a b ⟨ha, _, _, hb⟩ => Steady.answers ha hb)
  obtain ⟨l, hl⟩ := answers_mapM hbs' i
  exact ⟨bs', l, hl, hperm.symm⟩

/-- Runs whose answers do not depend on the journal may be made in any order. -/
theorem Agree.mapM_perm {f : α → Run β} {as as' : List α} (h : as.Perm as')
    (hf : ∀ a ∈ as, Steady (f a)) : Agree List.Perm (as.mapM f) (as'.mapM f) := by
  refine .of_answers (fun _ _ _ hrun i => exists_mapM_perm h hf hrun i) fun _ _ _ hrun i => ?_
  obtain ⟨bs, l, hl, -⟩ := exists_mapM_perm h.symm (fun a ha => hf a (h.mem_iff.2 ha)) hrun i
  exact ⟨bs, l, hl⟩

end Intake.Run
