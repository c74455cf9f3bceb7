import Intake.Tree
import Intake.Value.Equality
import Mathlib.Data.List.Forall2
import Mathlib.Data.List.Nodup

/-!
# Values that differ in order

Two values are alike (`Value.Alike`) when they differ at most in the order of the entries of maps and
of the fields of records, at any depth. Entries whose keys stand for one name stay in their order,
as the last of them gives the value of the name.

* `Alike.induct`: what holds of values that are the same, and of collections of alike parts, holds
  of alike values;
* `Alike.equals`: alike values are equal to the same values, up to likeness again;
* `Alike.isTooLong`: they can be written both or neither.
-/

namespace Intake

/-! ### Lists under keys -/

section Keyed

variable {κ α β ν : Type}

/-- Two lists with the same keys, with related contents. -/
inductive Paired (R : α → β → Prop) : List (κ × α) → List (κ × β) → Prop
  | nil : Paired R [] []
  | cons {k : κ} {a : α} {b : β} {l : List (κ × α)} {l' : List (κ × β)} :
    R a b → Paired R l l' → Paired R ((k, a) :: l) ((k, b) :: l')

/-- The second list is the first in another order. Items of one name stay in their order. -/
inductive Shuffle (name : α → ν) : List α → List α → Prop
  | nil : Shuffle name [] []
  | cons (a : α) {as bs : List α} : Shuffle name as bs → Shuffle name (a :: as) (a :: bs)
  | swap {a b : α} (as : List α) : name a ≠ name b → Shuffle name (a :: b :: as) (b :: a :: as)
  | trans {as bs cs : List α} : Shuffle name as bs → Shuffle name bs cs → Shuffle name as cs

theorem Paired.imp_of_mem {R S : α → β → Prop} {l : List (κ × α)} {l' : List (κ × β)}
    (h : Paired R l l') (himp : ∀ p ∈ l, ∀ b, R p.2 b → S p.2 b) : Paired S l l' := by
  induction h with
  | nil => exact .nil
  | cons hab _ ih =>
    exact .cons (himp _ List.mem_cons_self _ hab)
      (ih fun p hp => himp p (List.mem_cons_of_mem _ hp))

theorem Paired.length_eq {R : α → β → Prop} {l : List (κ × α)} {l' : List (κ × β)}
    (h : Paired R l l') : l.length = l'.length := by
  induction h with
  | nil => rfl
  | cons _ _ ih => rw [List.length_cons, List.length_cons, ih]

/-- A test that cannot tell the contents of paired lists apart is passed by some item of both or of
    none, in whatever order the second one is. -/
theorem Paired.any_eq {l m l' : List (κ × α)} {p : κ × α → Bool}
    (h : Paired (fun a b => ∀ k, p (k, a) = p (k, b)) l m) (hperm : m.Perm l') :
    l.any p = l'.any p := by
  rw [← hperm.any_eq]
  clear hperm
  induction h with
  | nil => rfl
  | cons hab _ ih => rw [List.any_cons, List.any_cons, hab, ih]

theorem Paired.all_eq {l m l' : List (κ × α)} {p : κ × α → Bool}
    (h : Paired (fun a b => ∀ k, p (k, a) = p (k, b)) l m) (hperm : m.Perm l') :
    l.all p = l'.all p := by
  rw [← hperm.all_eq]
  clear hperm
  induction h with
  | nil => rfl
  | cons hab _ ih => rw [List.all_cons, List.all_cons, hab, ih]

/-- What is found in paired lists by the keys is related. -/
theorem Paired.find? {R : α → β → Prop} {l : List (κ × α)} {l' : List (κ × β)}
    (h : Paired R l l') (p : κ → Bool) :
    Option.Rel R ((l.find? fun e => p e.1).map (·.2)) ((l'.find? fun e => p e.1).map (·.2)) := by
  induction h with
  | nil => exact .none
  | @cons k _ _ _ _ hab _ ih =>
    rw [List.find?_cons, List.find?_cons]
    cases p k with
    | true => exact .some hab
    | false => exact ih

/-- Two maps of one list are paired where their keys are the same. -/
theorem Paired.of_map {R : α → β → Prop} {ι ι' : Type} {S : ι → ι' → Prop} {f : ι → κ × α}
    {g : ι' → κ × β} {l : List ι} {l' : List ι'} (h : List.Forall₂ S l l')
    (hfg : ∀ i i', S i i' → (f i).1 = (g i').1 ∧ R (f i).2 (g i').2) :
    Paired R (l.map f) (l'.map g) := by
  induction h with
  | nil => exact .nil
  | @cons i i' _ _ hi _ ih =>
    obtain ⟨hkey, hrel⟩ := hfg i i' hi
    rcases hf : f i with ⟨k, a⟩
    rcases hg : g i' with ⟨k', b⟩
    rw [hf, hg] at hkey hrel
    obtain rfl : k = k' := hkey
    rw [List.map_cons, List.map_cons, hf, hg]
    exact .cons hrel ih

namespace Shuffle

variable {name : α → ν} {as bs : List α}

theorem refl (as : List α) : Shuffle name as as := by
  induction as with
  | nil => exact .nil
  | cons a as ih => exact .cons a ih

theorem perm (h : Shuffle name as bs) : as.Perm bs := by
  induction h with
  | nil => exact .nil
  | cons a _ ih => exact ih.cons a
  | swap as _ => exact .swap _ _ as
  | trans _ _ ih ih' => exact ih.trans ih'

/-- Where names are distinct, every order is admitted. -/
theorem of_perm (h : as.Perm bs) (hnodup : (as.map name).Nodup) : Shuffle name as bs := by
  induction h with
  | nil => exact .nil
  | cons a _ ih =>
    rw [List.map_cons, List.nodup_cons] at hnodup
    exact .cons a (ih hnodup.2)
  | swap a b as =>
    rw [List.map_cons, List.map_cons, List.nodup_cons, List.mem_cons, not_or] at hnodup
    exact .swap as hnodup.1.1
  | trans h _ ih ih' => exact (ih hnodup).trans (ih' ((h.map name).nodup_iff.1 hnodup))

/-- What is looked for by its name is found in every order. -/
theorem find?_eq (h : Shuffle name as bs) {p : α → Bool}
    (hp : ∀ a b, p a = true → p b = true → name a = name b) : as.find? p = bs.find? p := by
  induction h with
  | nil => rfl
  | cons a _ ih => rw [List.find?_cons, List.find?_cons, ih]
  | @swap a b as hne =>
    rw [List.find?_cons, List.find?_cons, List.find?_cons, List.find?_cons]
    -- Two items that both pass have one name, and are not exchanged.
    cases ha : p a with
    | false => rfl
    | true =>
      cases hb : p b with
      | false => rfl
      | true => exact absurd (hp a b ha hb) hne
  | trans _ _ ih ih' => exact ih.trans ih'

end Shuffle

end Keyed

namespace Value

/-! ### Alike values -/

/-- The values differ at most in the order of maps and records at any depth. -/
inductive Alike : Value → Value → Prop
  | refl (v : Value) : Alike v v
  | list {vs ws : List Value} : List.Forall₂ Alike vs ws → Alike (.list vs) (.list ws)
  | tuple {vs ws : List Value} : List.Forall₂ Alike vs ws → Alike (.tuple vs) (.tuple ws)
  | map {es fs es' : List (Value × Value)} : Paired Alike es fs →
    Shuffle (fun e => Tree.nameOf e.1) fs es' → Alike (.map es) (.map es')
  | record {name : String} {fs gs fs' : List (String × Value)} : Paired Alike fs gs →
    Shuffle Prod.fst gs fs' → Alike (.record name fs) (.record name fs')

/-- What holds of values that are the same, and of collections of parts it holds of, holds of alike
    values. -/
theorem Alike.induct {P : Value → Value → Prop} (hrefl : ∀ v, P v v)
    (hlist : ∀ vs ws, List.Forall₂ P vs ws → P (.list vs) (.list ws))
    (htuple : ∀ vs ws, List.Forall₂ P vs ws → P (.tuple vs) (.tuple ws))
    (hmap : ∀ es fs es', Paired P es fs → Shuffle (fun e => Tree.nameOf e.1) fs es' →
      P (.map es) (.map es'))
    (hrecord : ∀ name fs gs fs', Paired P fs gs → Shuffle Prod.fst gs fs' →
      P (.record name fs) (.record name fs')) {v w : Value} (h : Alike v w) : P v w :=
  @Alike.rec (fun v w _ => P v w) (fun vs ws _ => List.Forall₂ P vs ws)
    (fun es fs _ => Paired P es fs) (fun fs gs _ => Paired P fs gs)
    hrefl (fun _ ih => hlist _ _ ih) (fun _ ih => htuple _ _ ih)
    (fun _ hshuffle ih => hmap _ _ _ ih hshuffle) (fun _ hshuffle ih => hrecord _ _ _ _ ih hshuffle)
    .nil (fun _ _ ih ihs => .cons ih ihs) .nil (fun _ _ ih ihs => .cons ih ihs)
    .nil (fun _ _ ih ihs => .cons ih ihs) v w h

theorem forall₂_alike_refl (vs : List Value) : List.Forall₂ Alike vs vs :=
  List.forall₂_same.2 fun v _ => .refl v

theorem paired_alike_refl {κ : Type} (l : List (κ × Value)) : Paired Alike l l := by
  induction l with
  | nil => exact .nil
  | cons e l ih => exact .cons (.refl e.2) ih

theorem Alike.isNull {v w : Value} (h : Alike v w) : v.isNull = w.isNull := by
  cases h <;> rfl

/-! ### Equality of alike values -/

/-- The values equal the same values, from either side. -/
def ComparesLike (v w : Value) : Prop :=
  ∀ u : Value, v.equals u = w.equals u ∧ u.equals v = u.equals w

/-- Lists of items that compare alike equal the same lists. -/
theorem listEquals_congr {vs ws : List Value} (h : List.Forall₂ ComparesLike vs ws)
    (us : List Value) : listEquals vs us = listEquals ws us ∧ listEquals us vs = listEquals us ws := by
  induction h generalizing us with
  | nil => exact ⟨rfl, rfl⟩
  | cons hvw _ ih =>
    cases us with
    | nil => exact ⟨rfl, rfl⟩
    | cons u us => simp only [listEquals, (hvw u).1, (hvw u).2, (ih us).1, (ih us).2, and_self]

/-- Everything in the first of two lists under keys equals something in the second. -/
def keyedIn {κ : Type} (same : κ → κ → Bool) (l l' : List (κ × Value)) : Bool :=
  l.all fun e => l'.any fun f => same e.1 f.1 && e.2.equals f.2

theorem entriesIn_eq (es fs : List (Value × Value)) : entriesIn es fs = keyedIn equals es fs := by
  induction es with
  | nil => rfl
  | cons e es ih => rw [entriesIn, ih, keyedIn, keyedIn, List.all_cons]

theorem fieldsIn_eq (es fs : List (String × Value)) :
    fieldsIn es fs = keyedIn (· == ·) es fs := by
  induction es with
  | nil => rfl
  | cons e es ih => rw [fieldsIn, ih, keyedIn, keyedIn, List.all_cons]

section Keyed

variable {κ : Type} {same : κ → κ → Bool} {l m l' : List (κ × Value)}

/-- What is looked up under a key is found in alike entries alike, in whatever order they stand, and
    their entries are found in the same lists. -/
theorem keyedIn_congr (h : Paired ComparesLike l m) (hperm : m.Perm l') (us : List (κ × Value)) :
    keyedIn same l us = keyedIn same l' us ∧ keyedIn same us l = keyedIn same us l' := by
  constructor
  · refine Paired.all_eq (h.imp_of_mem fun e _ w hvw k => ?_) hperm
    simp only [(hvw _).1]
  · rw [keyedIn]
    refine congrArg us.all (funext fun e => ?_)
    refine Paired.any_eq (h.imp_of_mem fun f _ w hvw k => ?_) hperm
    simp only [(hvw _).2]

end Keyed

/-- Alike values equal the same values, by induction on how they are alike. -/
theorem Alike.comparesLike {v w : Value} (h : Alike v w) : ComparesLike v w := by
  refine Alike.induct (P := ComparesLike) ?_ ?_ ?_ ?_ ?_ h
  · exact fun _ _ => ⟨rfl, rfl⟩
  · intro vs ws h u
    cases u with
    | list us => exact listEquals_congr h us
    | _ => exact ⟨rfl, rfl⟩
  · intro vs ws h u
    cases u with
    | tuple us => exact listEquals_congr h us
    | _ => exact ⟨rfl, rfl⟩
  · intro es fs es' h hshuffle u
    cases u with
    | map us =>
      have hkeyed := @keyedIn_congr _ equals _ _ _ h hshuffle.perm us
      simp only [equals, h.length_eq, hshuffle.perm.length_eq, entriesIn_eq, hkeyed.1, hkeyed.2,
        and_self]
    | _ => exact ⟨rfl, rfl⟩
  · intro name fs gs fs' h hshuffle u
    cases u with
    | record _ us =>
      have hkeyed := @keyedIn_congr _ (· == ·) _ _ _ h hshuffle.perm us
      simp only [equals, h.length_eq, hshuffle.perm.length_eq, fieldsIn_eq, hkeyed.1, hkeyed.2,
        and_self]
    | _ => exact ⟨rfl, rfl⟩

theorem Alike.equals_left {v w : Value} (h : Alike v w) (u : Value) : v.equals u = w.equals u :=
  (h.comparesLike u).1

theorem Alike.equals_right {v w : Value} (h : Alike v w) (u : Value) : u.equals v = u.equals w :=
  (h.comparesLike u).2

/-- Alike values are equal to alike values, or neither pair is. -/
theorem Alike.equals {v w v' w' : Value} (h : Alike v w) (h' : Alike v' w') :
    v.equals v' = w.equals w' := by
  rw [h.equals_left, h'.equals_right]

/-! ### Writing alike values -/

theorem entriesTooLong_eq (es : List (Value × Value)) :
    entriesTooLong es = es.any fun e => e.1.isTooLong || e.2.isTooLong := by
  induction es with
  | nil => rfl
  | cons e es ih => rw [entriesTooLong, ih, List.any_cons]

theorem fieldsTooLong_eq (fs : List (String × Value)) :
    fieldsTooLong fs = fs.any fun f => f.2.isTooLong := by
  induction fs with
  | nil => rfl
  | cons f fs ih => rw [fieldsTooLong, ih, List.any_cons]

theorem areTooLong_congr {vs ws : List Value}
    (h : List.Forall₂ (fun v w => v.isTooLong = w.isTooLong) vs ws) :
    areTooLong vs = areTooLong ws := by
  induction h with
  | nil => rfl
  | cons hvw _ ih => rw [areTooLong, areTooLong, hvw, ih]

/-- Alike values can be written both or neither. -/
theorem Alike.isTooLong {v w : Value} (h : Alike v w) : v.isTooLong = w.isTooLong := by
  refine Alike.induct (P := fun v w => v.isTooLong = w.isTooLong) ?_ ?_ ?_ ?_ ?_ h
  · exact fun _ => rfl
  · exact fun _ _ h => areTooLong_congr h
  · exact fun _ _ h => areTooLong_congr h
  · intro es fs es' h hshuffle
    rw [Value.isTooLong, Value.isTooLong, entriesTooLong_eq, entriesTooLong_eq]
    refine Paired.any_eq (h.imp_of_mem fun e _ w hvw k => ?_) hshuffle.perm
    simp only [hvw]
  · intro name fs gs fs' h hshuffle
    rw [Value.isTooLong, Value.isTooLong, fieldsTooLong_eq, fieldsTooLong_eq]
    exact Paired.any_eq (h.imp_of_mem fun f _ w hvw _ => hvw) hshuffle.perm

end Value

end Intake
