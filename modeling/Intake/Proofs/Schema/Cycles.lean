import Intake.Proofs.Schema.Order
import Mathlib.Data.Fintype.Card
import Mathlib.Data.Set.Finite.Basic

/-!
# Waiting in cycles

When no item left is ready, the one of least rank comes next, whether it waits for itself or only for
items that do. What comes too early is therefore told by the ranks (`Slot.sublist_arrange_iff`): an
item comes before one it waits for, and that does not wait for it, just when the latter is stuck in
items of higher rank, that is, waits through such items for one that waits for itself.

So an item that is on no cycle may come before what it waits for, if it has a lower rank than the
items of a cycle that it waits for. Where no item waits for itself, none is stuck, and every item
comes behind what it waits for.
-/

namespace Intake.Schema.Slot

/-- Where each of finitely many elements has a successor among them, one of them succeeds itself. -/
theorem exists_cycle {α : Type} {R : α → α → Prop} {P : α → Prop} (hfinite : {a | P a}.Finite)
    (hnext : ∀ a, P a → ∃ b, P b ∧ R a b) {a : α} (ha : P a) :
    ∃ z, P z ∧ Relation.TransGen R z z := by
  by_contra! hcycle
  -- Otherwise the elements are well-founded by succession, and a last one has no successor.
  let Succeeds (b a : { a // P a }) : Prop := Relation.TransGen R a b
  have : Finite { a // P a } := hfinite
  have : IsTrans _ Succeeds := ⟨fun _ _ _ hba hcb => hcb.trans hba⟩
  have : Std.Irrefl Succeeds := ⟨fun z hz => hcycle z z.2 hz⟩
  obtain ⟨m, -, hm⟩ := (Finite.wellFounded_of_trans_of_irrefl Succeeds).has_min Set.univ
    ⟨⟨a, ha⟩, trivial⟩
  obtain ⟨b, hb, hmb⟩ := hnext m m.2
  exact hm ⟨b, hb⟩ trivial (.single hmb)

variable {α : Type} {slot : α → Slot} {items : List α}

section Behind

variable (slot items)

/-- One item waits for another one, and both are of higher rank than a third one. -/
structure AwaitsBehind (x a b : α) : Prop where
  awaits : Awaits slot items a b
  left : rank slot items x < rank slot items a
  right : rank slot items x < rank slot items b

/-- An item is stuck behind another one: through items of higher rank than the latter it waits for
    one that waits for itself, or does so itself. -/
def IsStuck (x y : α) : Prop :=
  ∃ z, Relation.ReflTransGen (AwaitsBehind slot items x) y z ∧
    Relation.TransGen (AwaitsBehind slot items x) z z

end Behind

theorem rank_injOn (hnodup : (items.map fun y => (slot y).name).Nodup) {x y : α} (hx : x ∈ items)
    (hy : y ∈ items) (h : rank slot items x = rank slot items y) : x = y := by
  have hidx := congrArg (fun r => (ofLex r).2) h
  have hmem : (slot x).name ∈ items.map fun y => (slot y).name := List.mem_map_of_mem hx
  exact List.inj_on_of_nodup_map hnodup hx hy ((List.idxOf_inj hmem).1 hidx)

theorem nodup_arrange (hnodup : (items.map fun y => (slot y).name).Nodup) :
    (arrange slot items).Nodup :=
  (arrange_perm slot items).nodup_iff.2 (hnodup.of_map _)

/-- Items that each wait for another one of them, behind one item, come after it. -/
theorem before_of_awaitsBehind (hnodup : (items.map fun y => (slot y).name).Nodup)
    {Caught : α → Prop} {x : α}
    (hcaught : ∀ a, Caught a → ∃ b, Caught b ∧ AwaitsBehind slot items x a b) :
    ∀ pre rest, arrange slot items = pre ++ rest → x ∈ rest → ∀ a ∈ pre, ¬Caught a := by
  intro pre
  induction pre using List.reverseRecOn with
  | nil => simp
  | append_singleton pre a ih =>
    intro rest hsplit hx
    rw [List.append_assoc, List.singleton_append] at hsplit
    have hpre := ih (a :: rest) hsplit (List.mem_cons_of_mem _ hx)
    -- The first of these items would come though it is not ready, and of higher rank.
    have ha : ¬Caught a := by
      intro ha
      obtain ⟨b, hb, hab⟩ := hcaught a ha
      obtain ⟨hmay, hleast⟩ := arrange_least hnodup hsplit
      have hnone := hmay.2.resolve_left fun hready => hpre b (hready b hab.awaits) hb
      have hle := hleast x ⟨List.mem_cons_of_mem _ hx, .inr hnone⟩
      exact hle.not_gt hab.left
    intro b hb
    rcases List.mem_append.1 hb with hb | hb
    · exact hpre b hb
    · rwa [List.mem_singleton.1 hb]

/-- An item that is stuck behind another one comes after it. -/
theorem IsStuck.notMem (hnodup : (items.map fun y => (slot y).name).Nodup) {x y : α}
    (hstuck : IsStuck slot items x y) {pre rest : List α}
    (hsplit : arrange slot items = pre ++ rest) (hx : x ∈ rest) : y ∉ pre := by
  obtain ⟨z, hyz, hz⟩ := hstuck
  -- The items on the way to the cycle, and those on it, each wait for another one of them.
  have hcaught : ∀ a, Relation.ReflTransGen (AwaitsBehind slot items x) a z →
      ∃ b, Relation.ReflTransGen (AwaitsBehind slot items x) b z ∧
        AwaitsBehind slot items x a b := by
    intro a haz
    obtain ⟨b, hab, hbz⟩ := Relation.TransGen.head'_iff.1 (hz.trans_right haz)
    exact ⟨b, hbz, hab⟩
  exact fun hy => before_of_awaitsBehind hnodup hcaught pre rest hsplit hx y hy hyz

/-- An item that comes although one that it waits for is left, and does not wait for it, has the
    latter stuck behind it. -/
theorem Awaits.isStuck (hnodup : (items.map fun y => (slot y).name).Nodup) {x y : α}
    (h : Awaits slot items x y) (hback : ¬Relation.TransGen (Awaits slot items) y x)
    {pre post : List α} (hsplit : arrange slot items = pre ++ x :: post) (hy : y ∉ pre) :
    IsStuck slot items x y := by
  obtain ⟨hmay, hleast⟩ := arrange_least hnodup hsplit
  have hnone := hmay.2.resolve_left fun hready => hy (hready y h)
  -- No item left is ready, and those that `y` waits for are of higher rank.
  let Left (a : α) : Prop := a ∈ x :: post ∧ Relation.ReflTransGen (AwaitsBehind slot items x) y a
  have hbehind : ∀ a, a ∈ x :: post → a ∈ items → Relation.ReflTransGen (Awaits slot items) y a →
      rank slot items x < rank slot items a := by
    intro a ha hitem hya
    refine lt_of_le_of_ne (hleast a ⟨ha, .inr hnone⟩) fun hrank => ?_
    obtain rfl := rank_injOn hnodup h.left hitem hrank
    rcases Relation.reflTransGen_iff_eq_or_transGen.1 hya with rfl | hya
    · exact h.ne rfl
    · exact hback hya
  have hnext : ∀ a, Left a → ∃ b, Left b ∧ AwaitsBehind slot items x a b := by
    rintro a ⟨ha, hya⟩
    obtain ⟨b, hab, hb⟩ : ∃ b, Awaits slot items a b ∧ b ∉ pre := by
      simpa [IsReady] using hnone a ha
    have hya' := Relation.ReflTransGen.mono (fun _ _ => AwaitsBehind.awaits) _ _ hya
    have hb := hab.mem_left hsplit hb
    have hstep : AwaitsBehind slot items x a b :=
      ⟨hab, hbehind a ha hab.left hya', hbehind b hb hab.right (hya'.tail hab)⟩
    exact ⟨b, ⟨hb, hya.tail hstep⟩, hstep⟩
  have hfinite : {a | Left a}.Finite := (List.finite_toSet (x :: post)).subset fun a ha => ha.1
  obtain ⟨z, hz, hcycle⟩ := exists_cycle hfinite hnext ⟨h.mem_left hsplit hy, .refl⟩
  exact ⟨z, hz.2, hcycle⟩

theorem pair_sublist_iff {l pre post : List α} {x y : α} (hnodup : l.Nodup)
    (hsplit : l = pre ++ x :: post) : [y, x].Sublist l ↔ y ∈ pre := by
  subst hsplit
  constructor
  · intro h
    -- The item in front of the only `x` stands before it.
    obtain ⟨left, right, happend, hy, hx⟩ := List.cons_sublist_iff.1 h
    rw [List.singleton_sublist] at hx
    rcases List.append_eq_append_iff.1 happend with ⟨mid, rfl, hmid⟩ | ⟨mid, rfl, -⟩
    · cases mid with
      | nil => simpa using hy
      | cons z mid =>
        obtain ⟨rfl, rfl⟩ := List.cons.inj hmid
        have hpost := (List.nodup_cons.1 hnodup.of_append_right).1
        exact absurd (List.mem_append_right _ hx) hpost
    · exact List.mem_append_left _ hy
  · intro hy
    have hx : [x].Sublist (x :: post) := List.singleton_sublist.2 List.mem_cons_self
    exact (List.singleton_sublist.2 hy).append hx

/-- Of two items, one of which waits for the other but not the other way round, the latter comes
    first just when it is not stuck behind the former. -/
theorem sublist_arrange_iff (hnodup : (items.map fun y => (slot y).name).Nodup) {x y : α}
    (h : Awaits slot items x y) (hback : ¬Relation.TransGen (Awaits slot items) y x) :
    [y, x].Sublist (arrange slot items) ↔ ¬IsStuck slot items x y := by
  have hx : x ∈ arrange slot items := (arrange_perm slot items).mem_iff.2 h.left
  obtain ⟨pre, post, hsplit⟩ := List.append_of_mem hx
  rw [pair_sublist_iff (nodup_arrange hnodup) hsplit]
  constructor
  · exact fun hy hstuck => hstuck.notMem hnodup hsplit List.mem_cons_self hy
  · exact fun hstuck => by_contra fun hy => hstuck (h.isStuck hnodup hback hsplit hy)

end Intake.Schema.Slot
