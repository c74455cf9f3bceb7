import Intake.Proofs.Schema.Nodes
import Intake.Schema.Order
import Mathlib.Data.Finset.Card
import Mathlib.Data.List.Nodup
import Mathlib.Data.Prod.Lex
import Mathlib.Logic.Relation
import Mathlib.Order.WellFounded

/-!
# The order of evaluation

The items come in an order that leaves none out (`Slot.arrange_perm`). Each of them is of least rank
among those that may come at its turn (`Slot.arrange_least`): the items that are ready, or all that
are left if none is. Where no item waits, directly or through others, for itself, every item
therefore comes behind the items it waits for (`Slot.arrange_isOrdered`).

The relation of waiting is finite, so that names without cycles have ranks that fall along it; of
the items left, one of lowest rank is always ready.

What is arranged for the builder are the entries of a node. They wait under the names where their
paths begin: those of their fields (`Entry.mem_sources`) and, at the root, the anchored ones of all
nodes below (`Entry.mem_sources_of_anchored`). The order does not look at anything else of an item
(`Slot.arrange_map`).
-/

namespace Intake.Schema

namespace Slot

namespace Pending

variable {α : Type}

theorem first_mem (p : Pending α) (ps : List (Pending α)) : first p ps ∈ p :: ps := by
  induction ps generalizing p with
  | nil => simp [first]
  | cons q rest ih =>
    have h := ih (if p.isBefore q then p else q)
    rw [first]
    split at h <;> grind

theorem isBefore_iff {p q : Pending α} : p.isBefore q = true ↔ toLex p.rank ≤ toLex q.rank := by
  simp [isBefore, Prod.Lex.toLex_le_toLex]

/-- The first item is of lowest rank. -/
theorem first_le (p : Pending α) (ps : List (Pending α)) :
    ∀ q ∈ p :: ps, toLex (first p ps).rank ≤ toLex q.rank := by
  induction ps generalizing p with
  | nil => simp [first]
  | cons r rest ih =>
    have h := ih (if p.isBefore r then p else r)
    have hhead := h _ List.mem_cons_self
    rw [List.forall_mem_cons, List.forall_mem_cons]
    rw [first]
    -- The lower one of the first two items is not below the first of the others.
    split at h
    · next hle =>
      rw [if_pos hle] at hhead ⊢
      exact ⟨hhead, hhead.trans (isBefore_iff.1 hle), fun q hq => h q (List.mem_cons_of_mem _ hq)⟩
    · next hgt =>
      rw [if_neg hgt] at hhead ⊢
      have hlt := not_le.1 fun hle => hgt (isBefore_iff.2 hle)
      exact ⟨hhead.trans hlt.le, hhead, fun q hq => h q (List.mem_cons_of_mem _ hq)⟩

/-- An item may be chosen if it is left, and ready unless none is. -/
theorem mem_choices {done : List String} {ps : List (Pending α)} {p : Pending α} :
    p ∈ choices done ps ↔
      p ∈ ps ∧ (p.isReady done = true ∨ ∀ q ∈ ps, ¬q.isReady done = true) := by
  rw [choices]
  split
  · next hany =>
    obtain ⟨q, hq, hready⟩ := List.any_eq_true.1 hany
    rw [List.mem_filter, or_iff_left fun h => h q hq hready]
  · next hnone =>
    have hnone : ∀ q ∈ ps, ¬q.isReady done = true := fun q hq hready =>
      hnone (List.any_eq_true.2 ⟨q, hq, hready⟩)
    rw [and_iff_left (Or.inr hnone)]

/-- The item that comes next may be chosen, and is of lowest rank among those that may be. -/
theorem next?_eq_some {done : List String} {ps : List (Pending α)} {p : Pending α}
    (h : next? done ps = some p) :
    p ∈ choices done ps ∧ ∀ q ∈ choices done ps, toLex p.rank ≤ toLex q.rank := by
  rw [next?] at h
  split at h
  · simp at h
  · next q rest hc =>
    rw [Option.some_inj] at h
    rw [hc, ← h]
    exact ⟨first_mem q rest, first_le q rest⟩

theorem next?_ne_none {done : List String} {ps : List (Pending α)} (h : ps ≠ []) :
    next? done ps ≠ none := by
  have hc : choices done ps ≠ [] := by
    rw [choices]
    split
    · next hany =>
      obtain ⟨q, hq, hr⟩ := List.any_eq_true.1 hany
      exact List.ne_nil_of_mem (List.mem_filter.2 ⟨hq, hr⟩)
    · exact h
  rw [next?]
  split <;> simp_all

/-- Taking an item away by its position leaves the others. -/
theorem perm_cons_filter {ps : List (Pending α)} {p : Pending α}
    (hpos : (ps.map (·.position)).Nodup) (hp : p ∈ ps) :
    ps.Perm (p :: ps.filter (·.position != p.position)) := by
  induction ps with
  | nil => simp at hp
  | cons q rest ih =>
    rw [List.map_cons, List.nodup_cons] at hpos
    rcases List.mem_cons.1 hp with rfl | hp
    · -- No other item has the position of the first one.
      have hrest : rest.filter (·.position != p.position) = rest := by
        rw [List.filter_eq_self]
        intro r hr
        have hne : r.position ≠ p.position := fun h => hpos.1 (h ▸ List.mem_map_of_mem hr)
        simpa using hne
      rw [List.filter_cons, hrest]
      simp
    · have hne : q.position ≠ p.position := fun h => hpos.1 (h ▸ List.mem_map_of_mem hp)
      rw [List.filter_cons]
      simp only [bne_iff_ne, ne_eq, hne, not_false_eq_true, if_true]
      exact ((ih hpos.2 hp).cons q).trans (.swap p q _)

/-- All items come, one after the other, each as the next one of those that are left. -/
theorem arrange_next (count : Nat) : ∀ (done : List String) (ps : List (Pending α)),
    (ps.map (·.position)).Nodup → ps.length = count →
    ∃ l : List (Pending α), arrange done ps count = l.map (·.item) ∧ l.Perm ps ∧
      ∀ pre p post, l = pre ++ p :: post → ∃ left : List (Pending α), left.Perm (p :: post) ∧
        next? ((pre.map (·.name)).reverse ++ done) left = some p := by
  induction count with
  | zero =>
    intro done ps _ hlen
    obtain rfl := List.length_eq_zero_iff.1 hlen
    exact ⟨[], rfl, .nil, fun pre p post h => by simp at h⟩
  | succ count ih =>
    intro done ps hpos hlen
    have hne : ps ≠ [] := by
      rintro rfl
      simp at hlen
    have hsome : next? done ps ≠ none := next?_ne_none hne
    obtain ⟨p, hnext⟩ := Option.ne_none_iff_exists'.1 hsome
    have hperm := perm_cons_filter hpos (mem_choices.1 (next?_eq_some hnext).1).1
    obtain ⟨l, hl, hlperm, hrest⟩ := ih (p.name :: done) (ps.filter (·.position != p.position))
      (hpos.sublist (List.filter_sublist.map _))
      (by have := hperm.length_eq; simp only [List.length_cons] at this; omega)
    refine ⟨p :: l, by simp [arrange, hnext, hl], (hlperm.cons p).trans hperm.symm, ?_⟩
    intro pre q post hsplit
    rcases List.cons_eq_append_iff.1 hsplit with ⟨rfl, hq⟩ | ⟨pre', rfl, hq⟩
    · -- The item that comes first is the next one of all.
      obtain ⟨rfl, rfl⟩ := List.cons.inj hq
      exact ⟨ps, hperm.trans (hlperm.symm.cons q), hnext⟩
    · -- The others are the next ones of those that are left once the first one is done.
      obtain ⟨left, hleft, hnext'⟩ := hrest pre' q post hq
      exact ⟨left, hleft, by simpa using hnext'⟩

/-! ### The order depends on the slots only -/

variable {β : Type}

/-- What is pending of an item, for the item that a function makes of it. -/
def map (g : α → β) (p : Pending α) : Pending β :=
  ⟨g p.item, p.name, p.position, p.waits, p.rank⟩

theorem first_map (g : α → β) (p : Pending α) (ps : List (Pending α)) :
    first (p.map g) (ps.map (map g)) = (first p ps).map g := by
  induction ps generalizing p with
  | nil => rfl
  | cons q rest ih =>
    simp only [List.map_cons, first]
    rw [← ih]
    congr 1
    change (if p.isBefore q then p.map g else q.map g) = _
    split <;> rfl

theorem choices_map (g : α → β) (done : List String) (ps : List (Pending α)) :
    choices done (ps.map (map g)) = (choices done ps).map (map g) := by
  have hready : isReady done ∘ map g = isReady done := rfl
  rw [choices, choices]
  rw [List.any_map, List.filter_map, hready]
  split <;> rfl

theorem next?_map (g : α → β) (done : List String) (ps : List (Pending α)) :
    next? done (ps.map (map g)) = (next? done ps).map (map g) := by
  rw [next?, next?]
  rw [choices_map]
  cases choices done ps with
  | nil => rfl
  | cons p rest => simp [first_map]

theorem arrange_map (g : α → β) (count : Nat) (done : List String) (ps : List (Pending α)) :
    arrange done (ps.map (map g)) count = (arrange done ps count).map g := by
  induction count generalizing done ps with
  | zero => rfl
  | succ count ih =>
    rw [arrange, arrange, next?_map]
    cases next? done ps with
    | none => rfl
    | some p =>
      have hpos : (fun q : Pending β => q.position != (p.map g).position) ∘ map g =
          fun q => q.position != p.position := rfl
      simp only [Option.map_some, List.map_cons, List.filter_map, hpos, ih]
      rfl

end Pending

variable {α β : Type}

theorem pending_map (slot : β → Slot) (g : α → β) (items : List α) :
    pending slot (items.map g) = (pending (slot ∘ g) items).map (Pending.map g) := by
  have hzip : (items.map g).zipIdx = items.zipIdx.map (Prod.map g id) := List.zipIdx_map
  simp only [pending, hzip, List.map_map]
  rfl

/-- Items are arranged as what they are made of. -/
theorem arrange_map (slot : β → Slot) (g : α → β) (items : List α) :
    arrange slot (items.map g) = (arrange (slot ∘ g) items).map g := by
  rw [arrange, pending_map, List.length_map, Pending.arrange_map]
  rfl

/-- Items with the same slots, related one by one, are related one by one when arranged. -/
theorem forall₂_arrange {R : α → β → Prop} {slot : α → Slot} {slot' : β → Slot}
    (hslot : ∀ a b, R a b → slot a = slot' b) {as : List α} {bs : List β}
    (h : List.Forall₂ R as bs) : List.Forall₂ R (arrange slot as) (arrange slot' bs) := by
  -- Both lists are made of the list of related pairs.
  obtain ⟨pairs, rfl, rfl⟩ : ∃ pairs : List { p : α × β // R p.1 p.2 },
      as = pairs.map (·.1.1) ∧ bs = pairs.map (·.1.2) := by
    induction h with
    | nil => exact ⟨[], rfl, rfl⟩
    | cons hab _ ih =>
      obtain ⟨pairs, rfl, rfl⟩ := ih
      exact ⟨⟨(_, _), hab⟩ :: pairs, rfl, rfl⟩
  have hsame : slot' ∘ (fun p : { p : α × β // R p.1 p.2 } => p.1.2) = slot ∘ (·.1.1) :=
    funext fun p => (hslot _ _ p.2).symm
  rw [arrange_map, arrange_map, hsame, List.forall₂_map_left_iff, List.forall₂_map_right_iff,
    List.forall₂_same]
  exact fun p _ => p.2

/-- The item of one name copies from the item of another one. -/
def Waits (slots : List Slot) (a b : String) : Prop :=
  ∃ s ∈ slots, s.name = a ∧ b ∈ s.sources ∧ b ≠ a ∧ ∃ s' ∈ slots, s'.name = b

/-- No item waits, directly or through others, for itself. -/
def Acyclic (slots : List Slot) : Prop :=
  ∀ a, ¬Relation.TransGen (Waits slots) a a

/-- Fewer items that wait make no cycles. -/
theorem Acyclic.mono {slots slots' : List Slot} (h : Acyclic slots)
    (hwaits : ∀ a b, Waits slots' a b → Waits slots a b) : Acyclic slots' :=
  fun a hcycle => h a (Relation.TransGen.mono hwaits _ _ hcycle)

/-- Without cycles, the names have ranks that fall from each item to what it waits for. -/
theorem Acyclic.exists_rank {slots : List Slot} (h : Acyclic slots) :
    ∃ rank : String → Nat, ∀ a b, Waits slots a b → rank b < rank a := by
  classical
  -- The rank of a name counts the names that its item waits for, directly or through others.
  let awaited (a : String) := (slots.map (·.name)).toFinset.filter (Relation.TransGen (Waits slots) a)
  refine ⟨fun a => (awaited a).card, fun a b hab => Finset.card_lt_card ?_⟩
  have hab' := Relation.TransGen.single hab
  -- What the source awaits the item awaits as well, and the source besides, which does not await
  -- itself.
  refine (Finset.ssubset_iff_of_subset fun x hx => ?_).2 ⟨b, ?_, ?_⟩
  · rw [Finset.mem_filter] at hx ⊢
    exact ⟨hx.1, hab'.trans hx.2⟩
  · obtain ⟨-, -, -, -, -, s', hs', rfl⟩ := hab
    exact Finset.mem_filter.2 ⟨List.mem_toFinset.2 (List.mem_map_of_mem hs'), hab'⟩
  · intro hb
    exact h b (Finset.mem_filter.1 hb).2

/-- Names with ranks that fall from each item to what it waits for have no cycles. -/
theorem Acyclic.of_rank {slots : List Slot} (rank : String → Nat)
    (h : ∀ a b, Waits slots a b → rank b < rank a) : Acyclic slots := by
  intro a hcycle
  have hfalls : ∀ b, Relation.TransGen (Waits slots) a b → rank b < rank a := by
    intro b hab
    induction hab with
    | single hab => exact h _ _ hab
    | tail _ hbc ih => exact (h _ _ hbc).trans ih
  exact (hfalls a hcycle).false

/-- Every item stands behind the items it copies from. -/
def IsOrdered (slot : α → Slot) (items : List α) : Prop :=
  ∀ pre x post, items = pre ++ x :: post → ∀ w ∈ (slot x).sources, w ≠ (slot x).name →
    (∃ y ∈ items, (slot y).name = w) → ∃ y ∈ pre, (slot y).name = w

theorem nodup_position_pending (slot : α → Slot) (items : List α) :
    ((pending slot items).map (·.position)).Nodup := by
  have h : (pending slot items).map (·.position) = items.zipIdx.map Prod.snd := by
    rw [pending]
    rw [List.map_map]
    rfl
  rw [h, List.zipIdx_map_snd]
  exact List.nodup_range'

theorem item_pending (slot : α → Slot) (items : List α) :
    (pending slot items).map (·.item) = items := by
  have h : (pending slot items).map (·.item) = items.zipIdx.map Prod.fst := by
    rw [pending]
    rw [List.map_map]
    rfl
  rw [h, List.zipIdx_map_fst]

theorem length_pending (slot : α → Slot) (items : List α) :
    (pending slot items).length = items.length := by
  rw [← List.length_map (f := (·.item)), item_pending]

/-- Where names are distinct, the slot found under the name of an item is its own, with its place. -/
theorem named?_eq {slot : α → Slot} {items : List α} {x : α}
    (hnodup : (items.map fun y => (slot y).name).Nodup) (hx : x ∈ items) :
    named? (slot x).name (items.map slot).zipIdx =
      some (slot x, (items.map fun y => (slot y).name).idxOf (slot x).name) := by
  rw [named?]
  cases hfind : (items.map slot).zipIdx.reverse.find? (·.1.name == (slot x).name) with
  | none =>
    -- The slot of the item itself is there to be found.
    obtain ⟨i, hi, rfl⟩ := List.getElem_of_mem hx
    have hmem : (slot items[i], i) ∈ (items.map slot).zipIdx := by
      simp [List.mem_zipIdx_iff_getElem?, hi]
    simpa using List.find?_eq_none.1 hfind _ (List.mem_reverse.2 hmem)
  | some found =>
    -- The slot found belongs to an item of the same name, which is the item itself.
    obtain ⟨s, i⟩ := found
    have hmem := List.mem_reverse.1 (List.mem_of_find?_eq_some hfind)
    have hname : s.name = (slot x).name := by simpa using List.find?_some hfind
    rw [List.mem_zipIdx_iff_getElem?, List.getElem?_map, Option.map_eq_some_iff] at hmem
    obtain ⟨y, hy, rfl⟩ := hmem
    dsimp only at hy
    obtain rfl := List.inj_on_of_nodup_map hnodup (List.mem_of_getElem? hy) hx hname
    obtain ⟨hi, hget⟩ := List.getElem?_eq_some_iff.1 hy
    have hidx := hnodup.idxOf_getElem i (by simpa using hi)
    rw [List.getElem_map, hget] at hidx
    rw [hidx]

/-- What is pending of an item: its own name, its own rank, and the declared names it copies
    from. -/
theorem of_mem_pending {slot : α → Slot} {items : List α} {p : Pending α}
    (hnodup : (items.map fun y => (slot y).name).Nodup) (hp : p ∈ pending slot items) :
    p.name = (slot p.item).name ∧
      p.rank = ((slot p.item).stage,
        (items.map fun y => (slot y).name).idxOf (slot p.item).name) ∧
      ∀ w, w ∈ p.waits ↔ w ∈ (slot p.item).sources ∧ w ≠ (slot p.item).name ∧
        ∃ y ∈ items, (slot y).name = w := by
  rw [pending] at hp
  obtain ⟨⟨x, i⟩, hx, rfl⟩ := List.mem_map.1 hp
  dsimp only
  rw [named?_eq hnodup (List.fst_mem_of_mem_zipIdx hx), Option.getD_some]
  refine ⟨rfl, rfl, fun w => ?_⟩
  have hdeclared : (items.map slot).zipIdx.any (·.1.name == w) = true ↔
      ∃ y ∈ items, (slot y).name = w := by
    have hfst : (items.map slot).zipIdx.any (·.1.name == w) =
        ((items.map slot).zipIdx.map Prod.fst).any (·.name == w) := by
      rw [List.any_map]
      rfl
    rw [hfst, List.zipIdx_map_fst]
    simp
  rw [List.mem_filter, Bool.and_eq_true, bne_iff_ne, hdeclared]

/-- The items arranged are those of pending ones, each of which is the next one of those left. -/
theorem exists_arranged (slot : α → Slot) (items : List α) :
    ∃ l : List (Pending α), arrange slot items = l.map (·.item) ∧ l.Perm (pending slot items) ∧
      ∀ pre p post, l = pre ++ p :: post → ∃ left : List (Pending α), left.Perm (p :: post) ∧
        Pending.next? (pre.map (·.name)).reverse left = some p := by
  obtain ⟨l, hl, hperm, hnext⟩ := Pending.arrange_next items.length [] (pending slot items)
    (nodup_position_pending slot items) (length_pending slot items)
  exact ⟨l, hl, hperm, by simpa using hnext⟩

theorem arrange_perm (slot : α → Slot) (items : List α) : (arrange slot items).Perm items := by
  obtain ⟨l, hl, hperm, -⟩ := exists_arranged slot items
  rw [hl]
  conv_rhs => rw [← item_pending slot items]
  exact hperm.map _

/-! ### One item after the other -/

section Greedy

variable (slot : α → Slot) (items : List α)

/-- One item waits for another one: it copies from it. -/
structure Awaits (x y : α) : Prop where
  left : x ∈ items
  right : y ∈ items
  source : (slot y).name ∈ (slot x).sources
  ne : (slot y).name ≠ (slot x).name

/-- All that an item waits for is done. -/
def IsReady (done : List α) (x : α) : Prop :=
  ∀ y, Awaits slot items x y → y ∈ done

/-- The rank of an item: its stage, then its place in the declaration. -/
def rank (x : α) : ℕ ×ₗ ℕ :=
  toLex ((slot x).stage, (items.map fun y => (slot y).name).idxOf (slot x).name)

/-- An item may follow those that are done if it is left, and ready unless no item left is. -/
def MayFollow (done left : List α) (x : α) : Prop :=
  x ∈ left ∧ (IsReady slot items done x ∨ ∀ y ∈ left, ¬IsReady slot items done y)

end Greedy

section Arranged

variable {slot : α → Slot} {items : List α}

theorem Awaits.waits {x y : α} (h : Awaits slot items x y) :
    Waits (items.map slot) (slot x).name (slot y).name :=
  ⟨slot x, List.mem_map_of_mem h.left, rfl, h.source, h.ne, slot y,
    List.mem_map_of_mem h.right, rfl⟩

theorem isReady_iff {p : Pending α} {done : List (Pending α)}
    (hnodup : (items.map fun y => (slot y).name).Nodup) (hp : p ∈ pending slot items)
    (hdone : ∀ q ∈ done, q ∈ pending slot items) :
    p.isReady (done.map (·.name)).reverse = true ↔
      IsReady slot items (done.map (·.item)) p.item := by
  have hitem : ∀ q ∈ pending slot items, q.item ∈ items := fun q hq =>
    item_pending slot items ▸ List.mem_map_of_mem hq
  have hwaits := (of_mem_pending hnodup hp).2.2
  have hready : p.isReady (done.map (·.name)).reverse = true ↔
      ∀ w ∈ p.waits, ∃ q ∈ done, q.name = w := by
    simp [Pending.isReady]
  rw [hready]
  constructor
  · intro h y hy
    -- What is done under the name of an awaited item is the item itself.
    obtain ⟨q, hq, hname⟩ := h _ ((hwaits _).2 ⟨hy.source, hy.ne, y, hy.right, rfl⟩)
    rw [(of_mem_pending hnodup (hdone q hq)).1] at hname
    rw [← List.inj_on_of_nodup_map hnodup (hitem q (hdone q hq)) hy.right hname]
    exact List.mem_map_of_mem hq
  · intro h w hw
    obtain ⟨hsource, hne, y, hy, rfl⟩ := (hwaits w).1 hw
    obtain ⟨q, hq, rfl⟩ := List.mem_map.1 (h y ⟨hitem p hp, hy, hsource, hne⟩)
    exact ⟨q, hq, (of_mem_pending hnodup (hdone q hq)).1⟩

/-- Each item may follow the ones before it, and is of least rank among those that may. -/
theorem arrange_least (hnodup : (items.map fun y => (slot y).name).Nodup) {pre post : List α}
    {x : α} (h : arrange slot items = pre ++ x :: post) :
    MayFollow slot items pre (x :: post) x ∧
      ∀ y, MayFollow slot items pre (x :: post) y → rank slot items x ≤ rank slot items y := by
  -- The items arranged are those of a list of pending ones.
  obtain ⟨l, hl, hperm, hnext⟩ := exists_arranged slot items
  rw [hl] at h
  obtain ⟨pre', rest, rfl, rfl, hrest⟩ := List.map_eq_append_iff.1 h
  obtain ⟨p, post', rfl, rfl, rfl⟩ := List.map_eq_cons_iff.1 hrest
  obtain ⟨left, hleft, hchosen⟩ := hnext pre' p post' rfl
  have hmem : ∀ q ∈ pre' ++ p :: post', q ∈ pending slot items := fun q => hperm.mem_iff.1
  have hpre : ∀ q ∈ pre', q ∈ pending slot items := fun q hq =>
    hmem q (List.mem_append_left _ hq)
  have hpost : ∀ q ∈ p :: post', q ∈ pending slot items := fun q hq =>
    hmem q (List.mem_append_right _ hq)
  -- The choices among the pending ones are those among their items.
  have hmay : ∀ q ∈ p :: post', q ∈ Pending.choices (pre'.map (·.name)).reverse left ↔
      MayFollow slot items (pre'.map (·.item)) (p.item :: post'.map (·.item)) q.item := by
    intro q hq
    have hready : ∀ r ∈ p :: post', r.isReady (pre'.map (·.name)).reverse = true ↔
        IsReady slot items (pre'.map (·.item)) r.item := fun r hr =>
      isReady_iff hnodup (hpost r hr) hpre
    have hleft' : q ∈ left := hleft.mem_iff.2 hq
    have hitem : q.item ∈ (p :: post').map (·.item) := List.mem_map_of_mem hq
    rw [Pending.mem_choices, MayFollow, ← List.map_cons, List.forall_mem_map, hready q hq]
    simp only [hleft', hitem, true_and]
    refine or_congr_right (forall_congr' fun r => ?_)
    rw [hleft.mem_iff]
    exact forall_congr' fun hr => not_congr (hready r hr)
  have hrank : ∀ q ∈ p :: post', toLex q.rank = rank slot items q.item := fun q hq => by
    rw [(of_mem_pending hnodup (hpost q hq)).2.1, rank]
  obtain ⟨hchoice, hleast⟩ := Pending.next?_eq_some hchosen
  refine ⟨(hmay p List.mem_cons_self).1 hchoice, fun y hy => ?_⟩
  obtain ⟨q, hq, rfl⟩ := List.mem_map.1 (List.map_cons ▸ hy.1)
  rw [← hrank p List.mem_cons_self, ← hrank q hq]
  exact hleast q ((hmay q hq).2 hy)

/-- An item awaited that is not done is left. -/
theorem Awaits.mem_left {x y : α} {pre left : List α} (h : Awaits slot items x y)
    (hsplit : arrange slot items = pre ++ left) (hy : y ∉ pre) : y ∈ left := by
  have hmem : y ∈ pre ++ left := hsplit ▸ (arrange_perm slot items).mem_iff.2 h.right
  exact (List.mem_append.1 hmem).resolve_left hy

/-- Without cycles, every item comes behind the items it copies from. -/
theorem arrange_isOrdered (hnodup : (items.map fun y => (slot y).name).Nodup)
    (h : Acyclic (items.map slot)) : IsOrdered slot (arrange slot items) := by
  obtain ⟨height, hheight⟩ := h.exists_rank
  intro pre x post hsplit w hw hne hw'
  obtain ⟨y, hy, rfl⟩ := hw'
  have hmem : ∀ y, y ∈ arrange slot items ↔ y ∈ items := fun y =>
    (arrange_perm slot items).mem_iff
  have hx : x ∈ items := (hmem x).1 (hsplit ▸ by simp)
  suffices hready : IsReady slot items pre x from
    ⟨y, hready y ⟨hx, (hmem y).1 hy, hw, hne⟩, rfl⟩
  refine (arrange_least hnodup hsplit).1.2.resolve_right fun hnone => ?_
  -- Of the items left, one of least height waits for none of them.
  obtain ⟨z, hz, hleast⟩ := (InvImage.wf (fun z => height (slot z).name) Nat.lt_wfRel.wf).has_min
    {z | z ∈ x :: post} ⟨x, List.mem_cons_self⟩
  refine hnone z hz fun v hv => ?_
  by_contra hleft
  exact hleast v (hv.mem_left hsplit hleft) (hheight _ _ hv.waits)

end Arranged

end Slot

/-! ### The sources of an entry -/

theorem anchoredSourcesIn_eq (fs : List Field) :
    anchoredSourcesIn fs = fs.flatMap Field.anchoredSources := by
  induction fs with
  | nil => rfl
  | cons f rest ih => rw [anchoredSourcesIn, ih, List.flatMap_cons]

theorem anchoredSourcesOf_eq (es : List Entry) :
    anchoredSourcesOf es = es.flatMap Entry.anchoredSources := by
  induction es with
  | nil => rfl
  | cons e rest ih => rw [anchoredSourcesOf, ih, List.flatMap_cons]

theorem Entry.anchoredSources_eq (e : Entry) :
    e.anchoredSources = e.fields.flatMap Field.anchoredSources := by
  cases e with
  | field f => simp [Entry.anchoredSources, Entry.fields]
  | group g =>
    cases g
    exact anchoredSourcesIn_eq _

theorem Node.anchoredSources_entries (n : Node) :
    n.anchoredSources = n.entries.flatMap Entry.anchoredSources := by
  rw [← anchoredSourcesOf_eq]
  cases n
  rfl

theorem Node.anchoredSources_eq (n : Node) :
    n.anchoredSources = n.fields.flatMap Field.anchoredSources := by
  rw [Node.anchoredSources_entries, Node.fields, List.flatMap_assoc, funext Entry.anchoredSources_eq]

theorem Field.anchoredSources_eq (f : Field) :
    f.anchoredSources = f.source.elim [] anchoredSourceOf ++ f.child.anchoredSources := by
  cases f
  rfl

theorem Child.anchoredSources_of_node? {c : Child} {n : Node} (h : c.node? = some n) :
    c.anchoredSources = n.anchoredSources := by
  cases c with
  | none => simp [Child.node?] at h
  | single m =>
    cases h
    rfl
  | many m =>
    cases h
    rfl

/-- An anchored path that a field anywhere below a node copies from begins at one of the names the
    node copies from at the root. -/
theorem Node.mem_anchoredSources {n m : Node} (h : n.Spans m) {f : Field} (hf : f ∈ m.fields)
    {path x : String} (hsource : f.source = some path)
    (hanchored : (Path.ofString path).anchored = true)
    (hfirst : (Path.ofString path).segments.head? = some x) : x ∈ n.anchoredSources := by
  induction h with
  | self n =>
    rw [Node.anchoredSources_eq, List.mem_flatMap]
    refine ⟨f, hf, ?_⟩
    obtain ⟨rest, hrest⟩ := List.head?_eq_some_iff.1 hfirst
    simp [Field.anchoredSources_eq, hsource, anchoredSourceOf, hanchored, hrest]
  | @child n m k g hg hm _ ih =>
    rw [Node.anchoredSources_eq, List.mem_flatMap]
    refine ⟨g, hg, ?_⟩
    rw [Field.anchoredSources_eq, Child.anchoredSources_of_node? hm]
    exact List.mem_append_right _ (ih hf)

namespace Entry

variable {e : Entry} {f : Field} {path x : String}

/-- The first segment of the path a field copies from is a source of its entry, where the path
    counts. -/
theorem mem_sources {atRoot : Bool} (hf : f ∈ e.fields) (hsource : f.source = some path)
    (hcounts : atRoot = true ∨ (Path.ofString path).anchored = false)
    (hfirst : (Path.ofString path).segments.head? = some x) : x ∈ (e.slot atRoot).sources := by
  refine List.mem_flatMap.2 ⟨f, hf, ?_⟩
  obtain ⟨rest, hrest⟩ := List.head?_eq_some_iff.1 hfirst
  rcases hcounts with rfl | hrelative
  · simp [Field.sources, hsource, sourceOf, hrest]
  · simp [Field.sources, hsource, sourceOf, hrest, hrelative]

/-- At the root, what is copied from there anywhere below a field is a source of its entry. -/
theorem mem_sources_of_anchored {n : Node} (hf : f ∈ e.fields) (hn : f.child.node? = some n)
    (hx : x ∈ n.anchoredSources) : x ∈ (e.slot true).sources := by
  refine List.mem_flatMap.2 ⟨f, hf, ?_⟩
  simp [Field.sources, Child.anchoredSources_of_node? hn, hx]

end Entry

/-! ### Schemas without cycles -/

namespace Node

/-- No entry of the node waits, directly or through others, for itself. -/
def IsAcyclic (n : Node) (atRoot : Bool) : Prop :=
  Slot.Acyclic (n.entries.map (Entry.slot atRoot))

/-- In a schema without cycles no node has any: neither the root, nor a node below it. -/
structure Acyclic (n : Node) : Prop where
  root : n.IsAcyclic true
  below : ∀ f ∈ n.fields, ∀ m, f.child.node? = some m → ∀ k, m.Spans k → k.IsAcyclic false

theorem evaluationOrder_perm (n : Node) (atRoot : Bool) :
    (evaluationOrder atRoot n.entries).Perm n.entries :=
  Slot.arrange_perm _ _

theorem mem_evaluationOrder {n : Node} {atRoot : Bool} {e : Entry} :
    e ∈ evaluationOrder atRoot n.entries ↔ e ∈ n.entries :=
  (n.evaluationOrder_perm atRoot).mem_iff

theorem IsProper.nodup_evaluationOrder {n : Node} (hn : n.IsProper) (atRoot : Bool) :
    ((evaluationOrder atRoot n.entries).map Entry.name).Nodup :=
  ((n.evaluationOrder_perm atRoot).map _).nodup_iff.2 hn.nodup

/-- Without cycles, every entry of a node is evaluated behind the entries it copies from. -/
theorem evaluationOrder_isOrdered {n : Node} {atRoot : Bool} (hn : n.IsProper)
    (h : n.IsAcyclic atRoot) :
    Slot.IsOrdered (Entry.slot atRoot) (evaluationOrder atRoot n.entries) :=
  Slot.arrange_isOrdered hn.nodup h

/-! ### Pending names -/

/-- The names that are pending while the entry of a name is evaluated: its own, and those of the
    entries behind it. -/
def pendingAt (n : Node) (atRoot : Bool) (name : String) : List String :=
  ((evaluationOrder atRoot n.entries).map Entry.name).dropWhile (· != name)

theorem pendingAt_of_split {n : Node} (hn : n.IsProper) {atRoot : Bool} {pre post : List Entry}
    {e : Entry} (h : evaluationOrder atRoot n.entries = pre ++ e :: post) :
    n.pendingAt atRoot e.name = e.name :: post.map Entry.name := by
  have hpre := (name_notMem_of_split h (hn.nodup_evaluationOrder atRoot)).1
  rw [pendingAt, h, List.map_append, List.map_cons, List.dropWhile_append_of_pos]
  · rw [List.dropWhile_cons_of_neg (by simp)]
  · -- The entries before it have other names.
    intro x hx
    rw [bne_iff_ne]
    rintro rfl
    exact hpre hx

end Node

end Intake.Schema
