import Intake.Failure.Basic
import Mathlib.Data.List.Forall2
import Mathlib.Data.List.Perm.Basic

/-!
# Failures that differ in order

Payloads are alike (`Payload.Alike`) when they are of one kind and their names or entries are the
same up to their order, at any depth. The failures of a field are told by the field and the action;
their messages may differ, since they may show a value.

The order of failures is that of the entries of a node, and for the clauses that of their
evaluation, so that a schema with its entries in another order fails with the same ones rearranged.
Lists of failures are compared by `Rearranged`: after a permutation they are related one by one.
Failures that are rearranged have alike payloads (`aggregate_alike`), as a payload is chosen by the
kinds of the failures and not by their order.
-/

namespace Intake.Failure

/-! ### Related lists in any order -/

section Rearranged

variable {α β : Type} {R : α → β → Prop}

/-- The items of the lists are related one by one, once the second list is put in order. -/
def Rearranged (R : α → β → Prop) (as : List α) (bs : List β) : Prop :=
  ∃ l, List.Forall₂ R as l ∧ l.Perm bs

namespace Rearranged

variable {as as' : List α} {bs bs' : List β}

theorem of_forall₂ (h : List.Forall₂ R as bs) : Rearranged R as bs :=
  ⟨bs, h, .refl bs⟩

/-- One of the two lists may be permuted further. -/
theorem trans_perm (h : Rearranged R as bs) (hperm : bs.Perm bs') : Rearranged R as bs' := by
  obtain ⟨l, hl, hlbs⟩ := h
  exact ⟨l, hl, hlbs.trans hperm⟩

theorem append (h : Rearranged R as bs) (h' : Rearranged R as' bs') :
    Rearranged R (as ++ as') (bs ++ bs') := by
  obtain ⟨l, hl, hperm⟩ := h
  obtain ⟨l', hl', hperm'⟩ := h'
  exact ⟨l ++ l', List.rel_append hl hl', hperm.append hperm'⟩

theorem isEmpty (h : Rearranged R as bs) : as.isEmpty = bs.isEmpty := by
  obtain ⟨l, hl, hperm⟩ := h
  rw [← hperm.isEmpty_eq]
  cases hl <;> rfl

/-- A test that related items pass alike is passed by some of the ones where it is by some of the
    others. -/
theorem any_eq (h : Rearranged R as bs) {p : α → Bool} {q : β → Bool}
    (hpq : ∀ a b, R a b → p a = q b) : as.any p = bs.any q := by
  obtain ⟨l, hl, hperm⟩ := h
  rw [← hperm.any_eq]
  clear hperm
  induction hl with
  | nil => rfl
  | cons hab _ ih => rw [List.any_cons, List.any_cons, hpq _ _ hab, ih]

/-- Lists of lists that are related in any order are so when they are joined. -/
theorem flatten {ass : List (List α)} {bss : List (List β)}
    (h : Rearranged (Rearranged R) ass bss) : Rearranged R ass.flatten bss.flatten := by
  obtain ⟨lss, hl, hperm⟩ := h
  refine trans_perm ?_ hperm.flatten
  clear hperm
  induction hl with
  | nil => exact of_forall₂ .nil
  | cons h _ ih =>
    rw [List.flatten_cons, List.flatten_cons]
    exact h.append ih

end Rearranged

end Rearranged

/-! ### Alike failures -/

mutual
/-- The entries are the same, up to the message about a field and the order inside a payload. -/
inductive Entry.Alike : Entry → Entry → Prop
  | refl (e : Entry) : Entry.Alike e e
  | field (name action message message' : String) :
    Entry.Alike (.field name action message) (.field name action message')
  | nested {p q : Payload} (field : String) (index : Option Int) :
    Payload.Alike p q → Entry.Alike (.nested field p index) (.nested field q index)

/-- The payloads are of one kind, with the same names or alike entries in any order. -/
inductive Payload.Alike : Payload → Payload → Prop
  | required {fs gs : List String} : fs.Perm gs → Payload.Alike (.required fs) (.required gs)
  | authorized {fs gs : List String} : fs.Perm gs → Payload.Alike (.authorized fs) (.authorized gs)
  | bad {es fs gs : List Entry} : List.Forall₂ Entry.Alike es fs → fs.Perm gs →
    Payload.Alike (.bad es) (.bad gs)
  | domain {es fs gs : List Entry} : List.Forall₂ Entry.Alike es fs → fs.Perm gs →
    Payload.Alike (.domain es) (.domain gs)
  | dependent {es fs gs : List Entry} : List.Forall₂ Entry.Alike es fs → fs.Perm gs →
    Payload.Alike (.dependent es) (.dependent gs)
end

theorem rearranged_refl (es : List Entry) : Rearranged Entry.Alike es es :=
  .of_forall₂ (List.forall₂_same.2 fun e _ => .refl e)

namespace Entry.Alike

variable {e e' : Entry}

/-- Alike entries are both bad fields or none. -/
theorem isBad (h : e.Alike e') : e.isBad = e'.isBad := by
  cases h <;> rfl

theorem isDependent (h : e.Alike e') : e.isDependent = e'.isDependent := by
  cases h <;> rfl

end Entry.Alike

namespace Payload.Alike

variable {p q : Payload}

theorem refl (p : Payload) : p.Alike p := by
  have hrefl : ∀ es, List.Forall₂ Entry.Alike es es := fun es =>
    List.forall₂_same.2 fun e _ => .refl e
  cases p with
  | required fs => exact .required (.refl fs)
  | authorized fs => exact .authorized (.refl fs)
  | bad es => exact .bad (hrefl es) (.refl es)
  | domain es => exact .domain (hrefl es) (.refl es)
  | dependent es => exact .dependent (hrefl es) (.refl es)

/-- Alike payloads have alike entries, up to their order. -/
theorem entries (h : p.Alike q) : Rearranged Entry.Alike p.entries q.entries := by
  cases h with
  | required => exact rearranged_refl []
  | authorized => exact rearranged_refl []
  | bad h hperm => exact ⟨_, h, hperm⟩
  | domain h hperm => exact ⟨_, h, hperm⟩
  | dependent h hperm => exact ⟨_, h, hperm⟩

end Payload.Alike

/-- Alike failures amount to alike payloads. -/
theorem aggregate_alike {es fs : List Entry} (h : Rearranged Entry.Alike es fs) :
    Option.Rel Payload.Alike (aggregate es) (aggregate fs) := by
  have hbad : es.any Entry.isBad = fs.any Entry.isBad := h.any_eq fun _ _ => Entry.Alike.isBad
  have hdependent : es.any Entry.isDependent = fs.any Entry.isDependent :=
    h.any_eq fun _ _ => Entry.Alike.isDependent
  have hempty := h.isEmpty
  obtain ⟨l, hl, hperm⟩ := h
  rw [aggregate, aggregate, hempty, hbad, hdependent]
  split
  · exact .none
  split
  · exact .some (.bad hl hperm)
  split
  · exact .some (.dependent hl hperm)
  · exact .some (.domain hl hperm)

end Intake.Failure
