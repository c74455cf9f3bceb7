import Intake.Proofs.Run
import Intake.Proofs.Tree
import Intake.Proofs.Value.Alike

/-!
# Trees that differ in order

Two trees are alike (`Tree.Alike`) when they hold alike values under the same names, in whatever
order. Alike maps are read as alike trees (`Tree.read_alike`), and alike trees are alike as maps
(`Tree.Alike.toValue`). Paths lead to alike values in alike values (`Path.find_alike`), and those
with a first segment also in trees that are alike under this name only (`Path.find_alike_tree`).

A map is read by putting its entries into a tree one after the other, so that of entries whose keys
stand for one name the last one counts. The order of these stays in alike maps, and the order of all
others does not matter (`foldl_put_shuffle`).
-/

namespace Intake

open Run

namespace Value

/-! ### Looking into alike values -/

theorem eq_of_equals_text {v : Value} {x : String} (h : v.equals (text x) = true) : v = text x := by
  cases v with
  | text s =>
    rw [equals_text, beq_iff_eq] at h
    rw [h]
  | _ => cases h

theorem Alike.exists_paired {es es' : List (Value × Value)} (h : Alike (.map es) (.map es')) :
    ∃ fs, Paired Alike es fs ∧ Shuffle (fun e => Tree.nameOf e.1) fs es' := by
  rcases h with _ | _ | _ | ⟨h, hshuffle⟩
  · exact ⟨es, paired_alike_refl es, .refl es⟩
  · exact ⟨_, h, hshuffle⟩

/-- Alike maps hold alike values under a name. -/
theorem Alike.findText? {es es' : List (Value × Value)} (h : Alike (.map es) (.map es'))
    (x : String) : Option.Rel Alike (Value.findText? x es) (Value.findText? x es') := by
  obtain ⟨fs, hpaired, hshuffle⟩ := h.exists_paired
  -- Keys that are found by one name have this name, so that their order is kept.
  have hsame : fs.find? (fun e => e.1.equals (text x)) = es'.find? fun e => e.1.equals (text x) :=
    hshuffle.find?_eq fun a b ha hb => by rw [eq_of_equals_text ha, eq_of_equals_text hb]
  rw [Value.findText?, Value.findText?, find?, find?, ← hsame]
  exact hpaired.find? fun k => k.equals (text x)

theorem lookup_eq_find? {α : Type} (l : List (String × α)) (x : String) :
    l.lookup x = (l.find? fun e => x == e.1).map (·.2) := by
  induction l with
  | nil => rfl
  | cons e l ih =>
    rw [List.lookup_cons, List.find?_cons, ih]
    cases x == e.1 <;> rfl

/-- Shuffled fields that are paired hold alike values under a name. -/
theorem lookup_alike {fs gs fs' : List (String × Value)} (h : Paired Alike fs gs)
    (hshuffle : Shuffle Prod.fst gs fs') (x : String) :
    Option.Rel Alike (fs.lookup x) (fs'.lookup x) := by
  have hsame : gs.find? (fun e => x == e.1) = fs'.find? fun e => x == e.1 := by
    refine hshuffle.find?_eq fun a b ha hb => ?_
    rw [← eq_of_beq ha, ← eq_of_beq hb]
  rw [lookup_eq_find?, lookup_eq_find?, ← hsame]
  exact h.find? fun k => x == k

end Value

namespace Path

open Value (Alike)

theorem rel_alike_refl (v? : Option Value) : Option.Rel Alike v? v? := by
  rcases v? with _ | v
  · exact .none
  · exact .some (.refl v)

/-- A segment leads to alike values. -/
theorem step_alike (segment : String) {v w : Value} (h : Alike v w) :
    SameEnd (Option.Rel Alike) (step segment v) (step segment w) := by
  cases h with
  | refl =>
    cases step segment v with
    | error e => exact rfl
    | ok found => exact rel_alike_refl found
  | list h => exact item?_of_forall₂ segment h
  | tuple h => exact item?_of_forall₂ segment h
  | map h hshuffle => exact Alike.findText? (.map h hshuffle) segment
  | record h hshuffle => exact Value.lookup_alike h hshuffle segment

theorem walk_alike (segments : List String) {v w : Value} (h : Alike v w) :
    SameEnd (Option.Rel Alike) (walk segments v) (walk segments w) := by
  induction segments generalizing v w with
  | nil => exact Option.Rel.some h
  | cons segment rest ih =>
    refine walk_of_step ((step_alike segment h).imp fun x y hxy => ?_)
    cases hxy with
    | some hvw => exact .some (ih hvw)
    | none => exact .none

/-- Paths lead to alike values, or to the same fault. -/
theorem find_alike (segments : List String) {v w : Value} (h : Alike v w) :
    SameEnd (Option.Rel Alike) (find segments v) (find segments w) :=
  find_of_walk (fun _ _ hvw => hvw.isNull) (walk_alike segments h)

/-- A path that begins at a name leads to alike values in trees that are alike under this name. -/
theorem find_alike_tree {segments : List String} {x : String} {t t' : Tree}
    (hx : segments.head? = some x) (h : Option.Rel Alike (t.get? x) (t'.get? x)) :
    Matched (Option.Rel Alike) (find segments t.toValue) (find segments t'.toValue) := by
  obtain ⟨rest, rfl⟩ := List.head?_eq_some_iff.1 hx
  rw [find_cons_tree, find_cons_tree]
  generalize t.get? x = v? at h
  generalize t'.get? x = w? at h
  rcases h with hvw | _
  · exact (find_alike rest hvw).matched
  · exact .none

end Path

namespace Tree

/-! ### Alike trees -/

/-- The names of each tree are distinct, and both hold alike values under the same names. -/
structure Alike (t t' : Tree) : Prop where
  nodup : t.names.Nodup
  nodup' : t'.names.Nodup
  get? : ∀ x, Option.Rel Value.Alike (t.get? x) (t'.get? x)

theorem mem_of_get? {t : Tree} {x : String} {v : Value} (h : t.get? x = some v) : (x, v) ∈ t := by
  obtain ⟨pre, post, rfl, -⟩ := List.lookup_eq_some_iff.1 h
  exact List.mem_append_right _ List.mem_cons_self

theorem get?_eq_some_iff {t : Tree} (h : t.names.Nodup) {x : String} {v : Value} :
    t.get? x = some v ↔ (x, v) ∈ t :=
  ⟨mem_of_get?, lookup_of_mem h⟩

/-- Alike trees have the same names. -/
theorem Alike.names_perm {t t' : Tree} (h : t.Alike t') : t.names.Perm t'.names := by
  refine (List.perm_ext_iff_of_nodup h.nodup h.nodup').2 fun x => ?_
  rw [mem_names_iff, mem_names_iff, has, has, rel_isSome (h.get? x)]

/-- Alike trees are alike as maps. -/
theorem Alike.toValue {t t' : Tree} (h : t.Alike t') : t.toValue.Alike t'.toValue := by
  -- The values of the second tree, in the order of the first one.
  let u : Tree := t.map fun e => (e.1, (t'.get? e.1).getD e.2)
  have hnodup : (u.map Prod.fst).Nodup := by
    rw [List.map_map]
    exact h.nodup
  have hvalue : ∀ e ∈ t, ∃ w, t'.get? e.1 = some w ∧ Value.Alike e.2 w := by
    intro e he
    have hx := h.get? e.1
    rw [(get?_eq_some_iff h.nodup).2 he] at hx
    generalize t'.get? e.1 = w? at hx
    rcases hx with hvw | _
    exact ⟨_, rfl, hvw⟩
  -- Both hold the same values under the same names, which are distinct.
  have hperm : u.Perm t' := by
    refine (List.perm_ext_iff_of_nodup (.of_map Prod.fst hnodup)
      (.of_map Prod.fst h.nodup')).2 ?_
    rintro ⟨x, v⟩
    rw [← get?_eq_some_iff h.nodup', List.mem_map]
    constructor
    · rintro ⟨e, he, heq⟩
      obtain ⟨w, hw, -⟩ := hvalue e he
      rw [hw] at heq
      cases heq
      exact hw
    · intro hv
      have hmem : x ∈ t.names := h.names_perm.mem_iff.2 (List.mem_map_of_mem (mem_of_get? hv))
      obtain ⟨e, he, rfl⟩ := List.mem_map.1 hmem
      exact ⟨e, he, by rw [hv]; rfl⟩
  have hshuffle : Shuffle (fun e => nameOf e.1) (u.map fun e => (Value.text e.1, e.2))
      (t'.map fun e => (Value.text e.1, e.2)) := by
    refine .of_perm (hperm.map _) ?_
    rw [List.map_map]
    exact hnodup
  refine .map ?_ hshuffle
  rw [List.map_map]
  refine Paired.of_map (S := fun e e' => e ∈ t ∧ e = e') ?_ ?_
  · exact List.forall₂_same.2 fun e he => ⟨he, rfl⟩
  · rintro e _ ⟨he, rfl⟩
    obtain ⟨w, hw, hvw⟩ := hvalue e he
    exact ⟨rfl, by simpa [hw] using hvw⟩

/-- Alike values are put under a name. -/
theorem Alike.put {t t' : Tree} (h : t.Alike t') (name : String) {v w : Value} (hvw : v.Alike w) :
    (t.put name v).Alike (t'.put name w) := by
  refine ⟨nodup_put h.nodup name v, nodup_put h.nodup' name w, fun x => ?_⟩
  rw [get?_put, get?_put]
  split
  · exact .some hvw
  · exact h.get? x

/-! ### Reading alike maps -/

theorem nodup_foldl_put (es : List (Value × Value)) {t : Tree} (h : t.names.Nodup) :
    (es.foldl (fun t e => t.put (nameOf e.1) e.2) t).names.Nodup := by
  induction es generalizing t with
  | nil => exact h
  | cons e es ih => exact ih (nodup_put h _ _)

/-- Putting alike values under the same names, one after the other, leads to alike values. -/
theorem foldl_put_paired {es fs : List (Value × Value)} (h : Paired Value.Alike es fs)
    {t t' : Tree} (ht : ∀ x, Option.Rel Value.Alike (t.get? x) (t'.get? x)) (x : String) :
    Option.Rel Value.Alike ((es.foldl (fun t e => t.put (nameOf e.1) e.2) t).get? x)
      ((fs.foldl (fun t e => t.put (nameOf e.1) e.2) t').get? x) := by
  induction h generalizing t t' with
  | nil => exact ht x
  | cons hab _ ih =>
    refine ih fun y => ?_
    rw [get?_put, get?_put]
    split
    · exact .some hab
    · exact ht y

theorem foldl_put_congr (es : List (Value × Value)) {t t' : Tree}
    (ht : ∀ x, t.get? x = t'.get? x) (x : String) :
    (es.foldl (fun t e => t.put (nameOf e.1) e.2) t).get? x =
      (es.foldl (fun t e => t.put (nameOf e.1) e.2) t').get? x := by
  induction es generalizing t t' with
  | nil => exact ht x
  | cons e es ih =>
    refine ih fun y => ?_
    rw [get?_put, get?_put, ht y]

/-- Of values put under names, one after the other, only the order of those under one name
    matters. -/
theorem foldl_put_shuffle {fs es' : List (Value × Value)}
    (h : Shuffle (fun e => nameOf e.1) fs es') (t : Tree) (x : String) :
    (fs.foldl (fun t e => t.put (nameOf e.1) e.2) t).get? x =
      (es'.foldl (fun t e => t.put (nameOf e.1) e.2) t).get? x := by
  induction h generalizing t with
  | nil => rfl
  | cons a _ ih => exact ih _
  | @swap a b as hne =>
    refine foldl_put_congr as (fun y => ?_) x
    rw [get?_put, get?_put, get?_put, get?_put]
    -- Under different names, it does not matter which value is put first.
    by_cases hy : y = nameOf b.1
    · rw [if_pos hy, if_neg (hy ▸ Ne.symm hne), if_pos hy]
    · rw [if_neg hy, if_neg hy]
  | trans _ _ ih ih' => exact (ih t).trans (ih' t)

/-- Alike maps are read as alike trees, or both cannot be read. -/
theorem read_alike {es es' : List (Value × Value)} (h : Value.Alike (.map es) (.map es')) :
    Matched Alike (read es) (read es') := by
  obtain ⟨fs, hpaired, hshuffle⟩ := h.exists_paired
  have hlong : es.any (·.1.isTooLong) = es'.any (·.1.isTooLong) :=
    Paired.any_eq (hpaired.imp_of_mem fun _ _ _ _ _ => rfl) hshuffle.perm
  rw [read, read]
  rw [hlong]
  split
  · exact trivial
  · refine ⟨nodup_foldl_put es .nil, nodup_foldl_put es' .nil, fun x => ?_⟩
    have hsame : (ofEntries fs).get? x = (ofEntries es').get? x :=
      foldl_put_shuffle hshuffle [] x
    rw [← hsame]
    exact foldl_put_paired hpaired (fun _ => .none) x

end Tree

end Intake
