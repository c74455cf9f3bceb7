import Intake.Path
import Intake.Proofs.Lockstep
import Intake.Tree
import Mathlib.Data.List.Nodup

/-!
# Trees and paths

How a tree answers after a name was put into it (`Tree.get?_put`), and what of a tree a path depends
on: only the value under its first segment (`Path.resolve_congr`). A path without segments leads to
the whole tree, and is left out here.

The names of a tree are distinct, and stay so when a name is put into it (`Tree.nodup_put`); a tree
taken for a value is a map with these names for keys, in which a path finds what the tree holds
(`find_cons_tree`).

In two values, paths lead to the same places if each segment does (`Path.walk_of_step`), and with
them to what is present there (`Path.find_of_walk`).
-/

namespace Intake

namespace Tree

variable {t t' : Tree} {name x : String} {v : Value}

@[simp] theorem get?_nil (x : String) : get? [] x = none := rfl

theorem get?_cons (e : String × Value) (t : Tree) (x : String) :
    get? (e :: t) x = if x = e.1 then some e.2 else get? t x := by
  rw [get?, get?]
  rw [List.lookup_cons]
  by_cases h : x = e.1
  · simp [h]
  · simp [h, beq_false_of_ne h]

theorem get?_put (t : Tree) (name x : String) (v : Value) :
    (t.put name v).get? x = if x = name then some v else t.get? x := by
  induction t with
  | nil => simp [put, get?_cons]
  | cons e rest ih =>
    by_cases hkey : e.1 = name
    · simp only [put, hkey, beq_self_eq_true, if_true, get?_cons]
      split <;> rfl
    · simp only [put, beq_false_of_ne hkey, Bool.false_eq_true, if_false, get?_cons, ih]
      by_cases hx : x = e.1
      · simp [hx, hkey]
      · simp [hx]

@[simp] theorem get?_put_self (t : Tree) (name : String) (v : Value) :
    (t.put name v).get? name = some v := by
  simp [get?_put]

theorem get?_put_of_ne (t : Tree) (v : Value) (h : x ≠ name) : (t.put name v).get? x = t.get? x := by
  simp [get?_put, h]

theorem sent?_congr (h : t.get? name = t'.get? name) : t.sent? name = t'.sent? name := by
  rw [sent?, sent?, h]

/-- Where names are distinct, every value is found under its name. -/
theorem lookup_of_mem {α : Type} {l : List (String × α)} (hnodup : (l.map Prod.fst).Nodup)
    {x : String} {a : α} (h : (x, a) ∈ l) : l.lookup x = some a := by
  obtain ⟨pre, post, rfl⟩ := List.append_of_mem h
  refine List.lookup_eq_some_iff.2 ⟨pre, post, rfl, fun p hp => ?_⟩
  -- An earlier item of this name would be a second one.
  rw [List.map_append, List.map_cons, List.nodup_append] at hnodup
  rw [bne_iff_ne]
  exact fun heq => hnodup.2.2 _ (List.mem_map_of_mem hp) _ List.mem_cons_self heq.symm

theorem mem_names_iff : x ∈ t.names ↔ t.has x = true := by
  rw [names, has]
  induction t with
  | nil => simp
  | cons e rest ih =>
    rw [List.map_cons, List.mem_cons, ih, get?_cons]
    by_cases h : x = e.1 <;> simp [h]

theorem names_cons (e : String × Value) (t : Tree) : names (e :: t) = e.1 :: t.names := rfl

theorem mem_names_put {t : Tree} {name x : String} {v : Value} :
    x ∈ (t.put name v).names ↔ x = name ∨ x ∈ t.names := by
  rw [mem_names_iff, mem_names_iff, has, has, get?_put]
  split <;> simp_all

theorem nodup_put {t : Tree} (h : t.names.Nodup) (name : String) (v : Value) :
    (t.put name v).names.Nodup := by
  induction t with
  | nil => exact List.nodup_singleton name
  | cons e rest ih =>
    rw [names_cons, List.nodup_cons] at h
    rw [put]
    split
    · next hname =>
      rw [names_cons, List.nodup_cons, ← eq_of_beq hname]
      exact h
    · next hname =>
      rw [names_cons, List.nodup_cons, mem_names_put, not_or]
      exact ⟨⟨fun heq => hname (beq_iff_eq.2 heq), h.1⟩, ih h.2⟩

end Tree

namespace Value

@[simp] theorem equals_text (a b : String) : (text a).equals (text b) = (a == b) := by
  simp [equals, scalarEquals]

/-- A tree as a map is looked into by its names. -/
theorem findText?_tree (t : Tree) (x : String) :
    findText? x (t.map fun e => (text e.1, e.2)) = t.get? x := by
  rw [findText?, find?]
  induction t with
  | nil => rfl
  | cons e rest ih =>
    rw [List.map_cons, List.find?_cons, equals_text, Tree.get?_cons]
    by_cases h : x = e.1
    · simp [h]
    · simp only [beq_false_of_ne (Ne.symm h), if_neg h]
      exact ih

end Value

namespace Path

/-- The first segment of a path: the name it begins with. -/
def first? (p : Path) : Option String :=
  p.segments.head?

theorem step_tree (t : Tree) (x : String) : step x t.toValue = .ok (t.get? x) := by
  simp [Tree.toValue, step, Value.findText?_tree]

/-- Nothing is present behind null. -/
theorem find_null (segments : List String) : find segments .null = .ok none := by
  cases segments <;> rfl

/-- What stands at a path in a tree stands at the rest of the path under its first segment. -/
theorem find_cons_tree (t : Tree) (x : String) (rest : List String) :
    find (x :: rest) t.toValue = (t.get? x).elim (.ok none) (find rest) := by
  simp only [find, walk, step_tree]
  cases t.get? x <;> rfl

/-- In trees with the same value under the first segment, the same stands at a path. -/
theorem find_congr {segments : List String} {x : String} {t t' : Tree}
    (hx : segments.head? = some x) (h : t.get? x = t'.get? x) :
    find segments t.toValue = find segments t'.toValue := by
  obtain ⟨rest, rfl⟩ := List.head?_eq_some_iff.1 hx
  rw [find_cons_tree, find_cons_tree, h]

/-- What a path resolves to depends on the value under its first segment: in the tree of the node,
    or in that of the root if the path is anchored. -/
theorem resolve_congr {p : Path} {x : String} {here here' root root' : Tree}
    (hx : p.first? = some x) (hhere : p.anchored = false → here.get? x = here'.get? x)
    (hroot : p.anchored = true → root.get? x = root'.get? x) :
    p.resolve here.toValue root.toValue = p.resolve here'.toValue root'.toValue := by
  rw [resolve, resolve]
  -- Only one of the two trees is looked into.
  cases ha : p.anchored with
  | false => exact find_congr hx (hhere ha)
  | true => exact find_congr hx (hroot ha)

/-- In two roots an anchored path resolves to the same if they have the same value under its first
    segment, and a relative path does anyway. -/
theorem resolve_congr_root {p : Path} {root root' : Tree} (here : Tree)
    (h : p.anchored = true → ∃ x, p.first? = some x ∧ root.get? x = root'.get? x) :
    p.resolve here.toValue root.toValue = p.resolve here.toValue root'.toValue := by
  cases ha : p.anchored with
  | false => simp only [resolve, ha, Bool.false_eq_true, if_false]
  | true =>
    obtain ⟨x, hx, hroot⟩ := h ha
    exact resolve_congr hx (fun _ => rfl) fun _ => hroot

/-! ### Related places -/

/-- The items that a segment leads to in related lists. -/
theorem item?_of_forall₂ {R : Value → Value → Prop} (segment : String) {vs ws : List Value}
    (h : List.Forall₂ R vs ws) :
    Run.SameEnd (Option.Rel R) (item? segment vs) (item? segment ws) := by
  rw [item?, item?, h.length_eq]
  cases index? segment ws.length with
  | error e => exact rfl
  | ok i? =>
    cases i? with
    | none => exact Option.Rel.none
    | some i => exact Run.rel_getElem? h i

/-- Where the first segment leads to places from which the others lead alike, all of them do. -/
theorem walk_of_step {R : Value → Value → Prop} {segment : String} {rest : List String}
    {v w : Value} (h : Run.SameEnd (Option.Rel fun v w =>
      Run.SameEnd (Option.Rel R) (walk rest v) (walk rest w)) (step segment v) (step segment w)) :
    Run.SameEnd (Option.Rel R) (walk (segment :: rest) v) (walk (segment :: rest) w) := by
  rw [walk, walk]
  generalize step segment v = x at h
  generalize step segment w = y at h
  cases x <;> cases y
  · exact h
  · exact h.elim
  · exact h.elim
  · rcases h with h | _
    · exact h
    · exact Option.Rel.none

/-- What is present at related places. -/
theorem find_of_walk {R : Value → Value → Prop} (hnull : ∀ v w, R v w → v.isNull = w.isNull)
    {segments : List String} {v w : Value}
    (h : Run.SameEnd (Option.Rel R) (walk segments v) (walk segments w)) :
    Run.SameEnd (Option.Rel R) (find segments v) (find segments w) := by
  rw [find, find]
  generalize walk segments v = x at h
  generalize walk segments w = y at h
  cases x <;> cases y
  · exact congrArg Fault.index h
  · exact h.elim
  · exact h.elim
  · exact Run.rel_filter h fun v w hvw => by rw [hnull v w hvw]

end Path

end Intake
