import Mathlib.Data.List.Nodup
import Intake.Schema.Basic

/-!
# The nodes of a schema

A schema spans its own node and all nodes below it (`Node.Spans`). What has to hold everywhere in a
schema is said of every node it spans, and proved from the leaves upwards (`Node.below_induction`).
For a schema that is written down, `Node.forall_spans_of_children` takes this apart node by node,
with short forms for schemas of one and of two levels.

A schema is well-formed (`Node.WellFormed`) when at each of its nodes the names are pairwise
distinct and each candidate of a group has the name of the group. Authoring admits no others. At
such a node an entry is told by its name (`Node.IsProper.entry_eq`).
-/

namespace Intake.Schema

/-- A field with something else below it. -/
def Field.withChild (f : Field) (c : Child) : Field :=
  { f with child := c }

theorem Field.withChild_child (f : Field) : f.withChild f.child = f := by
  cases f
  rfl

namespace Node

/-- The fields of a node: those it declares, and the candidates of its groups. -/
def fields (n : Node) : List Field :=
  n.entries.flatMap Entry.fields

theorem mem_fields {n : Node} {e : Entry} {f : Field} (he : e ∈ n.entries) (hf : f ∈ e.fields) :
    f ∈ n.fields :=
  List.mem_flatMap.2 ⟨e, he, hf⟩

/-- A node spans itself and the nodes below it. -/
inductive Spans : Node → Node → Prop
  | self (n : Node) : Spans n n
  | child {n m k : Node} {f : Field} : f ∈ n.fields → f.child.node? = some m → Spans m k → Spans n k

/-- What holds at every node is what holds at the node itself and at every node that a child
    spans. -/
theorem forall_spans_iff {n : Node} {P : Node → Prop} :
    (∀ m, n.Spans m → P m) ↔
      P n ∧ ∀ f ∈ n.fields, ∀ m, f.child.node? = some m → ∀ k, m.Spans k → P k := by
  constructor
  · intro h
    exact ⟨h n (.self n), fun f hf m hm k hk => h k (.child hf hm hk)⟩
  · rintro ⟨hn, hbelow⟩ m hm
    cases hm with
    | self => exact hn
    | child hf hm hk => exact hbelow _ hf _ hm _ hk

/-- The nodes right below a node. -/
def children (n : Node) : List Node :=
  n.fields.filterMap (·.child.node?)

theorem mem_children {n m : Node} :
    m ∈ n.children ↔ ∃ f ∈ n.fields, f.child.node? = some m :=
  List.mem_filterMap

/-- What holds at a node and at every node that the nodes right below it span holds everywhere. -/
theorem forall_spans_of_children {n : Node} {P : Node → Prop} (hn : P n)
    (hchildren : ∀ m ∈ n.children, ∀ k, m.Spans k → P k) : ∀ m, n.Spans m → P m :=
  forall_spans_iff.2 ⟨hn, fun f hf m hm => hchildren m (mem_children.2 ⟨f, hf, hm⟩)⟩

/-- What holds at a node with no nodes below it holds everywhere in its schema. -/
theorem forall_spans_of_leaf {n : Node} {P : Node → Prop} (hleaf : n.children = []) (hn : P n) :
    ∀ m, n.Spans m → P m :=
  forall_spans_of_children hn fun m hm => by simp [hleaf] at hm

/-- What holds at a node and at the nodes right below it holds everywhere in its schema, where these
    have no nodes below them. -/
theorem forall_spans_of_leaves {n : Node} {P : Node → Prop}
    (hleaves : ∀ m ∈ n.children, m.children = []) (hn : P n) (hchildren : ∀ m ∈ n.children, P m) :
    ∀ k, n.Spans k → P k :=
  forall_spans_of_children hn fun m hm => forall_spans_of_leaf (hleaves m hm) (hchildren m hm)

/-- What holds at a node and at the only node below it holds everywhere in its schema. -/
theorem forall_spans_of_child {n m : Node} {P : Node → Prop} (hchild : n.children = [m])
    (hleaf : m.children = []) (hn : P n) (hm : P m) : ∀ k, n.Spans k → P k :=
  forall_spans_of_leaves (by simpa [hchild] using hleaf) hn (by simpa [hchild] using hm)

/-- Where names are distinct, an entry has another name than those before it and behind it. -/
theorem name_notMem_of_split {es pre post : List Entry} {e : Entry} (hsplit : es = pre ++ e :: post)
    (hnodup : (es.map Entry.name).Nodup) :
    e.name ∉ pre.map Entry.name ∧ e.name ∉ post.map Entry.name := by
  rw [hsplit, List.map_append, List.map_cons, List.nodup_middle, List.nodup_cons, List.mem_append,
    not_or] at hnodup
  exact hnodup.1

theorem sizeOf_child {n m : Node} {f : Field} (hf : f ∈ n.fields) (hm : f.child.node? = some m) :
    sizeOf m < sizeOf n := by
  -- The size falls at each step: from the node to the entry, to the field, and to what is below.
  have hchild : sizeOf m < sizeOf f := by
    rcases f with ⟨_, _, _, _, _, _, _, _, _, _, child⟩
    cases child <;> simp_all [Child.node?] <;> omega
  obtain ⟨e, he, hf⟩ := List.mem_flatMap.1 hf
  have hentry : sizeOf f < sizeOf e := by
    cases e with
    | field g =>
      obtain rfl : f = g := by simpa [Entry.fields] using hf
      simp
    | group g =>
      have := List.sizeOf_lt_of_mem (show f ∈ g.candidates from hf)
      rcases g with ⟨_, candidates, _⟩
      simp only at this
      simp only [Entry.group.sizeOf_spec, Group.mk.sizeOf_spec]
      omega
  have hnode : sizeOf e < sizeOf n := by
    have := List.sizeOf_lt_of_mem he
    rcases n with ⟨_, entries, _, _, _, _, _, _⟩
    simp only at this
    simp only [Node.mk.sizeOf_spec]
    omega
  omega

/-- What holds at a node when it holds at the nodes right below it holds at every node. -/
theorem below_induction {P : Node → Prop}
    (h : ∀ n : Node, (∀ f ∈ n.fields, ∀ m, f.child.node? = some m → P m) → P n) (n : Node) : P n :=
  h n fun _ hf m hm =>
    have := sizeOf_child hf hm
    below_induction h m
termination_by sizeOf n

/-- The names of a node are pairwise distinct, and the candidates of a group have its name. -/
structure IsProper (n : Node) : Prop where
  nodup : n.names.Nodup
  name_of_mem : ∀ e ∈ n.entries, ∀ f ∈ e.fields, f.name = e.name

/-- Every node of the schema is proper. -/
def WellFormed (n : Node) : Prop :=
  ∀ m, n.Spans m → m.IsProper

theorem WellFormed.proper {n : Node} (h : n.WellFormed) : n.IsProper :=
  h n (.self n)

theorem WellFormed.child {n m : Node} {f : Field} (h : n.WellFormed) (hf : f ∈ n.fields)
    (hm : f.child.node? = some m) : m.WellFormed :=
  fun k hk => h k (.child hf hm hk)

/-- An entry of a proper node is told by its name. -/
theorem IsProper.entry_eq {n : Node} (h : n.IsProper) {e e' : Entry} (he : e ∈ n.entries)
    (he' : e' ∈ n.entries) (hname : e.name = e'.name) : e = e' :=
  List.inj_on_of_nodup_map h.nodup he he' hname

end Node

end Intake.Schema
