import Intake.Proofs.Run
import Intake.Proofs.Schema.Order

/-!
# Schemas in another order

A schema may declare the entries of its nodes in another order (`Node.Reordered`), at its root and
anywhere below. The order of the candidates in a group is kept, as the first one without failures
decides.

A node is reordered by a permutation of its entries, which are then related one by one
(`Entry.Reordered`); what is said of nodes, entries, fields and what stands below them is defined
together. A reordered node has the same names (`Node.Reordered.names_perm`), requires the same of
them, has entries with the same sources (`Entry.Reordered.mem_sources`), and its entries wait for
the same ones, so that it is free of cycles where the node is (`Node.Reordered.isAcyclic`).
-/

namespace Intake.Schema

mutual
/-- The entries of the node are declared in another order, and so may be those of nodes below. -/
inductive Node.Reordered : Node → Node → Prop
  | mk {n : Node} {es es' : List Entry} : List.Forall₂ Entry.Reordered n.entries es → es.Perm es' →
    Node.Reordered n { n with entries := es' }

/-- The entries differ in the order of nodes below. -/
inductive Entry.Reordered : Entry → Entry → Prop
  | field {f f' : Field} : Field.Reordered f f' → Entry.Reordered (.field f) (.field f')
  | group {g : Group} {fs : List Field} : List.Forall₂ Field.Reordered g.candidates fs →
    Entry.Reordered (.group g) (.group { g with candidates := fs })

/-- The fields differ in the order of the node below. -/
inductive Field.Reordered : Field → Field → Prop
  | mk {f : Field} {c : Child} : Child.Reordered f.child c → Field.Reordered f (f.withChild c)

/-- What stands below differs in the order of its node. -/
inductive Child.Reordered : Child → Child → Prop
  | none : Child.Reordered .none .none
  | single {n m : Node} : Node.Reordered n m → Child.Reordered (.single n) (.single m)
  | many {n m : Node} : Node.Reordered n m → Child.Reordered (.many n) (.many m)
end

/-! ### Entries in another order -/

namespace Entry.Reordered

variable {e e' : Entry}

theorem name_eq (h : e.Reordered e') : e'.name = e.name := by
  rcases h with ⟨⟨_⟩⟩ | ⟨_⟩ <;> rfl

theorem default_eq (h : e.Reordered e') : e'.default = e.default := by
  rcases h with ⟨⟨_⟩⟩ | ⟨_⟩ <;> rfl

theorem isRequired_eq (h : e.Reordered e') (enforced : Bool) :
    e'.isRequired enforced = e.isRequired enforced := by
  rcases h with ⟨⟨_⟩⟩ | ⟨_⟩ <;> rfl

/-- The candidates of a reordered entry are reordered below, in the same order. -/
theorem fields (h : e.Reordered e') : List.Forall₂ Field.Reordered e.fields e'.fields := by
  rcases h with h | h
  · exact .cons h .nil
  · exact h

end Entry.Reordered

/-! ### Sources in another order -/

/-- A node in another order copies from the same names at the root. -/
theorem Node.Reordered.mem_anchoredSources {n n' : Node} (h : n.Reordered n') (x : String) :
    x ∈ n.anchoredSources ↔ x ∈ n'.anchoredSources := by
  refine @Node.Reordered.rec
    (fun n n' _ => x ∈ n.anchoredSources ↔ x ∈ n'.anchoredSources)
    (fun e e' _ => x ∈ e.anchoredSources ↔ x ∈ e'.anchoredSources)
    (fun f f' _ => x ∈ f.anchoredSources ↔ x ∈ f'.anchoredSources)
    (fun c c' _ => x ∈ c.anchoredSources ↔ x ∈ c'.anchoredSources)
    (fun es es' _ => x ∈ es.flatMap Entry.anchoredSources ↔ x ∈ es'.flatMap Entry.anchoredSources)
    (fun fs fs' _ => x ∈ fs.flatMap Field.anchoredSources ↔ x ∈ fs'.flatMap Field.anchoredSources)
    ?node ?field ?group ?mk .rfl ?single ?many .rfl ?entries .rfl ?fields n n' h
  case node =>
    intro n es es' _ hperm ih
    rw [Node.anchoredSources_entries, Node.anchoredSources_entries, ih,
      (hperm.flatMap_right _).mem_iff]
  case field => exact fun _ ih => ih
  case group =>
    intro g fs _ ih
    rwa [Entry.anchoredSources_eq, Entry.anchoredSources_eq]
  case mk =>
    intro f c _ ih
    rw [Field.anchoredSources_eq, Field.anchoredSources_eq, List.mem_append, List.mem_append, ih]
    rfl
  case single => exact fun _ ih => ih
  case many => exact fun _ ih => ih
  case entries =>
    intro e e' es es' _ _ ih ihs
    rw [List.flatMap_cons, List.flatMap_cons, List.mem_append, List.mem_append, ih, ihs]
  case fields =>
    intro f f' fs fs' _ _ ih ihs
    rw [List.flatMap_cons, List.flatMap_cons, List.mem_append, List.mem_append, ih, ihs]

theorem Child.Reordered.mem_anchoredSources {c c' : Child} (h : c.Reordered c') (x : String) :
    x ∈ c.anchoredSources ↔ x ∈ c'.anchoredSources := by
  cases h with
  | none => exact .rfl
  | single h => exact h.mem_anchoredSources x
  | many h => exact h.mem_anchoredSources x

/-- An entry in another order copies from the same names. -/
theorem Entry.Reordered.mem_sources {e e' : Entry} (h : e.Reordered e') (atRoot : Bool)
    (x : String) : x ∈ (e.slot atRoot).sources ↔ x ∈ (e'.slot atRoot).sources := by
  have hfields := h.fields
  rw [Entry.slot, Entry.slot]
  dsimp only
  generalize e.fields = fs at hfields ⊢
  generalize e'.fields = fs' at hfields ⊢
  induction hfields with
  | nil => exact .rfl
  | @cons f _ _ _ hf _ ih =>
    rcases hf with @⟨f, c, hchild⟩
    have hown : x ∈ f.sources atRoot ↔ x ∈ (f.withChild c).sources atRoot := by
      rw [Field.sources, Field.sources]
      rw [List.mem_append, List.mem_append]
      refine or_congr .rfl ?_
      split
      · exact hchild.mem_anchoredSources x
      · exact .rfl
    rw [List.flatMap_cons, List.flatMap_cons, List.mem_append, List.mem_append]
    exact or_congr hown ih

/-! ### Nodes in another order -/

theorem names_eq_of_forall₂ {es es' : List Entry} (h : List.Forall₂ Entry.Reordered es es') :
    es.map Entry.name = es'.map Entry.name := by
  induction h with
  | nil => rfl
  | cons he _ ih => rw [List.map_cons, List.map_cons, he.name_eq, ih]

theorem required_eq_of_forall₂ {es es' : List Entry} (h : List.Forall₂ Entry.Reordered es es')
    {enforced : Bool} : (es.filter (Entry.isRequired enforced)).map Entry.name =
      (es'.filter (Entry.isRequired enforced)).map Entry.name := by
  induction h with
  | nil => rfl
  | cons he _ ih =>
    rw [List.filter_cons, List.filter_cons, he.isRequired_eq]
    split
    · rw [List.map_cons, List.map_cons, he.name_eq, ih]
    · exact ih

/-- The order of an entry may be kept, if that of the nodes below it may. -/
theorem Entry.Reordered.of_children {e : Entry}
    (h : ∀ f ∈ e.fields, f.child.Reordered f.child) : e.Reordered e := by
  have hfield : ∀ f ∈ e.fields, f.Reordered f := by
    intro f hf
    have hmk : f.Reordered (f.withChild f.child) := .mk (h f hf)
    rwa [Field.withChild_child] at hmk
  cases e with
  | field f => exact .field (hfield f List.mem_cons_self)
  | group g =>
    have hgroup := Entry.Reordered.group (List.forall₂_same.2 hfield)
    cases g
    exact hgroup

/-- The order of a node may be kept. -/
theorem Node.reordered_refl (n : Node) : n.Reordered n := by
  induction n using Node.below_induction with
  | h n ih =>
    have hentries : List.Forall₂ Entry.Reordered n.entries n.entries := by
      refine List.forall₂_same.2 fun e he => .of_children fun f hf => ?_
      have ih := ih f (Node.mem_fields he hf)
      generalize f.child = c at ih
      cases c with
      | none => exact .none
      | single m => exact .single (ih m rfl)
      | many m => exact .many (ih m rfl)
    have hnode := Node.Reordered.mk hentries (.refl _)
    cases n
    exact hnode

theorem Entry.reordered_refl (e : Entry) : e.Reordered e := by
  refine .of_children fun f _ => ?_
  cases f.child with
  | none => exact .none
  | single m => exact .single m.reordered_refl
  | many m => exact .many m.reordered_refl

namespace Node.Reordered

variable {n n' : Node}

/-- A reordered node has the options of the node. -/
theorem eq_withEntries (h : n.Reordered n') : n' = { n with entries := n'.entries } := by
  rcases h with ⟨-, -⟩
  rfl

theorem exists_entry (h : n.Reordered n') {e' : Entry} (he' : e' ∈ n'.entries) :
    ∃ e ∈ n.entries, e.Reordered e' := by
  rcases h with ⟨hentries, hperm⟩
  exact Run.exists_left hentries e' (hperm.mem_iff.2 he')

theorem exists_entry' (h : n.Reordered n') {e : Entry} (he : e ∈ n.entries) :
    ∃ e' ∈ n'.entries, e.Reordered e' := by
  rcases h with ⟨hentries, hperm⟩
  obtain ⟨e', he', hee'⟩ := Run.exists_right hentries e he
  exact ⟨e', hperm.mem_iff.1 he', hee'⟩

/-- A reordered node has the same names. -/
theorem names_perm (h : n.Reordered n') : n.names.Perm n'.names := by
  rcases h with @⟨n, es, es', hentries, hperm⟩
  rw [names, names_eq_of_forall₂ hentries]
  exact hperm.map _

/-- A reordered node requires the same names. -/
theorem required_perm (h : n.Reordered n') : n.required.Perm n'.required := by
  rcases h with @⟨n, es, es', hentries, hperm⟩
  rw [required, required_eq_of_forall₂ hentries]
  exact (hperm.filter _).map _

/-- A reordered node is proper, as its names are those of the node. -/
theorem isProper (h : n.Reordered n') (hn : n.IsProper) : n'.IsProper where
  nodup := h.names_perm.nodup_iff.1 hn.nodup
  name_of_mem := by
    intro e' he' f' hf'
    obtain ⟨e, he, hee'⟩ := h.exists_entry he'
    obtain ⟨f, hf, ⟨_⟩⟩ := Run.exists_left hee'.fields f' hf'
    rw [hee'.name_eq]
    exact hn.name_of_mem e he f hf

/-- An entry of a reordered node waits for what it waits for in the node. -/
theorem isAcyclic (h : n.Reordered n') {atRoot : Bool} (hn : n.IsAcyclic atRoot) :
    n'.IsAcyclic atRoot := by
  have hslot : ∀ s' ∈ n'.entries.map (Entry.slot atRoot),
      ∃ s ∈ n.entries.map (Entry.slot atRoot), s.name = s'.name ∧
        ∀ x, x ∈ s'.sources → x ∈ s.sources := by
    intro s' hs'
    obtain ⟨e', he', rfl⟩ := List.mem_map.1 hs'
    obtain ⟨e, he, hee'⟩ := h.exists_entry he'
    exact ⟨e.slot atRoot, List.mem_map_of_mem he, hee'.name_eq.symm,
      fun x => (hee'.mem_sources atRoot x).2⟩
  refine Slot.Acyclic.mono hn fun a b hwaits => ?_
  obtain ⟨s', hs', rfl, hb, hne, t', ht', rfl⟩ := hwaits
  obtain ⟨s, hs, hname, hsources⟩ := hslot s' hs'
  obtain ⟨t, ht, hname', -⟩ := hslot t' ht'
  exact ⟨s, hs, hname, hsources _ hb, hne, t, ht, hname'⟩

end Node.Reordered

end Intake.Schema
