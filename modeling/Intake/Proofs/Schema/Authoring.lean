import Intake.Proofs.Run
import Intake.Proofs.Schema.Nodes
import Intake.Schema.Authoring

/-!
# Authored schemas are well-formed

Authoring answers with well-formed nodes only (`NodeDraft.author_wellFormed`): the names of the
entries are compared before the node is made, a field keeps the name of the group it is a candidate
of, and the nodes below a field are authored themselves.

A draft is authored by functions for nodes, entries, candidates and fields that call each other, and
what is known of their answers is proved along the same recursion: entries are sound
(`Entry.IsSound`), candidates have the name of their group, and nodes are well-formed.

* `nodup_of_checkDistinct`: names that pass the comparison are distinct;
* `sound_of_toField`, `sound_of_groupOf`: what is made of one field and of one group, which is
  taken apart in `groupOf_runs`;
* `wellFormed_of_toNode`: what is made of sound entries.
-/

namespace Intake.Schema

/-! ### Distinct names -/

theorem countP_text (names : List String) (x : String) :
    (names.map Value.text).countP (Value.text x).equals = names.count x := by
  rw [List.countP_map, List.count]
  refine List.countP_congr fun y _ => ?_
  show (x == y) = true ↔ (y == x) = true
  rw [beq_iff_eq, beq_iff_eq, eq_comm]

/-- Names without duplicates are distinct. -/
theorem nodup_of_duplicatesOf {names : List String} (h : duplicatesOf (names.map .text) = []) :
    names.Nodup := by
  rw [List.nodup_iff_count_le_one]
  intro x
  -- A name that occurs twice would be among the duplicates.
  by_contra hcount
  have hx : x ∈ names := List.count_pos_iff.1 (by omega)
  rw [duplicatesOf, ← List.length_eq_zero_iff, List.length_mergeSort, List.length_eq_zero_iff] at h
  have hmem : Value.text x ∈ (names.map Value.text).filter fun v =>
      decide (1 < (names.map Value.text).countP v.equals) := by
    refine List.mem_filter.2 ⟨List.mem_map_of_mem hx, decide_eq_true ?_⟩
    rw [countP_text]
    omega
  obtain ⟨y, rest, hcons⟩ := List.exists_cons_of_ne_nil (List.ne_nil_of_mem hmem)
  rw [hcons, List.eraseDupsBy_cons] at h
  cases h

/-- Names that pass the comparison are distinct. -/
theorem nodup_of_checkDistinct {schema : String} {names : List String}
    (h : checkDistinct schema (names.map .text) = .ok ()) : names.Nodup := by
  rw [checkDistinct] at h
  split at h
  · cases h
  split at h
  · next hnone => exact nodup_of_duplicatesOf hnone
  · cases h

/-! ### The parts of an authored node -/

/-- The node below the field is well-formed, if there is one. -/
def Field.IsSound (f : Field) : Prop :=
  ∀ m, f.child.node? = some m → m.WellFormed

/-- The fields of the entry have its name, and well-formed nodes below them. -/
def Entry.IsSound (e : Entry) : Prop :=
  ∀ f ∈ e.fields, f.name = e.name ∧ f.IsSound

/-- The field or the node of the candidate is sound. -/
def Candidate.IsSound : Candidate → Prop
  | field f => f.IsSound
  | node n => n.WellFormed
  | inert _ => True

/-- The item is a sound entry, or another value. -/
def Item.IsSound : Item → Prop
  | .ok e => e.IsSound
  | .error _ => True

/-- A node of sound entries with distinct names is well-formed. -/
theorem Node.wellFormed_of_entries {n : Node} (hnodup : n.names.Nodup)
    (h : ∀ e ∈ n.entries, e.IsSound) : n.WellFormed := by
  refine Node.forall_spans_iff.2 ⟨⟨hnodup, fun e he f hf => (h e he f hf).1⟩, fun f hf m hm => ?_⟩
  obtain ⟨e, he, hf⟩ := List.mem_flatMap.1 hf
  exact (h e he f hf).2 m hm

/-- A field has one of the nodes below it that it is given. -/
theorem sound_of_toField {d : FieldDraft} {single many : Option Node} {f : Field} {j k : Journal}
    (h : (d.toField single many).start j = (.ok f, k))
    (hsingle : ∀ m, single = some m → m.WellFormed) (hmany : ∀ m, many = some m → m.WellFormed) :
    f.IsSound := by
  simp only [FieldDraft.toField, Run.start_bind_eq_ok, Run.start_pure] at h
  obtain ⟨name, _, -, child, _, hchild, _, _, -, _, _, -, _, _, -, _, _, -, heq⟩ := h
  cases heq
  intro m hm
  -- Two nodes below one field are refused.
  rcases single with _ | n <;> rcases many with _ | n' <;> cases hchild
  · cases hm
  · exact hmany m hm
  · exact hsingle m hm

/-- A candidate becomes a sound field with the name of the group. -/
theorem sound_of_toField_candidate {group : String} {c : Candidate} (hc : c.IsSound) {f : Field}
    {j k : Journal} (h : (c.toField group).start j = (.ok f, k)) :
    f.name = group ∧ f.IsSound := by
  cases c with
  | field g =>
    rw [Candidate.toField] at h
    split at h
    · next hname =>
      cases h
      exact ⟨eq_of_beq hname, hc⟩
    · cases h
  | node n =>
    cases h
    refine ⟨rfl, fun m hm => ?_⟩
    obtain rfl : n = m := Option.some_inj.1 hm
    exact hc
  | inert v => cases h

/-- A group is made of a name, of candidates, and of a field for each of them. -/
theorem groupOf_runs {name : Value} {cs : List Candidate} {enforce : Option Bool} {g : Group}
    {j k : Journal} (h : (groupOf name cs enforce).start j = (.ok g, k)) :
    (∃ i l, (entryName name).start i = (.ok g.name, l)) ∧ cs ≠ [] ∧
      List.Forall₂ (fun c f => ∃ i l, (Candidate.toField g.name c).start i = (.ok f, l)) cs
        g.candidates := by
  simp only [groupOf, Run.start_bind_eq_ok] at h
  obtain ⟨_, _, hname, h⟩ := h
  split at h
  · simp only [Run.start_bind_eq_ok, Run.start_throw] at h
    obtain ⟨_, _, h, -⟩ := h
    cases h
  · next hne =>
    simp only [Run.start_bind_eq_ok, Run.start_pure] at h
    obtain ⟨fs, _, hfs, heq⟩ := h
    cases heq
    refine ⟨⟨_, _, hname⟩, fun hnil => hne ?_, Run.forall₂_of_mapM hfs⟩
    rw [hnil]
    rfl

/-- A group is made of sound candidates of its name. -/
theorem sound_of_groupOf {name : Value} {cs : List Candidate} (hcs : ∀ c ∈ cs, c.IsSound)
    {enforce : Option Bool} {g : Group} {j k : Journal}
    (h : (groupOf name cs enforce).start j = (.ok g, k)) : (Entry.group g).IsSound := by
  intro f hf
  obtain ⟨c, hc, _, _, hrun⟩ := Run.exists_left (groupOf_runs h).2.2 f hf
  exact sound_of_toField_candidate (hcs c hc) hrun

/-- Where all items are taken as entries, all of them are. -/
theorem items_of_entriesOf {schema : String} {items : List Item} {es : List Entry} {j k : Journal}
    (h : (entriesOf schema items).start j = (.ok es, k)) : items = es.map .ok := by
  induction items generalizing es j with
  | nil =>
    cases h
    rfl
  | cons item rest ih =>
    rcases item with v | e
    · cases h
    · simp only [entriesOf, Run.start_bind_eq_ok, Run.start_pure] at h
      obtain ⟨es', _, hrest, heq⟩ := h
      cases heq
      rw [ih hrest, List.map_cons]

theorem mapM_itemName (es : List Entry) :
    (es.map Except.ok : List Item).mapM itemName = .ok (es.map fun e => .text e.name) := by
  induction es with
  | nil => rfl
  | cons e rest ih =>
    rw [List.map_cons, List.mapM_cons, ih]
    rfl

/-- A node made of sound entries is well-formed, as their names have been compared. -/
theorem wellFormed_of_toNode {d : NodeDraft} {items : List Item}
    (hitems : ∀ item ∈ items, item.IsSound) {n : Node} {j k : Journal}
    (h : (d.toNode items).start j = (.ok n, k)) : n.WellFormed := by
  simp only [NodeDraft.toNode, Run.start_bind_eq_ok, Run.start_pure] at h
  obtain ⟨names, _, hnames, _, _, hdistinct, es, _, hes, heq⟩ := h
  cases heq
  -- Only entries are left, so that the names compared are those the node declares.
  obtain rfl := items_of_entriesOf hes
  have hnames := (Run.start_ofExcept_eq_ok.1 hnames).1
  rw [mapM_itemName] at hnames
  cases hnames
  refine Node.wellFormed_of_entries ?_ fun e he => hitems _ (List.mem_map_of_mem he)
  have hcheck := (Run.start_ofExcept_eq_ok.1 hdistinct).1
  rw [← Function.comp_def, ← List.map_map] at hcheck
  exact nodup_of_checkDistinct hcheck

/-! ### Authoring -/

mutual
/-- An authored node is well-formed. -/
theorem NodeDraft.author_wellFormed (d : NodeDraft) {n : Node} {j k : Journal}
    (h : d.author.start j = (.ok n, k)) : n.WellFormed := by
  rcases d with ⟨_, entries, _, _, _, _, _, _⟩
  simp only [NodeDraft.author, Run.start_bind_eq_ok] at h
  obtain ⟨items, _, hitems, h⟩ := h
  exact wellFormed_of_toNode (sound_of_authorAll entries hitems) h
termination_by structural d

theorem sound_of_authorAll (ds : List EntryDraft) {items : List Item} {j k : Journal}
    (h : (authorAll ds).start j = (.ok items, k)) : ∀ item ∈ items, item.IsSound := by
  rcases ds with _ | ⟨d, rest⟩
  · cases h
    exact fun item hitem => absurd hitem List.not_mem_nil
  · simp only [authorAll, Run.start_bind_eq_ok, Run.start_pure] at h
    obtain ⟨item, _, hitem, items, _, hitems, heq⟩ := h
    cases heq
    exact List.forall_mem_cons.2 ⟨d.sound_of_author hitem, sound_of_authorAll rest hitems⟩
termination_by structural ds

/-- The entry that is authored is sound, by structural recursion on the draft. -/
theorem EntryDraft.sound_of_author (d : EntryDraft) {item : Item} {j k : Journal}
    (h : d.author.start j = (.ok item, k)) : item.IsSound := by
  rcases d with f | ⟨name, candidates, enforce⟩ | v
  · simp only [EntryDraft.author, Run.start_bind_eq_ok, Run.start_pure] at h
    obtain ⟨g, _, hg, heq⟩ := h
    cases heq
    intro g' hg'
    obtain rfl := List.mem_singleton.1 hg'
    exact ⟨rfl, f.sound_of_author hg⟩
  · simp only [EntryDraft.author, Run.start_bind_eq_ok, Run.start_pure] at h
    obtain ⟨cs, _, hcs, g, _, hg, heq⟩ := h
    cases heq
    exact sound_of_groupOf (sound_of_authorCandidates candidates hcs) hg
  · cases h
    trivial
termination_by structural d

theorem sound_of_authorCandidates (ds : List CandidateDraft) {cs : List Candidate} {j k : Journal}
    (h : (authorCandidates ds).start j = (.ok cs, k)) : ∀ c ∈ cs, c.IsSound := by
  rcases ds with _ | ⟨d, rest⟩
  · cases h
    exact fun c hc => absurd hc List.not_mem_nil
  · simp only [authorCandidates, Run.start_bind_eq_ok, Run.start_pure] at h
    obtain ⟨c, _, hc, cs, _, hcs, heq⟩ := h
    cases heq
    exact List.forall_mem_cons.2 ⟨d.sound_of_author hc, sound_of_authorCandidates rest hcs⟩
termination_by structural ds

theorem CandidateDraft.sound_of_author (d : CandidateDraft) {c : Candidate} {j k : Journal}
    (h : d.author.start j = (.ok c, k)) : c.IsSound := by
  rcases d with f | n | v
  · simp only [CandidateDraft.author, Run.start_bind_eq_ok, Run.start_pure] at h
    obtain ⟨g, _, hg, heq⟩ := h
    cases heq
    exact f.sound_of_author hg
  · simp only [CandidateDraft.author, Run.start_bind_eq_ok, Run.start_pure] at h
    obtain ⟨m, _, hm, heq⟩ := h
    cases heq
    exact n.author_wellFormed hm
  · cases h
    trivial
termination_by structural d

theorem FieldDraft.sound_of_author (d : FieldDraft) {f : Field} {j k : Journal}
    (h : d.author.start j = (.ok f, k)) : f.IsSound := by
  rcases d with ⟨_, _, _, _, _, _, _, _, _, _, nested, nestedList⟩
  simp only [FieldDraft.author, Run.start_bind_eq_ok] at h
  obtain ⟨single, _, hsingle, many, _, hmany, h⟩ := h
  exact sound_of_toField h (wellFormed_of_authorBelow nested hsingle)
    (wellFormed_of_authorBelow nestedList hmany)
termination_by structural d

theorem wellFormed_of_authorBelow (d : Option NodeDraft) {n? : Option Node} {j k : Journal}
    (h : (authorBelow d).start j = (.ok n?, k)) : ∀ m, n? = some m → m.WellFormed := by
  rcases d with _ | d
  · cases h
    exact fun m hm => absurd hm (Option.some_ne_none m).symm
  · simp only [authorBelow, Run.start_bind_eq_ok, Run.start_pure] at h
    obtain ⟨n, _, hn, heq⟩ := h
    cases heq
    intro m hm
    obtain rfl := Option.some_inj.1 hm
    exact d.author_wellFormed hn
termination_by structural d
end

end Intake.Schema
