import Intake.Build.Node
import Intake.Proofs.Check.Format
import Intake.Proofs.Schema.Authoring
import Intake.Proofs.Tree

/-!
# What authoring admits

A node below an authored node was authored itself (`Node.IsAuthored.spans`), so that what one step
of authoring checks holds at every depth (`author_admitted`): names are distinct and admissible,
groups have candidates, and values under the declared names can be handed to a record.

Authoring is taken apart from the outside: `NodeDraft.exists_entries` for a node,
`EntryDraft.author_cases` for an entry, `FieldDraft.author_cases` for a field. Each says what was
checked before there was an answer.

Names are told by a pattern between the anchors of a line (`isEntryName_iff_matchesStart`). One line
break may therefore end a name (`isEntryName_iff`). Of the two names that the making of a record
takes for itself, one is no name of an entry, but the other one is (`takenName`).
-/

namespace Intake.Schema

open Text Pattern Build

/-! ### Names -/

/-- The pattern of names. -/
def namePattern : String := "^[A-Za-z][A-Za-z0-9_]*$"

/-- What stands between the anchors in the pattern of names. -/
def nameBody : List Pattern.Node :=
  [.set [.between 'A' 'Z', .between 'a' 'z'] false,
   .repeated .greedy 0 none
    [.set [.between 'A' 'Z', .between 'a' 'z', .between '0' '9', .char '_'] false]]

/-- A name in full: a letter, and then letters, digits and underscores. -/
inductive IsIdentifier : List Char → Prop
  | intro {c : Char} {rest : List Char} : isLatinLetter c = true →
    (∀ d ∈ rest, isNameTail d = true) → IsIdentifier (c :: rest)

/-- An entry may have the name: it is written like one, but for a line break that may end it, and
    records do not use it themselves. -/
structure IsAdmissible (name : String) : Prop where
  written : ∃ w, IsIdentifier w ∧ (name.toList = w ∨ name.toList = w ++ ['\n'])
  outside : ¬ "model_".toList <+: name.toList
  unreserved : name ∉ reservedNames

variable {w s : List Char}

theorem read_namePattern :
    Regex.read namePattern.toList =
      .ok ⟨.anchor .lineStart :: nameBody ++ [.anchor .lineEnd], [none], .initial⟩ := by
  decide +kernel

theorem setMatches_nameTail :
    setMatches .initial [.between 'A' 'Z', .between 'a' 'z', .between '0' '9', .char '_'] false =
      isNameTail := by
  funext c
  simp [setMatches, isNameTail, isLatinLetter, isLatinDigit, Bool.or_assoc, Bool.or_comm,
    Bool.or_left_comm]

theorem mem_nameBody : w ∈ sequenceLanguage .initial nameBody ↔ IsIdentifier w := by
  simp only [nameBody, mem_sequenceLanguage_set, mem_sequenceLanguage_repeated,
    mem_sequenceLanguage_nil, Check.setMatches_capitalsFirst, setMatches_nameTail]
  constructor
  · rintro ⟨c, _, rfl, hc, rest, _, rfl, -, -, hrest, rfl⟩
    rw [List.append_nil]
    exact .intro hc hrest
  · rintro @⟨c, rest, hc, hrest⟩
    exact ⟨c, rest, rfl, hc, rest, [], (List.append_nil rest).symm, Nat.zero_le _, nofun, hrest, rfl⟩

theorem IsIdentifier.break_notMem (h : IsIdentifier w) : '\n' ∉ w := by
  obtain ⟨hc, hrest⟩ := h
  rw [List.mem_cons, not_or]
  exact ⟨fun h => absurd (h ▸ hc) (by decide), fun h => absurd (hrest _ h) (by decide)⟩

/-- A name is written in full, and one line break may end it. -/
theorem isEntryName_iff :
    isEntryName s = true ↔ ∃ w, IsIdentifier w ∧ (s = w ∨ s = w ++ ['\n']) := by
  rw [← Check.dropFinalBreak_iff fun w hw => hw.break_notMem, isEntryName]
  cases dropFinalBreak s with
  | nil => exact iff_of_false Bool.false_ne_true nofun
  | cons c rest =>
    rw [Bool.and_eq_true, List.all_eq_true]
    exact ⟨fun ⟨hc, hrest⟩ => .intro hc hrest, fun | .intro hc hrest => ⟨hc, hrest⟩⟩

/-- The names that are accepted are those that the pattern matches. -/
theorem isEntryName_iff_matchesStart {r : Regex} (h : Regex.read namePattern.toList = .ok r) :
    isEntryName s = true ↔ r.matchesStart s = true := by
  rw [read_namePattern] at h
  cases h
  rw [isEntryName_iff, matchesStart_enclosed_iff (by decide) rfl]
  simp only [mem_nameBody]

theorem isReserved_eq_false_iff {name : String} :
    isReserved name = false ↔ ¬ "model_".toList <+: name.toList ∧ name ∉ reservedNames := by
  rw [isReserved, Bool.or_eq_false_iff, ← Bool.not_eq_true, List.isPrefixOf_iff_prefix,
    ← Bool.not_eq_true, List.contains_iff_mem]
  rfl

/-- A value names an entry exactly if it is an admissible text. -/
theorem entryName_eq_ok {v : Value} {name : String} {j k : Journal} :
    (entryName v).start j = (.ok name, k) ↔ v = .text name ∧ IsAdmissible name ∧ j = k := by
  constructor
  · intro h
    rw [entryName.eq_def] at h
    split at h
    · next s =>
      split at h
      · cases h
      split at h
      · cases h
      · next hname hfree =>
        cases h
        obtain ⟨houtside, hunreserved⟩ := isReserved_eq_false_iff.1 (Bool.eq_false_iff.2 hfree)
        exact ⟨rfl, ⟨isEntryName_iff.1 (by simpa using hname), houtside, hunreserved⟩, rfl⟩
    · cases h
  · rintro ⟨rfl, ⟨hwritten, houtside, hunreserved⟩, rfl⟩
    rw [entryName]
    rw [isEntryName_iff.2 hwritten, isReserved_eq_false_iff.2 ⟨houtside, hunreserved⟩]
    rfl

/-! ### Authored nodes -/

/-- The node was authored. -/
def Node.IsAuthored (n : Node) : Prop :=
  ∃ (d : NodeDraft) (j k : Journal), d.author.start j = (.ok n, k)

theorem authorAll_eq (ds : List EntryDraft) : authorAll ds = ds.mapM EntryDraft.author := by
  induction ds with
  | nil => rfl
  | cons d rest ih => rw [authorAll, ih, List.mapM_cons]

theorem authorCandidates_eq (ds : List CandidateDraft) :
    authorCandidates ds = ds.mapM CandidateDraft.author := by
  induction ds with
  | nil => rfl
  | cons d rest ih => rw [authorCandidates, ih, List.mapM_cons]

/-- The entries of an authored node come from authored drafts. -/
theorem NodeDraft.exists_entries {d : NodeDraft} {n : Node} {j k : Journal}
    (h : d.author.start j = (.ok n, k)) :
    List.Forall₂ (fun (d : EntryDraft) e => ∃ i l, d.author.start i = (.ok (.ok e), l)) d.entries
      n.entries := by
  rcases d with ⟨_, entries, _, _, _, _, _, _⟩
  simp only [NodeDraft.author, authorAll_eq, Run.start_bind_eq_ok] at h
  obtain ⟨items, _, hitems, h⟩ := h
  simp only [NodeDraft.toNode, Run.start_bind_eq_ok, Run.start_pure] at h
  obtain ⟨_, _, -, _, _, -, es, _, hes, heq⟩ := h
  cases heq
  obtain rfl := items_of_entriesOf hes
  exact List.forall₂_map_right_iff.1 (Run.forall₂_of_mapM hitems)

theorem isAuthored_of_authorBelow {d : Option NodeDraft} {n? : Option Node} {j k : Journal}
    (h : (authorBelow d).start j = (.ok n?, k)) :
    (n? = none ↔ d = none) ∧ ∀ m, n? = some m → m.IsAuthored := by
  cases d with
  | none =>
    cases h
    refine ⟨iff_of_true rfl rfl, ?_⟩
    rintro _ ⟨⟩
  | some d =>
    simp only [authorBelow, Run.start_bind_eq_ok, Run.start_pure] at h
    obtain ⟨n, _, hn, heq⟩ := h
    cases heq
    refine ⟨iff_of_false (Option.some_ne_none _) (Option.some_ne_none _), ?_⟩
    rintro _ ⟨⟩
    exact ⟨d, _, _, hn⟩

/-- What an authored field is: its name is admissible, one node at most was written down below it,
    and the node below it was authored. -/
theorem FieldDraft.author_cases {d : FieldDraft} {f : Field} {j k : Journal}
    (h : d.author.start j = (.ok f, k)) :
    IsAdmissible f.name ∧ (d.nested = none ∨ d.nestedList = none) ∧
      ∀ m, f.child.node? = some m → m.IsAuthored := by
  rcases d with ⟨_, _, _, _, _, _, _, _, _, _, nested, nestedList⟩
  simp only [FieldDraft.author, FieldDraft.toField, Run.start_bind_eq_ok, Run.start_pure] at h
  obtain ⟨single, _, hsingle, many, _, hmany, name, _, hname, child, _, hchild, _, _, -, _, _, -, _,
    _, -, _, _, -, heq⟩ := h
  cases heq
  obtain ⟨hnested, hsingle⟩ := isAuthored_of_authorBelow hsingle
  obtain ⟨hnestedList, hmany⟩ := isAuthored_of_authorBelow hmany
  refine ⟨(entryName_eq_ok.1 hname).2.1, ?_⟩
  rcases single with _ | n <;> rcases many with _ | n' <;> cases hchild
  · exact ⟨.inl (hnested.1 rfl), nofun⟩
  · exact ⟨.inl (hnested.1 rfl), hmany⟩
  · exact ⟨.inr (hnestedList.1 rfl), hsingle⟩

/-- The node below an authored candidate was authored, also where it is the candidate itself. -/
theorem isAuthored_of_toField {d : CandidateDraft} {c : Candidate} {i l : Journal}
    (hd : d.author.start i = (.ok c, l)) {group : String} {f : Field} {j k : Journal}
    (h : (c.toField group).start j = (.ok f, k)) : ∀ m, f.child.node? = some m → m.IsAuthored := by
  rcases d with d | n | v
  · simp only [CandidateDraft.author, Run.start_bind_eq_ok, Run.start_pure] at hd
    obtain ⟨g, _, hg, heq⟩ := hd
    cases heq
    rw [Candidate.toField] at h
    split at h
    · cases h
      exact (d.author_cases hg).2.2
    · cases h
  · simp only [CandidateDraft.author, Run.start_bind_eq_ok, Run.start_pure] at hd
    obtain ⟨n', _, hn, heq⟩ := hd
    cases heq
    cases h
    rintro _ ⟨⟩
    exact ⟨n, _, _, hn⟩
  · cases hd
    cases h

/-- A group has candidates, an admissible name, and a field for each candidate. -/
theorem groupOf_cases {name : Value} {cs : List Candidate} {enforce : Option Bool} {g : Group}
    {j k : Journal} (h : (groupOf name cs enforce).start j = (.ok g, k)) :
    IsAdmissible g.name ∧ cs ≠ [] ∧
      List.Forall₂ (fun c f => ∃ i l, (Candidate.toField g.name c).start i = (.ok f, l)) cs
        g.candidates := by
  obtain ⟨⟨i, l, hname⟩, hne, hfs⟩ := groupOf_runs h
  exact ⟨(entryName_eq_ok.1 hname).2.1, hne, hfs⟩

/-- What an authored entry is: its name is admissible, it has fields, and the nodes below these were
    authored. -/
theorem EntryDraft.author_cases {d : EntryDraft} {e : Entry} {j k : Journal}
    (h : d.author.start j = (.ok (.ok e), k)) :
    IsAdmissible e.name ∧ e.fields ≠ [] ∧
      ∀ f ∈ e.fields, ∀ m, f.child.node? = some m → m.IsAuthored := by
  rcases d with d | ⟨name, candidates, enforce⟩ | v
  · simp only [EntryDraft.author, Run.start_bind_eq_ok, Run.start_pure] at h
    obtain ⟨f, _, hf, heq⟩ := h
    cases heq
    obtain ⟨hname, -, hchild⟩ := d.author_cases hf
    refine ⟨hname, List.cons_ne_nil f [], fun g hg => ?_⟩
    obtain rfl := List.mem_singleton.1 hg
    exact hchild
  · simp only [EntryDraft.author, authorCandidates_eq, Run.start_bind_eq_ok, Run.start_pure] at h
    obtain ⟨cs, _, hcs, g, _, hg, heq⟩ := h
    cases heq
    obtain ⟨hname, hne, hfields⟩ := groupOf_cases hg
    refine ⟨hname, fun hnil => hne ?_, fun f hf m hm => ?_⟩
    · rw [show g.candidates = [] from hnil] at hfields
      exact List.forall₂_nil_right_iff.1 hfields
    · -- The candidate was authored, as a field or as the node below one.
      obtain ⟨c, hc, _, _, htoField⟩ := Run.exists_left hfields f hf
      obtain ⟨d, -, _, _, hd⟩ := Run.exists_left (Run.forall₂_of_mapM hcs) c hc
      exact isAuthored_of_toField hd htoField m hm
  · cases h

/-- The node below a field of an authored node was authored. -/
theorem Node.IsAuthored.child {n m : Node} (h : n.IsAuthored) {f : Field} (hf : f ∈ n.fields)
    (hm : f.child.node? = some m) : m.IsAuthored := by
  obtain ⟨d, _, _, hd⟩ := h
  obtain ⟨e, he, hf⟩ := List.mem_flatMap.1 hf
  obtain ⟨de, -, _, _, hde⟩ := Run.exists_left (d.exists_entries hd) e he
  exact (de.author_cases hde).2.2 f hf m hm

theorem Node.IsAuthored.spans {n m : Node} (h : n.IsAuthored) (hm : n.Spans m) : m.IsAuthored := by
  induction hm with
  | self => exact h
  | child hf hm _ ih => exact ih (h.child hf hm)

/-! ### Drafts -/

/-- The field is written down in the draft of a node, at any depth: as an entry or a candidate of
    the node, in a node that is a candidate itself, or in a node below a field. -/
inductive NodeDraft.Contains : NodeDraft → FieldDraft → Prop
  | field {d : NodeDraft} {f : FieldDraft} : .field f ∈ d.entries → Contains d f
  | candidate {d : NodeDraft} {name : Value} {cs : List CandidateDraft} {enforce : Option Bool}
    {f : FieldDraft} : .group name cs enforce ∈ d.entries → .field f ∈ cs → Contains d f
  | ofCandidate {d m : NodeDraft} {name : Value} {cs : List CandidateDraft} {enforce : Option Bool}
    {f : FieldDraft} :
    .group name cs enforce ∈ d.entries → .node m ∈ cs → Contains m f → Contains d f
  | deeper {d m : NodeDraft} {f g : FieldDraft} :
    Contains d f → f.nested = some m ∨ f.nestedList = some m → Contains m g → Contains d g

/-- The candidates that are written down for a group of an authored node were authored. -/
theorem NodeDraft.exists_candidate {d : NodeDraft} {n : Node} {j k : Journal}
    (h : d.author.start j = (.ok n, k)) {name : Value} {cs : List CandidateDraft}
    {enforce : Option Bool} (hgroup : .group name cs enforce ∈ d.entries) {c : CandidateDraft}
    (hc : c ∈ cs) : ∃ a i l, c.author.start i = (.ok a, l) := by
  obtain ⟨e, -, _, _, he⟩ := Run.exists_right (d.exists_entries h) _ hgroup
  simp only [EntryDraft.author, authorCandidates_eq, Run.start_bind_eq_ok] at he
  obtain ⟨as, _, has, -⟩ := he
  obtain ⟨a, -, i, l, ha⟩ := Run.exists_right (Run.forall₂_of_mapM has) c hc
  exact ⟨a, i, l, ha⟩

theorem FieldDraft.exists_below {d : FieldDraft} {f : Field} {j k : Journal}
    (h : d.author.start j = (.ok f, k)) {m : NodeDraft}
    (hm : d.nested = some m ∨ d.nestedList = some m) : ∃ n i l, m.author.start i = (.ok n, l) := by
  rcases d with ⟨_, _, _, _, _, _, _, _, _, _, nested, nestedList⟩
  simp only [FieldDraft.author, Run.start_bind_eq_ok] at h
  obtain ⟨_, _, hnested, _, _, hnestedList, -⟩ := h
  rcases hm with rfl | rfl
  · simp only [authorBelow, Run.start_bind_eq_ok] at hnested
    obtain ⟨n, _, hn, -⟩ := hnested
    exact ⟨n, _, _, hn⟩
  · simp only [authorBelow, Run.start_bind_eq_ok] at hnestedList
    obtain ⟨n, _, hn, -⟩ := hnestedList
    exact ⟨n, _, _, hn⟩

/-- The fields that are written down in an authored draft were authored. -/
theorem NodeDraft.Contains.author {d : NodeDraft} {f : FieldDraft} (h : d.Contains f) {n : Node}
    {j k : Journal} (hd : d.author.start j = (.ok n, k)) :
    ∃ g i l, f.author.start i = (.ok g, l) := by
  induction h generalizing n j k with
  | field hf =>
    obtain ⟨e, -, _, _, he⟩ := Run.exists_right (exists_entries hd) _ hf
    simp only [EntryDraft.author, Run.start_bind_eq_ok] at he
    obtain ⟨g, _, hg, -⟩ := he
    exact ⟨g, _, _, hg⟩
  | candidate hgroup hf =>
    obtain ⟨_, _, _, hc⟩ := exists_candidate hd hgroup hf
    simp only [CandidateDraft.author, Run.start_bind_eq_ok] at hc
    obtain ⟨g, _, hg, -⟩ := hc
    exact ⟨g, _, _, hg⟩
  | ofCandidate hgroup hm _ ih =>
    obtain ⟨_, _, _, hc⟩ := exists_candidate hd hgroup hm
    simp only [CandidateDraft.author, Run.start_bind_eq_ok] at hc
    obtain ⟨m, _, hm, -⟩ := hc
    exact ih hm
  | deeper _ hm _ ihf ih =>
    obtain ⟨g, _, _, hg⟩ := ihf hd
    obtain ⟨_, _, _, hm⟩ := FieldDraft.exists_below hg hm
    exact ih hm

/-! ### Admitted nodes -/

/-- The names that the making of a record takes for itself, besides those of the values. -/
def recordParameters : List String :=
  [takenName, "_fields_set"]

/-- What holds at every authored node. -/
structure Node.IsAdmitted (n : Node) : Prop where
  distinct : n.names.Nodup
  named : ∀ x ∈ n.names, IsAdmissible x
  candidates : ∀ e ∈ n.entries, e.fields ≠ [] ∧ ∀ f ∈ e.fields, f.name = e.name
  ordered : n.required.Sublist n.names
  required : ∀ e ∈ n.entries,
    e.name ∈ n.required ↔ e.enforce.getD n.enforce = true ∧ e.default = none
  parameters : ∀ x ∈ n.names, x ∈ recordParameters → x = takenName
  record : ∀ values : List (Value × Value), (∀ e ∈ values, ∃ x ∈ n.names, e.1 = .text x) →
    ((∃ fields, recordOf n values = .ok (.record n.name fields) ∧ fields.map Prod.fst = n.names) ↔
      ∀ e ∈ values, e.1 ≠ .text takenName)

theorem required_sublist (n : Node) : n.required.Sublist n.names :=
  List.filter_sublist.map Entry.name

/-- Where names are distinct, a required name tells the entry that is required. -/
theorem mem_required_iff {n : Node} (hn : n.names.Nodup) {e : Entry} (he : e ∈ n.entries) :
    e.name ∈ n.required ↔ e.enforce.getD n.enforce = true ∧ e.default = none := by
  have hrequired : e.isRequired n.enforce = true ↔
      e.enforce.getD n.enforce = true ∧ e.default = none := by
    rw [Entry.isRequired, Bool.and_eq_true, Option.isNone_iff_eq_none]
  rw [← hrequired, Node.required, List.mem_map]
  constructor
  · rintro ⟨e', he', hname⟩
    obtain ⟨he', hrequired'⟩ := List.mem_filter.1 he'
    rwa [← List.inj_on_of_nodup_map hn he' he hname]
  · exact fun h => ⟨e, List.mem_filter.2 ⟨he, h⟩, rfl⟩

/-- Values under declared names make a record, unless one stands under the name that is taken. -/
theorem recordOf_eq_ok_iff {n : Node} {values : List (Value × Value)}
    (hvalues : ∀ e ∈ values, ∃ x ∈ n.names, e.1 = .text x) :
    (∃ fields, recordOf n values = .ok (.record n.name fields) ∧ fields.map Prod.fst = n.names) ↔
      ∀ e ∈ values, e.1 ≠ .text takenName := by
  have hfind : (Value.findText? takenName values).isSome = true ↔
      ∃ e ∈ values, e.1 = .text takenName := by
    rw [Value.findText?, Value.find?, Option.isSome_map, List.find?_isSome]
    refine exists_congr fun e => and_congr_right fun he => ?_
    obtain ⟨x, -, hx⟩ := hvalues e he
    rw [hx, Value.equals_text, beq_iff_eq, Value.text.injEq]
  rw [recordOf]
  split
  · next htaken =>
    rw [Bool.and_eq_true, hfind] at htaken
    obtain ⟨-, e, he, heq⟩ := htaken
    refine iff_of_false ?_ fun h => h e he heq
    rintro ⟨_, ⟨⟩, -⟩
  · next hfree =>
    refine iff_of_true ⟨_, rfl, ?_⟩ fun e he heq => hfree ?_
    · rw [List.map_map, Node.defaults, List.map_map]
      rfl
    · obtain ⟨x, hx, hname⟩ := hvalues e he
      rw [heq] at hname
      cases hname
      rw [Bool.and_eq_true]
      exact ⟨List.contains_iff_mem.2 hx, hfind.2 ⟨e, he, heq⟩⟩

theorem Node.IsAuthored.isAdmitted {n : Node} (h : n.IsAuthored) : n.IsAdmitted := by
  obtain ⟨d, _, _, hd⟩ := h
  have hproper := (d.author_wellFormed hd).proper
  have hentry : ∀ e ∈ n.entries, IsAdmissible e.name ∧ e.fields ≠ [] := fun e he => by
    obtain ⟨de, -, _, _, hde⟩ := Run.exists_left (d.exists_entries hd) e he
    obtain ⟨hname, hfields, -⟩ := de.author_cases hde
    exact ⟨hname, hfields⟩
  have hnamed : ∀ x ∈ n.names, IsAdmissible x := by
    intro x hx
    obtain ⟨e, he, rfl⟩ := List.mem_map.1 hx
    exact (hentry e he).1
  refine ⟨hproper.nodup, hnamed, fun e he => ⟨(hentry e he).2, hproper.name_of_mem e he⟩,
    required_sublist n, fun e he => mem_required_iff hproper.nodup he, fun x hx hparameter => ?_,
    fun values hvalues => recordOf_eq_ok_iff hvalues⟩
  -- A name begins with a letter, and the other parameter does not.
  rcases List.mem_cons.1 hparameter with rfl | hparameter
  · rfl
  · obtain rfl := List.mem_singleton.1 hparameter
    have haccepted := isEntryName_iff.2 (hnamed _ hx).written
    revert haccepted
    decide

/-- Every node of an authored schema is admitted, and below every field in its draft at most one node
    is written down. -/
theorem author_admitted {d : NodeDraft} {n : Node} {j k : Journal}
    (h : d.author.start j = (.ok n, k)) :
    (∀ m, n.Spans m → m.IsAdmitted) ∧
      ∀ f, d.Contains f → f.nested = none ∨ f.nestedList = none := by
  have hauthored : n.IsAuthored := ⟨d, j, k, h⟩
  refine ⟨fun m hm => (hauthored.spans hm).isAdmitted, fun f hf => ?_⟩
  obtain ⟨g, _, _, hg⟩ := hf.author h
  exact (f.author_cases hg).2.1

/-! ### A visit -/

/-- The draft of a field with nothing but a name. -/
def plainFieldDraft (name : String) : FieldDraft :=
  ⟨.text name, "any", none, none, none, none, none, none, none, none, none, none⟩

/-- The draft of a node with nothing but entries. -/
def plainNodeDraft (name : String) (entries : List EntryDraft) : NodeDraft :=
  ⟨name, entries, none, false, false, none, none, []⟩

/-- A visit: a guest, who is reached by mail or at a room of a house. -/
def visitDraft : NodeDraft :=
  plainNodeDraft "Visit"
    [.field { plainFieldDraft "guest" with enforce := some true },
     .group (.text "contact")
      [.field (plainFieldDraft "contact"),
       .node (plainNodeDraft "House" [.field (plainFieldDraft "room")])] none]

theorem visitDraft_admitted : ∃ n k, visitDraft.author.start .empty = (.ok n, k) ∧
    (∀ m, n.Spans m → m.IsAdmitted) ∧
      ∀ f, visitDraft.Contains f → f.nested = none ∨ f.nestedList = none := by
  obtain ⟨n, k, h⟩ := Run.exists_of_isOk
    (show (visitDraft.author.start .empty).1.isOk = true by decide +kernel)
  exact ⟨n, k, h, author_admitted h⟩

/-- A draft with a name that ends in a line break, and one with the name that is taken. -/
def misnamedDraft : NodeDraft :=
  plainNodeDraft "Misnamed" [.field (plainFieldDraft "a\n"), .field (plainFieldDraft "cls")]

/-- Both names are accepted, although one is no identifier and no value can be handed to a record
    under the other. -/
theorem misnamedDraft_accepted : ∃ n k, misnamedDraft.author.start .empty = (.ok n, k) ∧
    "a\n" ∈ n.names ∧ ¬ IsIdentifier "a\n".toList ∧ "cls" ∈ n.names ∧
      ∀ fields, recordOf n [(.text "cls", .null)] ≠ .ok (.record n.name fields) := by
  obtain ⟨n, k, h⟩ := Run.exists_of_isOk
    (show (misnamedDraft.author.start .empty).1.isOk = true by decide +kernel)
  have hnames : (misnamedDraft.author.start .empty).1.toOption.map Node.names =
      some ["a\n", "cls"] := by decide +kernel
  rw [h] at hnames
  have hnames : n.names = ["a\n", "cls"] := Option.some_inj.1 hnames
  refine ⟨n, k, h, by simp [hnames], fun hname => ?_, by simp [hnames], fun fields => ?_⟩
  · exact hname.break_notMem (by decide)
  · have htaken : (n.names.contains takenName &&
        (Value.findText? takenName [(.text "cls", .null)]).isSome) = true := by
      rw [hnames]
      decide
    rw [recordOf, if_pos htaken]
    exact nofun

end Intake.Schema
