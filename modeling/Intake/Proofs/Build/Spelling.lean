import Intake.Build.Basic
import Intake.Proofs.Build.Comparison
import Intake.Proofs.Lockstep
import Intake.Proofs.Schema.Nodes
import Intake.Proofs.Tree

/-!
# The spelling of keys

A key of a map that is given for a node stands for a name, and different keys may stand for the same
one. Inputs that differ only in which keys they use for the names are respelled (`Respelled`): in the
map of the node itself, and in those of the nodes below it. Everything else is the same in both, maps
that are given for plain fields included.

What a value is given for need not be certain, as the candidates of a group have one name: it is read
for a list of children, and a map in it counts as one for a node if it is one for any of them. If a
value is given for less, it has to be legible (`isLegible`): maps that do not count any more have only
texts for keys.

The keys of a map become names only when its node is built. Until then a path does not find what a key
of another spelling stands for, and what it finds may hold such keys itself. A path is clear in a value
(`isClear`) if all keys are texts in the maps for nodes that it leads through. Clear paths lead to the
same places (`walk_respelled`), and what has only texts for keys there is the same
(`Respelled.eq_of_isSpelledOut`).
-/

namespace Intake

open Intake.Schema

namespace Build

/-- The names that the keys of entries stand for. -/
def namesOf (es : List (Value × Value)) : List String :=
  es.map fun e => Tree.nameOf e.1

/-- Entries with the same names in the same order, and related values. -/
theorem forall₂_of_names {R : Value × Value → Value × Value → Prop} {es fs : List (Value × Value)}
    (hnames : namesOf es = namesOf fs) (h : ∀ e e', (e, e') ∈ es.zip fs → R e e') :
    List.Forall₂ (fun e e' => Tree.nameOf e.1 = Tree.nameOf e'.1 ∧ R e e') es fs := by
  rw [namesOf, namesOf, ← List.forall₂_eq_eq_eq, List.forall₂_map_left_iff,
    List.forall₂_map_right_iff] at hnames
  obtain ⟨hlength, hname⟩ := List.forall₂_iff_zip.1 hnames
  exact List.forall₂_iff_zip.2 ⟨hlength, fun hmem => ⟨hname hmem, h _ _ hmem⟩⟩

theorem names_of_forall₂ {R : Value × Value → Value × Value → Prop} {es fs : List (Value × Value)}
    (h : List.Forall₂ (fun e e' => Tree.nameOf e.1 = Tree.nameOf e'.1 ∧ R e e') es fs) :
    namesOf es = namesOf fs := by
  induction h with
  | nil => rfl
  | cons hee _ ih =>
    rw [namesOf, List.map_cons, ← namesOf, ih, hee.1]
    rfl

/-- Lists of one length whose items are the same one by one. -/
theorem eq_of_zip {α : Type} {as bs : List α} (hlength : as.length = bs.length)
    (h : ∀ a b, (a, b) ∈ as.zip bs → a = b) : as = bs := by
  rw [← List.forall₂_eq_eq_eq]
  exact List.forall₂_iff_zip.2 ⟨hlength, fun hmem => h _ _ hmem⟩

/-! ### What values are given for -/

/-- What stands below the fields of a name. -/
def childrenAt (n : Node) (name : String) : List Child :=
  (n.fields.filter (·.name == name)).map (·.child)

theorem child_mem_childrenAt {n : Node} {f : Field} (hf : f ∈ n.fields) :
    f.child ∈ childrenAt n f.name :=
  List.mem_map_of_mem (List.mem_filter.2 ⟨hf, beq_self_eq_true f.name⟩)

/-- A map is one for a node. -/
def takesMap (cs : List Child) : Bool :=
  cs.any fun
    | .single _ => true
    | _ => false

/-- What the values under a name in a map are given for. -/
def under (cs : List Child) (name : String) : List Child :=
  cs.flatMap fun
    | .single n => childrenAt n name
    | _ => []

/-- What the items of a list are given for. -/
def itemsOf (cs : List Child) : List Child :=
  cs.filterMap fun
    | .many n => some (.single n)
    | _ => none

theorem under_single (n : Node) (name : String) : under [.single n] name = childrenAt n name :=
  List.append_nil _

theorem under_eq_nil {cs : List Child} (h : takesMap cs = false) (name : String) :
    under cs name = [] := by
  refine List.flatMap_eq_nil_iff.2 fun c hc => ?_
  have hc := List.any_eq_false.1 h c hc
  cases c with
  | single n => exact absurd rfl hc
  | _ => rfl

theorem under_subset {cs ds : List Child} (h : cs ⊆ ds) (name : String) :
    under cs name ⊆ under ds name := by
  intro c hc
  obtain ⟨d, hd, hunder⟩ := List.mem_flatMap.1 hc
  exact List.mem_flatMap.2 ⟨d, h hd, hunder⟩

theorem itemsOf_subset {cs ds : List Child} (h : cs ⊆ ds) : itemsOf cs ⊆ itemsOf ds :=
  List.filterMap_subset _ h

theorem takesMap_of_subset {cs ds : List Child} (h : cs ⊆ ds) (hcs : takesMap cs = true) :
    takesMap ds = true := by
  obtain ⟨c, hc, hsingle⟩ := List.any_eq_true.1 hcs
  exact List.any_eq_true.2 ⟨c, h hc, hsingle⟩

/-! ### Respelled values -/

/-- All keys can be written. -/
def Writable (es : List (Value × Value)) : Prop :=
  ∀ e ∈ es, e.1.isTooLong = false

/-- Two values are the same up to the spelling of keys: the keys of a map for a node stand for the
    same names in the same order, and what is under each name is respelled. -/
inductive Respelled : List Child → Value → Value → Prop
  | same (cs : List Child) (v : Value) : Respelled cs v v
  | map {cs : List Child} {es fs : List (Value × Value)} :
    takesMap cs = true → Writable es → Writable fs → namesOf es = namesOf fs →
    (∀ e e', (e, e') ∈ es.zip fs → Respelled (under cs (Tree.nameOf e.1)) e.2 e'.2) →
    Respelled cs (.map es) (.map fs)
  | list {cs : List Child} {vs ws : List Value} :
    vs.length = ws.length → (∀ v w, (v, w) ∈ vs.zip ws → Respelled (itemsOf cs) v w) →
    Respelled cs (.list vs) (.list ws)
  | tuple {cs : List Child} {vs ws : List Value} :
    vs.length = ws.length → (∀ v w, (v, w) ∈ vs.zip ws → Respelled (itemsOf cs) v w) →
    Respelled cs (.tuple vs) (.tuple ws)

/-- Two values under a name of a node are respelled. -/
abbrev RespelledAt (n : Node) (name : String) : Value → Value → Prop :=
  Respelled (childrenAt n name)

/-- Trees of a node with the same names and respelled values. -/
abbrev RespelledTree (n : Node) : Tree → Tree → Prop :=
  Named (RespelledAt n)

namespace Respelled

variable {cs ds : List Child} {v w : Value}

theorem isNull (h : Respelled cs v w) : v.isNull = w.isNull := by
  cases h <;> rfl

theorem isEmpty (h : Respelled cs v w) : v.isEmpty = w.isEmpty := by
  cases h with
  | same => rfl
  | @map _ es fs _ _ _ hnames =>
    have hlength : es.length = fs.length := by
      simpa [namesOf] using congrArg List.length hnames
    cases es <;> cases fs <;> first | rfl | cases hlength
  | @list _ vs ws hlength => cases vs <;> cases ws <;> first | rfl | cases hlength
  | @tuple _ vs ws hlength => cases vs <;> cases ws <;> first | rfl | cases hlength

/-- What is given for more is still respelled. -/
theorem mono (h : Respelled cs v w) (hsub : cs ⊆ ds) : Respelled ds v w := by
  induction h generalizing ds with
  | same cs v => exact .same ds v
  | map hmap hes hfs hnames _ ih =>
    exact .map (takesMap_of_subset hsub hmap) hes hfs hnames
      fun e e' hmem => ih e e' hmem (under_subset hsub _)
  | list hlength _ ih => exact .list hlength fun v w hmem => ih v w hmem (itemsOf_subset hsub)
  | tuple hlength _ ih => exact .tuple hlength fun v w hmem => ih v w hmem (itemsOf_subset hsub)

/-- What is given for no node is the same. -/
theorem eq_of_plain (h : Respelled cs v w) (hcs : ∀ c ∈ cs, c.node? = none) : v = w := by
  have hitems : ∀ {cs : List Child}, (∀ c ∈ cs, c.node? = none) → ∀ c ∈ itemsOf cs, c.node? = none := by
    intro cs hcs c hc
    obtain ⟨d, hd, hsome⟩ := List.mem_filterMap.1 hc
    have hplain := hcs d hd
    cases d <;> cases hsome
    cases hplain
  induction h with
  | same => rfl
  | map hmap =>
    obtain ⟨c, hc, hsingle⟩ := List.any_eq_true.1 hmap
    have hplain := hcs c hc
    cases c with
    | single n => cases hplain
    | _ => cases hsingle
  | list hlength _ ih =>
    exact congrArg Value.list (eq_of_zip hlength fun v w hmem => ih v w hmem (hitems hcs))
  | tuple hlength _ ih =>
    exact congrArg Value.tuple (eq_of_zip hlength fun v w hmem => ih v w hmem (hitems hcs))

/-- What is given for one node only is the same if it is no map. -/
theorem eq_or_maps {n : Node} (h : Respelled [.single n] v w) :
    v = w ∨ ∃ es fs, v = .map es ∧ w = .map fs := by
  cases h with
  | same => exact .inl rfl
  | map => exact .inr ⟨_, _, rfl, rfl⟩
  | list hlength h =>
    exact .inl (congrArg Value.list (eq_of_zip hlength fun v w hmem =>
      (h v w hmem).eq_of_plain (List.forall_mem_nil _)))
  | tuple hlength h =>
    exact .inl (congrArg Value.tuple (eq_of_zip hlength fun v w hmem =>
      (h v w hmem).eq_of_plain (List.forall_mem_nil _)))

/-- Maps are respelled if their keys are, and what stands under the names. -/
theorem of_forall₂ {n : Node} {es fs : List (Value × Value)} (hes : Writable es)
    (hfs : Writable fs) (h : List.Forall₂ (fun e e' => Tree.nameOf e.1 = Tree.nameOf e'.1 ∧
      RespelledAt n (Tree.nameOf e.1) e.2 e'.2) es fs) :
    Respelled [.single n] (.map es) (.map fs) := by
  refine .map rfl hes hfs (names_of_forall₂ h) fun e e' hmem => ?_
  rw [under_single]
  exact ((List.forall₂_iff_zip.1 h).2 hmem).2

end Respelled

/-- Trees stay respelled with the entries of maps that stand for the same names. -/
theorem named_foldl {R : String → Value → Value → Prop} {es fs : List (Value × Value)}
    (h : List.Forall₂ (fun e e' => Tree.nameOf e.1 = Tree.nameOf e'.1 ∧
      R (Tree.nameOf e.1) e.2 e'.2) es fs) {t t' : Tree} (ht : Named R t t') :
    Named R (es.foldl (fun (t : Tree) e => t.put (Tree.nameOf e.1) e.2) t)
      (fs.foldl (fun (t : Tree) e => t.put (Tree.nameOf e.1) e.2) t') := by
  induction h generalizing t t' with
  | nil => exact ht
  | cons hee _ ih =>
    rw [List.foldl_cons, List.foldl_cons, ← hee.1]
    exact ih (ht.put hee.2)

/-- Respelled maps are read as respelled trees. -/
theorem Respelled.read {n : Node} {es fs : List (Value × Value)}
    (h : Respelled [.single n] (.map es) (.map fs)) :
    Run.SameEnd (RespelledTree n) (Tree.read es) (Tree.read fs) := by
  cases h with
  | same =>
    cases Tree.read es with
    | error e => exact rfl
    | ok t => exact Named.refl (fun name v => .same _ v) t
  | map _ hes hfs hnames h =>
    rw [Tree.read, Tree.read, if_neg (by simpa [Writable] using hes),
      if_neg (by simpa [Writable] using hfs)]
    refine named_foldl (forall₂_of_names hnames fun e e' hmem => ?_) .nil
    rw [RespelledAt, ← under_single]
    exact h e e' hmem

/-- Respelled trees are respelled as maps. -/
theorem RespelledTree.toValue {n : Node} {t t' : Tree} (h : RespelledTree n t t') :
    Respelled [.single n] t.toValue t'.toValue := by
  have hwritable : ∀ t : Tree, Writable (t.map fun e => (Value.text e.1, e.2)) := by
    intro t e he
    obtain ⟨_, -, rfl⟩ := List.mem_map.1 he
    rfl
  refine .of_forall₂ (hwritable t) (hwritable t') ?_
  rw [List.forall₂_map_left_iff, List.forall₂_map_right_iff]
  exact h

/-! ### Values whose keys are texts -/

mutual
/-- All keys of maps for nodes are texts. -/
def isSpelledOut (cs : List Child) (v : Value) : Bool :=
  match v with
  | .map es => !takesMap cs || entriesSpelledOut cs es
  | .list vs => itemsSpelledOut (itemsOf cs) vs
  | .tuple vs => itemsSpelledOut (itemsOf cs) vs
  | _ => true
termination_by structural v

/-- The keys of a map for a node are texts, and so are those of the maps in it. -/
def entriesSpelledOut (cs : List Child) (es : List (Value × Value)) : Bool :=
  match es with
  | [] => true
  | (k, v) :: rest =>
    k.isText && isSpelledOut (under cs (Tree.nameOf k)) v && entriesSpelledOut cs rest
termination_by structural es

/-- The keys of maps for nodes are texts in each item. -/
def itemsSpelledOut (cs : List Child) (vs : List Value) : Bool :=
  match vs with
  | [] => true
  | v :: rest => isSpelledOut cs v && itemsSpelledOut cs rest
termination_by structural vs
end

theorem entriesSpelledOut_iff {cs : List Child} {es : List (Value × Value)} :
    entriesSpelledOut cs es = true ↔ ∀ e ∈ es, e.1.isText = true ∧
      isSpelledOut (under cs (Tree.nameOf e.1)) e.2 = true := by
  induction es with
  | nil => simp [entriesSpelledOut]
  | cons e es ih =>
    obtain ⟨k, v⟩ := e
    simp [entriesSpelledOut, ih]

theorem itemsSpelledOut_iff {cs : List Child} {vs : List Value} :
    itemsSpelledOut cs vs = true ↔ ∀ v ∈ vs, isSpelledOut cs v = true := by
  induction vs with
  | nil => simp [itemsSpelledOut]
  | cons v vs ih => simp [itemsSpelledOut, ih]

/-- Texts that stand for the same name are the same. -/
theorem eq_of_nameOf {k l : Value} (hk : k.isText = true) (hl : l.isText = true)
    (h : Tree.nameOf k = Tree.nameOf l) : k = l := by
  cases k <;> cases hk
  cases l <;> cases hl
  exact congrArg Value.text h

/-- Maps whose keys are texts for the same names are the same if their values are. -/
theorem eq_of_texts {es fs : List (Value × Value)} (hnames : namesOf es = namesOf fs)
    (hes : ∀ e ∈ es, e.1.isText = true) (hfs : ∀ e ∈ fs, e.1.isText = true)
    (h : ∀ e e', (e, e') ∈ es.zip fs → Tree.nameOf e.1 = Tree.nameOf e'.1 → e.2 = e'.2) :
    es = fs := by
  obtain ⟨hlength, hpairs⟩ := List.forall₂_iff_zip.1
    (forall₂_of_names (R := fun _ _ => True) hnames fun _ _ _ => trivial)
  refine eq_of_zip hlength fun e e' hmem => ?_
  obtain ⟨he, he'⟩ := List.of_mem_zip hmem
  have hname := (hpairs hmem).1
  exact Prod.ext (eq_of_nameOf (hes e he) (hfs e' he') hname) (h e e' hmem hname)

/-- Respelled values are the same where all keys are texts. -/
theorem Respelled.eq_of_isSpelledOut {cs : List Child} {v w : Value} (h : Respelled cs v w)
    (hv : isSpelledOut cs v = true) (hw : isSpelledOut cs w = true) : v = w := by
  induction h with
  | same => rfl
  | map hmap _ _ hnames _ ih =>
    rw [isSpelledOut, hmap, Bool.not_true, Bool.false_or, entriesSpelledOut_iff] at hv hw
    refine congrArg Value.map (eq_of_texts hnames (fun e he => (hv e he).1)
      (fun e he => (hw e he).1) fun e e' hmem hname => ?_)
    obtain ⟨he, he'⟩ := List.of_mem_zip hmem
    exact ih e e' hmem (hv e he).2 (hname ▸ (hw e' he').2)
  | list hlength _ ih =>
    rw [isSpelledOut, itemsSpelledOut_iff] at hv hw
    exact congrArg Value.list (eq_of_zip hlength fun v w hmem =>
      ih v w hmem (hv v (List.of_mem_zip hmem).1) (hw w (List.of_mem_zip hmem).2))
  | tuple hlength _ ih =>
    rw [isSpelledOut, itemsSpelledOut_iff] at hv hw
    exact congrArg Value.tuple (eq_of_zip hlength fun v w hmem =>
      ih v w hmem (hv v (List.of_mem_zip hmem).1) (hw w (List.of_mem_zip hmem).2))

/-! ### Values that are given for less -/

mutual
/-- Maps for nodes that are none any more, if the value is given for other children, have only texts
    for keys. -/
def isLegible (cs ds : List Child) (v : Value) : Bool :=
  match v with
  | .map es =>
    !takesMap cs || ((takesMap ds || es.all (·.1.isText)) && entriesLegible cs ds es)
  | .list vs => itemsLegible (itemsOf cs) (itemsOf ds) vs
  | .tuple vs => itemsLegible (itemsOf cs) (itemsOf ds) vs
  | _ => true
termination_by structural v

/-- The values of a map are legible. -/
def entriesLegible (cs ds : List Child) (es : List (Value × Value)) : Bool :=
  match es with
  | [] => true
  | (k, v) :: rest =>
    isLegible (under cs (Tree.nameOf k)) (under ds (Tree.nameOf k)) v && entriesLegible cs ds rest
termination_by structural es

/-- The items of a list are legible. -/
def itemsLegible (cs ds : List Child) (vs : List Value) : Bool :=
  match vs with
  | [] => true
  | v :: rest => isLegible cs ds v && itemsLegible cs ds rest
termination_by structural vs
end

theorem entriesLegible_iff {cs ds : List Child} {es : List (Value × Value)} :
    entriesLegible cs ds es = true ↔ ∀ e ∈ es,
      isLegible (under cs (Tree.nameOf e.1)) (under ds (Tree.nameOf e.1)) e.2 = true := by
  induction es with
  | nil => simp [entriesLegible]
  | cons e es ih =>
    obtain ⟨k, v⟩ := e
    simp [entriesLegible, ih]

theorem itemsLegible_iff {cs ds : List Child} {vs : List Value} :
    itemsLegible cs ds vs = true ↔ ∀ v ∈ vs, isLegible cs ds v = true := by
  induction vs with
  | nil => simp [itemsLegible]
  | cons v vs ih => simp [itemsLegible, ih]

/-- Legible values are respelled as what they are given for. -/
theorem Respelled.legible {cs ds : List Child} {v w : Value} (h : Respelled cs v w)
    (hv : isLegible cs ds v = true) (hw : isLegible cs ds w = true) : Respelled ds v w := by
  induction h generalizing ds with
  | same cs v => exact .same ds v
  | @map cs es fs hmap hes hfs hnames _ ih =>
    simp only [isLegible, hmap, Bool.not_true, Bool.false_or, Bool.and_eq_true,
      Bool.or_eq_true, List.all_eq_true, entriesLegible_iff] at hv hw
    have hvalues : ∀ e e', (e, e') ∈ es.zip fs → Tree.nameOf e.1 = Tree.nameOf e'.1 →
        Respelled (under ds (Tree.nameOf e.1)) e.2 e'.2 := by
      intro e e' hmem hname
      obtain ⟨he, he'⟩ := List.of_mem_zip hmem
      exact ih e e' hmem (hv.2 e he) (hname ▸ hw.2 e' he')
    cases hds : takesMap ds with
    | true =>
      have hpairs := List.forall₂_iff_zip.1
        (forall₂_of_names (R := fun _ _ => True) hnames fun _ _ _ => trivial)
      exact .map hds hes hfs hnames fun e e' hmem => hvalues e e' hmem (hpairs.2 hmem).1
    | false =>
      -- The map is none for a node any more, so that nothing in it may differ.
      rw [eq_of_texts hnames (hv.1.resolve_left (by simp [hds])) (hw.1.resolve_left (by simp [hds]))
        fun e e' hmem hname => (hvalues e e' hmem hname).eq_of_plain
          (by simp [under_eq_nil hds])]
      exact .same ds _
  | list hlength _ ih =>
    rw [isLegible, itemsLegible_iff] at hv hw
    exact .list hlength fun v w hmem =>
      ih v w hmem (hv v (List.of_mem_zip hmem).1) (hw w (List.of_mem_zip hmem).2)
  | tuple hlength _ ih =>
    rw [isLegible, itemsLegible_iff] at hv hw
    exact .tuple hlength fun v w hmem =>
      ih v w hmem (hv v (List.of_mem_zip hmem).1) (hw w (List.of_mem_zip hmem).2)

/-! ### Paths that are clear -/

/-- The segments lead only through maps for nodes whose keys are texts, and to a value of the kind, if
    anywhere. -/
def isClear (last : List Child → Value → Bool) : List String → List Child → Value → Bool
  | [], cs, v => last cs v
  | segment :: rest, cs, .map es =>
    !takesMap cs || (es.all (·.1.isText) &&
      (Value.findText? segment es).all (isClear last rest (under cs segment)))
  | segment :: rest, cs, .list vs =>
    (Path.item? segment vs).toOption.join.all (isClear last rest (itemsOf cs))
  | segment :: rest, cs, .tuple vs =>
    (Path.item? segment vs).toOption.join.all (isClear last rest (itemsOf cs))
  | _, _, _ => true

/-- The values under a text in maps whose keys are texts. -/
theorem rel_findText? {R : String → Value → Value → Prop} {segment : String}
    {es fs : List (Value × Value)}
    (h : List.Forall₂ (fun e e' => Tree.nameOf e.1 = Tree.nameOf e'.1 ∧
      R (Tree.nameOf e.1) e.2 e'.2) es fs)
    (hes : ∀ e ∈ es, e.1.isText = true) (hfs : ∀ e ∈ fs, e.1.isText = true) :
    Option.Rel (R segment) (Value.findText? segment es) (Value.findText? segment fs) := by
  simp only [Value.findText?, Value.find?]
  induction h with
  | nil => exact .none
  | @cons e e' es fs hee _ ih =>
    obtain ⟨htext, hrest⟩ := List.forall_mem_cons.1 hes
    obtain ⟨htext', hrest'⟩ := List.forall_mem_cons.1 hfs
    obtain ⟨k, v⟩ := e
    obtain ⟨l, w⟩ := e'
    obtain rfl : k = l := eq_of_nameOf htext htext' hee.1
    cases k <;> cases htext
    next s =>
    rw [List.find?_cons, List.find?_cons, Value.equals_text]
    by_cases hs : s = segment
    · subst hs
      simp only [beq_self_eq_true, Option.map_some]
      exact .some hee.2
    · simp only [beq_false_of_ne hs]
      exact ih hrest hrest'

/-- What clear paths lead to: the same value, or respelled ones of the kind. -/
def Reached (last : List Child → Value → Bool) (v w : Value) : Prop :=
  v = w ∨ ∃ cs, Respelled cs v w ∧ last cs v = true ∧ last cs w = true

theorem reached_refl (last : List Child → Value → Bool) {ε : Type} (x : Except ε (Option Value)) :
    Run.SameEnd (Option.Rel (Reached last)) x x := by
  rcases x with e | _ | v
  · exact rfl
  · exact Option.Rel.none
  · exact Option.Rel.some (.inl rfl)

theorem Reached.isNull {last : List Child → Value → Bool} {v w : Value} (h : Reached last v w) :
    v.isNull = w.isNull := by
  obtain rfl | ⟨_, hvw, -, -⟩ := h
  · rfl
  · exact hvw.isNull

/-- What clear paths lead to without other keys than texts is the same. -/
theorem Reached.eq {v w : Value} (h : Reached isSpelledOut v w) : v = w := by
  obtain rfl | ⟨_, hvw, hv, hw⟩ := h
  · rfl
  · exact hvw.eq_of_isSpelledOut hv hw

/-- The items of respelled lists are found in the same places, from where the rest of a path is
    walked. -/
theorem item?_respelled {last : List Child → Value → Bool} {segment : String} {rest : List String}
    {cs : List Child} {vs ws : List Value} (hlength : vs.length = ws.length)
    (h : ∀ v w, (v, w) ∈ vs.zip ws → Respelled cs v w)
    (hvs : (Path.item? segment vs).toOption.join.all (isClear last rest cs) = true)
    (hws : (Path.item? segment ws).toOption.join.all (isClear last rest cs) = true)
    (hwalk : ∀ {v w : Value}, Respelled cs v w → isClear last rest cs v = true →
      isClear last rest cs w = true →
      Run.SameEnd (Option.Rel (Reached last)) (Path.walk rest v) (Path.walk rest w)) :
    Run.SameEnd (Option.Rel fun v w => Run.SameEnd (Option.Rel (Reached last)) (Path.walk rest v)
      (Path.walk rest w)) (Path.item? segment vs) (Path.item? segment ws) := by
  have hrel := Path.item?_of_forall₂ segment
    (List.forall₂_iff_zip.2 ⟨hlength, fun hmem => h _ _ hmem⟩)
  generalize Path.item? segment vs = x at hvs hrel
  generalize Path.item? segment ws = y at hws hrel
  cases x <;> cases y
  · exact hrel
  · exact hrel.elim
  · exact hrel.elim
  · rcases hrel with hvw | _
    · exact Option.Rel.some (hwalk hvw hvs hws)
    · exact Option.Rel.none

/-- Along a path that is clear in both, respelled values lead to the same places. -/
theorem walk_respelled {last : List Child → Value → Bool} {segments : List String}
    {cs : List Child} {v w : Value} (h : Respelled cs v w) (hv : isClear last segments cs v = true)
    (hw : isClear last segments cs w = true) :
    Run.SameEnd (Option.Rel (Reached last)) (Path.walk segments v) (Path.walk segments w) := by
  induction segments generalizing cs v w with
  | nil => exact Option.Rel.some (.inr ⟨cs, h, hv, hw⟩)
  | cons segment rest ih =>
    cases h with
    | same => exact reached_refl last _
    | @map _ es fs hmap _ _ hnames hvalues =>
      simp only [isClear, hmap, Bool.not_true, Bool.false_or, Bool.and_eq_true,
        List.all_eq_true] at hv hw
      have hrel : Option.Rel (Respelled (under cs segment)) _ _ :=
        rel_findText? (R := fun name => Respelled (under cs name))
          (forall₂_of_names hnames hvalues) hv.1 hw.1
      refine Path.walk_of_step ?_
      rw [Path.step, Path.step]
      generalize Value.findText? segment es = x at hv hrel
      generalize Value.findText? segment fs = y at hw hrel
      rcases hrel with hvw | _
      · exact Option.Rel.some (ih hvw hv.2 hw.2)
      · exact Option.Rel.none
    | list hlength h => exact Path.walk_of_step (item?_respelled hlength h hv hw ih)
    | tuple hlength h => exact Path.walk_of_step (item?_respelled hlength h hv hw ih)

/-- What is present at a path that is clear in both. -/
theorem find_respelled {last : List Child → Value → Bool} {segments : List String}
    {cs : List Child} {v w : Value} (h : Respelled cs v w) (hv : isClear last segments cs v = true)
    (hw : isClear last segments cs w = true) :
    Run.SameEnd (Option.Rel (Reached last)) (Path.find segments v) (Path.find segments w) :=
  Path.find_of_walk (fun _ _ hvw => hvw.isNull) (walk_respelled h hv hw)

end Build

end Intake
