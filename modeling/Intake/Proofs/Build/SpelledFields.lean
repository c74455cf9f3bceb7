import Intake.Proofs.Build.Spelling
import Intake.Proofs.Build.Watch
import Intake.Proofs.Domain

/-!
# Fields of respelled inputs

Two builds of respelled inputs are followed in step, each with the tree of its node and that of the
root (`RespelledScope`). What a path finds there is the same, unless the path is obscured
(`isObscured`): it leads through a map for a node whose keys are not names yet, or to such a map. And
what was sent for a field is respelled for what stands below it, unless it is garbled (`isGarbled`): a
map in it is for a node below another candidate only. Both are looked out for in either build
(`spellingWatch`).

Otherwise a field has the same failures in both builds, and without failures the same value
(`RespelledOutcome`), as long as the nodes below it are built alike (`watchField_respelled`).
-/

namespace Intake.Build

open Intake.Schema Intake.Failure

/-! ### What is looked out for -/

/-- The path leads through a map for a node that has other keys than texts, or to a value that is not
    of the kind. -/
def isObscured (last : List Child → Value → Bool) (root n : Node) (s : Scope) (path : String) :
    Bool :=
  let p := Path.ofString path
  !(if p.anchored then isClear last p.segments [.single root] s.root.toValue
    else isClear last p.segments [.single n] s.tree.toValue)

/-- What was sent for the field has a map with other keys than texts that is for a node below a
    candidate of the same name, but not below this field. -/
def isGarbled (n : Node) (s : Scope) (f : Field) : Bool :=
  (s.tree.sent? f.name).any fun v => !isLegible (childrenAt n f.name) [f.child] v

/-- Nothing keeps the field from being looked at. -/
def isOpen (s : Scope) (f : Field) : Bool :=
  (blocked? s f).toOption == some none

/-- The path that a field is copied from: it is looked up if nothing was sent, nor filled already. -/
def sourceFor? (s : Scope) (f : Field) (fills : Fills) : Option String :=
  if (s.tree.sent? f.name).isNone && (fills.find? (·.1.equals (.ofField f))).isNone then f.copied?
  else none

/-- The paths that are looked up for a clause: its place, and what the demand reads if there is
    something at it. -/
def pathsOf (s : Scope) (c : Domain.Clause) : List String :=
  if (s.lookup c.path).toOption.join.isSome then c.reads else [c.path]

/-- Looked out for: a path that leads through a map for a node that has other keys than texts, or,
    other than that of a gate, to a value in which there are such maps; and a candidate to which such
    a map is not one for a node. -/
def spellingWatch (root : Node) : Watch where
  field n f s fills :=
    f.gated?.any (isObscured (fun _ _ => true) root n s) ||
      (isOpen s f && ((sourceFor? s f fills).any (isObscured isSpelledOut root n s) ||
        isGarbled n s f))
  clauses n e s os :=
    (os.of e).clauses.any fun c => (pathsOf s c).any (isObscured isSpelledOut root n s)

/-! ### Looking up a path -/

/-- Places in respelled trees, in one context. -/
structure RespelledScope (root n : Node) (s s' : Scope) : Prop where
  context : s.context = s'.context
  tree : RespelledTree n s.tree s'.tree
  root : RespelledTree root s.root s'.root

section Lookup

variable {root n : Node} {s s' : Scope}

/-- What a path leads to that is obscured in neither place. -/
theorem RespelledScope.reached (h : RespelledScope root n s s') {last : List Child → Value → Bool}
    {path : String} (hs : isObscured last root n s path = false)
    (hs' : isObscured last root n s' path = false) :
    Run.SameEnd (Option.Rel (Reached last)) (s.lookup path) (s'.lookup path) := by
  rw [isObscured, Bool.not_eq_false'] at hs hs'
  rw [Scope.lookup, Scope.lookup, Path.resolve, Path.resolve]
  cases ha : (Path.ofString path).anchored <;>
    simp only [ha, Bool.false_eq_true, if_false, if_true] at hs hs' ⊢
  · exact find_respelled h.tree.toValue hs hs'
  · exact find_respelled h.root.toValue hs hs'

theorem RespelledScope.lookup (h : RespelledScope root n s s') {path : String}
    (hs : isObscured isSpelledOut root n s path = false)
    (hs' : isObscured isSpelledOut root n s' path = false) : s.lookup path = s'.lookup path := by
  refine ((h.reached hs hs').imp fun x y hxy => ?_).eq
  rcases hxy with hvw | _
  · rw [hvw.eq]
  · rfl

theorem path_mem_pathsOf (s : Scope) (c : Domain.Clause) : c.path ∈ pathsOf s c := by
  rw [pathsOf]
  split
  · exact List.mem_cons_self
  · exact List.mem_cons_self

theorem mem_pathsOf_of_reads {c : Domain.Clause} {v : Value} (h : s.lookup c.path = .ok (some v))
    {path : String} (hpath : path ∈ c.demand.reads) : path ∈ pathsOf s c := by
  rw [pathsOf, h]
  exact List.mem_cons_of_mem _ hpath

/-- A clause is evaluated alike where no path that it looks up is obscured. -/
theorem RespelledScope.evaluateClause (hs : RespelledScope root n s s') {c : Domain.Clause}
    (hw : ∀ path ∈ pathsOf s c, isObscured isSpelledOut root n s path = false)
    (hw' : ∀ path ∈ pathsOf s' c, isObscured isSpelledOut root n s' path = false)
    (functions : Functions) (field : String) :
    Domain.evaluateClause functions s.lookup field c =
      Domain.evaluateClause functions s'.lookup field c := by
  have hclear : ∀ path, path ∈ pathsOf s c → path ∈ pathsOf s' c → s.lookup path = s'.lookup path :=
    fun path h h' => hs.lookup (hw path h) (hw' path h')
  have hfound := hclear c.path (path_mem_pathsOf s c) (path_mem_pathsOf s' c)
  refine Domain.evaluateClause_congr hfound (fun v h path hpath => ?_) functions field
  exact hclear path (mem_pathsOf_of_reads h hpath) (mem_pathsOf_of_reads (hfound ▸ h) hpath)

end Lookup

/-! ### Filling a field -/

/-- Two values are the same, or they are what was sent under a name. -/
def SameOrSent (s s' : Scope) (name : String) (v w : Value) : Prop :=
  v = w ∨ s.tree.sent? name = some v ∧ s'.tree.sent? name = some w

/-- Fills with the same keys, each with the same value or with what was sent. -/
def RespelledFills (s s' : Scope) (name : String) : Fills → Fills → Prop :=
  List.Forall₂ fun p q => p.1 = q.1 ∧ Option.Rel (SameOrSent s s' name) p.2 q.2

section Fill

variable {root n : Node} {halt halt' : Fault} {f : Field} {s s' : Scope} {fills fills' : Fills}

theorem RespelledScope.sent? (hs : RespelledScope root n s s') (name : String) :
    Option.Rel (RespelledAt n name) (s.tree.sent? name) (s'.tree.sent? name) :=
  Run.rel_filter (hs.tree.lookup name) fun _ _ hvw => by rw [hvw.isNull]

theorem RespelledScope.isEmpty (hs : RespelledScope root n s s') {name : String} {v w : Value}
    (h : SameOrSent s s' name v w) : v.isEmpty = w.isEmpty := by
  obtain rfl | ⟨hv, hw⟩ := h
  · rfl
  · have hrel := hs.sent? name
    rw [hv, hw] at hrel
    cases hrel with
    | some hvw => exact hvw.isEmpty

/-- What was sent is respelled for the field if it is not garbled. -/
theorem RespelledScope.legible (hs : RespelledScope root n s s') (hw : isGarbled n s f = false)
    (hw' : isGarbled n s' f = false) {v w : Value} (h : SameOrSent s s' f.name v w) :
    Respelled [f.child] v w := by
  obtain rfl | ⟨hv, hv'⟩ := h
  · exact .same _ v
  · have hrel := hs.sent? f.name
    rw [isGarbled, hv, Option.any_some, Bool.not_eq_false'] at hw
    rw [isGarbled, hv', Option.any_some, Bool.not_eq_false'] at hw'
    rw [hv, hv'] at hrel
    cases hrel with
    | some hvw => exact hvw.legible hw hw'

/-- Whether a field is looked at. -/
theorem RespelledScope.blocked? (hs : RespelledScope root n s s')
    (hw : f.gated?.any (isObscured (fun _ _ => true) root n s) = false)
    (hw' : f.gated?.any (isObscured (fun _ _ => true) root n s') = false) :
    Build.blocked? s f = Build.blocked? s' f := by
  rw [Build.blocked?, Build.blocked?]
  cases hgate : f.gated? with
  | none => rfl
  | some path =>
    rw [hgate] at hw hw'
    refine ((hs.reached hw hw').imp fun x y hxy => ?_).map_eq
    rw [Run.rel_isSome hxy]

/-- Fills are found under the same keys. -/
theorem RespelledFills.find (hfills : RespelledFills s s' f.name fills fills') :
    Option.Rel (fun p q => Option.Rel (SameOrSent s s' f.name) p.2 q.2)
      (fills.find? (·.1.equals (.ofField f))) (fills'.find? (·.1.equals (.ofField f))) := by
  induction hfills with
  | nil => exact .none
  | cons hpq _ ih =>
    rw [List.find?_cons, List.find?_cons, ← hpq.1]
    split
    · exact .some hpq.2
    · exact ih

/-- What a field has by itself, if its source is not obscured. -/
theorem RespelledScope.given (hs : RespelledScope root n s s')
    (hw : (s.tree.sent? f.name).isNone = true →
      f.copied?.any (isObscured isSpelledOut root n s) = false)
    (hw' : (s'.tree.sent? f.name).isNone = true →
      f.copied?.any (isObscured isSpelledOut root n s') = false) :
    Run.SameEnd (Option.Rel (SameOrSent s s' f.name)) (Build.given s f) (Build.given s' f) := by
  have hrefl : ∀ x : Except Fault (Option Value),
      Run.SameEnd (Option.Rel (SameOrSent s s' f.name)) x x := by
    rintro (e | _ | v)
    · exact rfl
    · exact Option.Rel.none
    · exact Option.Rel.some (.inl rfl)
  have hrel := hs.sent? f.name
  rw [Build.given, Build.given]
  generalize hsent : s.tree.sent? f.name = x at hw hrel
  generalize hsent' : s'.tree.sent? f.name = y at hw' hrel
  rcases hrel with _ | _
  · exact Option.Rel.some (.inr ⟨hsent, hsent'⟩)
  · cases hpath : f.copied? with
    | none => exact Option.Rel.none
    | some path =>
      rw [hpath] at hw hw'
      dsimp only
      rw [hs.lookup (hw rfl) (hw' rfl)]
      exact hrefl _

/-- What is generated does not depend on the input. -/
theorem RespelledScope.filled (hs : RespelledScope root n s s')
    (h : Run.SameEnd (Option.Rel (SameOrSent s s' f.name)) (Build.given s f) (Build.given s' f)) :
    Run.InStep (· = halt) (· = halt') (Option.Rel (SameOrSent s s' f.name)) (Build.filled s f)
      (Build.filled s' f) := by
  rw [Build.filled, Build.filled]
  refine Run.InStep.bind (.ofExcept h) fun own own' hown => ?_
  cases f.auto with
  | none => exact .pure hown
  | some auto =>
    have hempty : own.any (!·.isEmpty) = own'.any (!·.isEmpty) := by
      rcases hown with hvw | _
      · rw [Option.any_some, Option.any_some, hs.isEmpty hvw]
      · rfl
    dsimp only
    rw [hempty]
    split
    · exact .pure hown
    · refine (Run.local_generate _ _).inStep.bind fun v _ hv => .pure ?_
      subst hv
      split
      · exact .none
      · exact .some (.inl rfl)

/-- A field is filled alike if its source is not obscured. -/
theorem RespelledScope.fill (hs : RespelledScope root n s s')
    (hfills : RespelledFills s s' f.name fills fills')
    (hw : (sourceFor? s f fills).any (isObscured isSpelledOut root n s) = false)
    (hw' : (sourceFor? s' f fills').any (isObscured isSpelledOut root n s') = false) :
    Run.InStep (· = halt) (· = halt') (fun p q =>
        Option.Rel (SameOrSent s s' f.name) p.1 q.1 ∧ RespelledFills s s' f.name p.2 q.2)
      (Build.fill s f fills) (Build.fill s' f fills') := by
  have hfind := hfills.find
  rw [sourceFor?] at hw hw'
  rw [Build.fill, Build.fill]
  generalize fills.find? (·.1.equals (.ofField f)) = x at hfind hw ⊢
  generalize fills'.find? (·.1.equals (.ofField f)) = y at hfind hw' ⊢
  rcases hfind with hpq | _
  · exact .pure ⟨hpq, hfills⟩
  · refine (hs.filled (hs.given (fun h => ?_) fun h => ?_)).bind fun v w hvw =>
      .pure ⟨hvw, List.rel_append hfills (.cons ⟨rfl, hvw⟩ .nil)⟩
    · simpa [h] using hw
    · simpa [h] using hw'

end Fill

/-! ### Evaluating a field -/

/-- Outcomes with the same failures and clauses, and with the same value if nothing failed. -/
structure RespelledOutcome (n : Node) (name : String) (o o' : Outcome) : Prop where
  failures : o.failures = o'.failures
  clauses : o.clauses = o'.clauses
  resolved : Option.Rel (fun r r' => (o.failures = [] → r.value = r'.value) ∧
    RespelledAt n name r.tree r'.tree) o.resolved o'.resolved

/-- A field with nodes below it has no rule, and no validator is asked about it. -/
def IsBare (n : Node) : Prop :=
  ∀ f ∈ n.fields, f.isComposite = true → f.rule = [] ∧ validatorOf n f = none

/-- The roots of a node that is not the root, or none at the root. -/
def RespelledRoots (root n : Node) (root? root?' : Option Tree) : Prop :=
  (root? = none → n = root) ∧ Option.Rel (RespelledTree root) root? root?'

theorem RespelledRoots.scopeOf {root n : Node} {root? root?' : Option Tree} {t t' : Tree}
    (h : RespelledRoots root n root? root?') (c : Context) (ht : RespelledTree n t t') :
    RespelledScope root n (scopeOf c root? t) (scopeOf c root?' t') := by
  obtain ⟨hroot, hrel⟩ := h
  cases hrel with
  | none =>
    obtain rfl := hroot rfl
    exact ⟨rfl, ht, ht⟩
  | some hrel => exact ⟨rfl, ht, hrel⟩

/-- The watched builders of a node build respelled inputs in step, either of them until it is
    halted. -/
def BuildsRespelled (root n : Node) (halt halt' : Fault) : Prop :=
  ∀ c root? root?' es fs, RespelledRoots root n root? root?' →
    Respelled [.single n] (.map es) (.map fs) →
    Run.InStep (· = halt) (· = halt') (fun p q => p.1 = q.1 ∧ RespelledTree n p.2 q.2)
      (nodeWatcher (spellingWatch root) halt n c root? es)
      (nodeWatcher (spellingWatch root) halt' n c root?' fs)

section Fields

variable {root n : Node} {halt halt' : Fault} {f : Field} {s s' : Scope} {v w : Value}

/-- What is respelled for a field is so for its name. -/
theorem Respelled.at_name (hf : f ∈ n.fields) (h : Respelled [f.child] v w) :
    RespelledAt n f.name v w :=
  h.mono (List.cons_subset.2 ⟨child_mem_childrenAt hf, List.nil_subset _⟩)

theorem respelled_present {failures : List Failure.Entry} (hf : f ∈ n.fields)
    (hvw : Respelled [f.child] v w) (h : failures = [] → v = w) :
    RespelledOutcome n f.name (.present f v failures) (.present f w failures) :=
  ⟨rfl, rfl, .some ⟨h, hvw.at_name hf⟩⟩

theorem checked_of_bare (hrule : f.rule = []) (hvalidator : validatorOf n f = none) (v : Value) :
    checked n f v = pure (v, []) := by
  rw [checked, hrule, Check.runRule]
  simp only [validate, hvalidator]
  rfl

/-- The outcomes of nodes with the same results. -/
theorem respelled_ofNode {m : Node} (hf : f ∈ n.fields) (hc : f.child = .single m) (v w : Value)
    {p q : Result × Tree} (hresult : p.1 = q.1) (htree : RespelledTree m p.2 q.2) :
    RespelledOutcome n f.name (.ofNode f v p) (.ofNode f w q) := by
  have htree := htree.toValue
  rw [← hc] at htree
  have htree := htree.at_name hf
  obtain ⟨result, t⟩ := p
  obtain ⟨_, t'⟩ := q
  obtain rfl : result = _ := hresult
  cases result with
  | ok r => exact ⟨rfl, rfl, .some ⟨fun _ => rfl, htree⟩⟩
  | error p => exact ⟨rfl, rfl, .some ⟨fun h => (by cases h), htree⟩⟩

theorem buildSingle_respelled {m : Node} (hf : f ∈ n.fields) (hc : f.child = .single m)
    (hm : BuildsRespelled root m halt halt') (hs : RespelledScope root n s s')
    (hvw : Respelled [f.child] v w) :
    Run.InStep (· = halt) (· = halt') (RespelledOutcome n f.name)
      (buildSingle (nodeWatcher (spellingWatch root) halt m) f s v)
      (buildSingle (nodeWatcher (spellingWatch root) halt' m) f s' w) := by
  have hmaps : ∀ {es fs : List (Value × Value)}, Respelled [f.child] (.map es) (.map fs) →
      Run.InStep (· = halt) (· = halt') (RespelledOutcome n f.name)
        (buildSingle (nodeWatcher (spellingWatch root) halt m) f s (.map es))
        (buildSingle (nodeWatcher (spellingWatch root) halt' m) f s' (.map fs)) := by
    intro es fs h
    rw [hc] at h
    simp only [buildSingle, ← hs.context]
    refine (hm _ _ _ es fs ⟨fun h => (by cases h), .some hs.root⟩ h).bind fun p q hpq => ?_
    exact .pure (respelled_ofNode hf hc _ _ hpq.1 hpq.2)
  obtain rfl | ⟨es, fs, rfl, rfl⟩ := (hc ▸ hvw).eq_or_maps
  · cases v with
    | map es => exact hmaps hvw
    | _ => exact .pure (respelled_present hf hvw fun _ => rfl)
  · exact hmaps hvw

/-- Respelled lists of maps consist of respelled maps. -/
theorem mapsOf_respelled {m : Node} {vs ws : List Value}
    (h : List.Forall₂ (Respelled [.single m]) vs ws) :
    Option.Rel (List.Forall₂ fun es fs => Respelled [.single m] (.map es) (.map fs))
      (mapsOf vs) (mapsOf ws) := by
  induction h with
  | nil => exact .some .nil
  | @cons v w vs ws hvw _ ih =>
    have hmaps : ∀ {es fs : List (Value × Value)}, Respelled [.single m] (.map es) (.map fs) →
        Option.Rel (List.Forall₂ fun es fs => Respelled [.single m] (.map es) (.map fs))
          (mapsOf (.map es :: vs)) (mapsOf (.map fs :: ws)) := fun h =>
      Run.rel_map ih fun _ _ hrest => .cons h hrest
    obtain rfl | ⟨es, fs, rfl, rfl⟩ := hvw.eq_or_maps
    · cases v with
      | map es => exact hmaps hvw
      | _ => exact .none
    · exact hmaps hvw

theorem mapsOf?_respelled {m : Node} (h : Respelled [.many m] v w) :
    Option.Rel (List.Forall₂ fun es fs => Respelled [.single m] (.map es) (.map fs))
      (mapsOf? v) (mapsOf? w) := by
  have hsame : ∀ vs, List.Forall₂ (Respelled [.single m]) vs vs :=
    fun vs => List.forall₂_same.2 fun v _ => .same _ v
  cases h with
  | same =>
    cases v with
    | list vs => exact mapsOf_respelled (hsame vs)
    | tuple vs => exact mapsOf_respelled (hsame vs)
    | _ => exact .none
  | map hmap => cases hmap
  | list hlength h =>
    exact mapsOf_respelled (List.forall₂_iff_zip.2 ⟨hlength, fun hmem => h _ _ hmem⟩)
  | tuple hlength h =>
    exact mapsOf_respelled (List.forall₂_iff_zip.2 ⟨hlength, fun hmem => h _ _ hmem⟩)

/-- Items with the same results give the same records and failures. -/
theorem ofResults_respelled {m : Node} {ps qs : List (Result × Tree)} (field : String)
    (h : List.Forall₂ (fun p q => p.1 = q.1 ∧ RespelledTree m p.2 q.2) ps qs) (index : Nat) :
    (Items.ofResults field index ps).records = (Items.ofResults field index qs).records ∧
      (Items.ofResults field index ps).failures = (Items.ofResults field index qs).failures ∧
      List.Forall₂ (Respelled [.single m]) (Items.ofResults field index ps).trees
        (Items.ofResults field index qs).trees := by
  induction h generalizing index with
  | nil => exact ⟨rfl, rfl, .nil⟩
  | @cons p q ps qs hpq _ ih =>
    obtain ⟨hrecords, hfailures, htrees⟩ := ih (index + 1)
    obtain ⟨result, t⟩ := p
    obtain ⟨_, t'⟩ := q
    obtain ⟨rfl, htree⟩ : result = _ ∧ RespelledTree m t t' := hpq
    cases result with
    | ok r => exact ⟨congrArg (r :: ·) hrecords, hfailures, .cons htree.toValue htrees⟩
    | error p => exact ⟨hrecords, congrArg (_ :: ·) hfailures, .cons htree.toValue htrees⟩

theorem buildMany_respelled {m : Node} (hf : f ∈ n.fields) (hc : f.child = .many m)
    (hm : BuildsRespelled root m halt halt') (hs : RespelledScope root n s s')
    (hvw : Respelled [f.child] v w) :
    Run.InStep (· = halt) (· = halt') (RespelledOutcome n f.name)
      (buildMany (nodeWatcher (spellingWatch root) halt m) f s v)
      (buildMany (nodeWatcher (spellingWatch root) halt' m) f s' w) := by
  have hrel := mapsOf?_respelled (hc ▸ hvw)
  simp only [buildMany, ← hs.context]
  generalize mapsOf? v = x at hrel
  generalize mapsOf? w = y at hrel
  rcases hrel with hmaps | _
  · refine Run.InStep.bind (Run.InStep.mapM (hmaps.imp fun es fs h =>
      hm _ _ _ es fs ⟨fun h => (by cases h), .some hs.root⟩ h)) fun ps qs hpq => .pure ?_
    obtain ⟨hrecords, hfailures, htrees⟩ := ofResults_respelled f.name hpq 0
    obtain ⟨hlength, htrees⟩ := List.forall₂_iff_zip.1 htrees
    have htrees : Respelled [f.child] (.list (Items.ofResults f.name 0 ps).trees)
        (.list (Items.ofResults f.name 0 qs).trees) := by
      rw [hc]
      exact .list hlength fun _ _ h => htrees h
    refine ⟨hfailures, rfl, .some ⟨fun hclean => ?_, htrees.at_name hf⟩⟩
    have hclean : (Items.ofResults f.name 0 ps).failures = [] := hclean
    simp only [← hfailures, hclean, hrecords, List.isEmpty_nil, if_true]
  · exact .pure (respelled_present hf hvw fun h => (by cases h))

/-- Respelled values of a field have the same outcome. -/
theorem process_respelled (hf : f ∈ n.fields) (hbare : IsBare n)
    (hbelow : ∀ m, f.child.node? = some m → BuildsRespelled root m halt halt')
    (hs : RespelledScope root n s s') (hvw : Respelled [f.child] v w) :
    Run.InStep (· = halt) (· = halt') (RespelledOutcome n f.name)
      (process n f (childWatcher (spellingWatch root) halt f.child) s v)
      (process n f (childWatcher (spellingWatch root) halt' f.child) s' w) := by
  have hbare := hbare f hf
  rw [process, process]
  cases hc : f.child with
  | none =>
    -- What is given for a plain field is the same in both.
    obtain rfl : v = w := hvw.eq_of_plain (by simp [hc, Child.node?])
    refine Run.InStep.bind (asks_checked n f v).isLocal.inStep fun p _ hp => ?_
    subst hp
    have hpresent : ∀ u failures, RespelledOutcome n f.name (.present f u failures)
        (.present f u failures) :=
      fun u failures => respelled_present hf (.same _ u) fun _ => rfl
    dsimp only
    split
    · exact .pure (hpresent _ _)
    · exact .pure (hpresent _ _)
  | single m =>
    obtain ⟨hrule, hvalidator⟩ := hbare (by rw [Field.isComposite, hc]; rfl)
    rw [checked_of_bare hrule hvalidator, checked_of_bare hrule hvalidator]
    exact buildSingle_respelled hf hc (hbelow m (by rw [hc]; rfl)) hs hvw
  | many m =>
    obtain ⟨hrule, hvalidator⟩ := hbare (by rw [Field.isComposite, hc]; rfl)
    rw [checked_of_bare hrule hvalidator, checked_of_bare hrule hvalidator]
    exact buildMany_respelled hf hc (hbelow m (by rw [hc]; rfl)) hs hvw

/-- A field is evaluated alike as long as neither build is halted. -/
theorem watchField_respelled (hf : f ∈ n.fields) (hbare : IsBare n)
    (hbelow : ∀ m, f.child.node? = some m → BuildsRespelled root m halt halt')
    (hs : RespelledScope root n s s') {fills fills' : Fills}
    (hfills : RespelledFills s s' f.name fills fills') :
    Run.InStep (· = halt) (· = halt')
      (fun p q => RespelledOutcome n f.name p.1 q.1 ∧ RespelledFills s s' f.name p.2 q.2)
      (watchField (spellingWatch root) halt n f
        (childWatcher (spellingWatch root) halt f.child) s fills)
      (watchField (spellingWatch root) halt' n f
        (childWatcher (spellingWatch root) halt' f.child) s' fills') := by
  refine .haltIf_left (S := (· = halt)) rfl fun hw => ?_
  refine .haltIf_right (T := (· = halt')) rfl fun hw' => ?_
  rw [spellingWatch, Bool.or_eq_false_iff, Bool.and_eq_false_iff, Bool.or_eq_false_iff,
    isOpen] at hw hw'
  have hblocked := hs.blocked? hw.1 hw'.1
  rw [evaluateField, evaluateField, hblocked]
  rw [hblocked] at hw
  cases hopen : Build.blocked? s' f with
  | error e => exact .throw e
  | ok blocked =>
    cases blocked with
    | some path =>
      refine .pure ⟨?_, hfills⟩
      rw [Run.rel_isSome (hs.sent? f.name)]
      exact ⟨rfl, rfl, .none⟩
    | none =>
      rw [hopen] at hw hw'
      obtain ⟨hsource, hgarbled⟩ := hw.2.resolve_left (by simp [Except.toOption])
      obtain ⟨hsource', hgarbled'⟩ := hw'.2.resolve_left (by simp [Except.toOption])
      refine (hs.fill hfills hsource hsource').bind fun p q hpq => ?_
      obtain ⟨v?, fills⟩ := p
      obtain ⟨w?, fills'⟩ := q
      obtain ⟨hvw, hfills⟩ : Option.Rel (SameOrSent s s' f.name) v? w? ∧ _ := hpq
      rcases hvw with hvw | _
      · exact (process_respelled hf hbare hbelow hs (hs.legible hgarbled hgarbled' hvw)).bind
          fun o o' ho => .pure ⟨ho, hfills⟩
      · exact .pure ⟨⟨rfl, rfl, .none⟩, hfills⟩

end Fields

end Intake.Build
