import Intake.Proofs.Build.Results
import Intake.Proofs.Build.Views
import Intake.Proofs.Build.Within
import Intake.Schema.Keys

/-!
# Refused nodes

What a schema declares and requires tells which nodes of a build are refused, and with which names
(`Refuses`): the names of an input that a closed node does not declare, or else, where a record is
created, the required names that the input does not hold.

* `refusal?_eq_some`: a node is refused as its declared and required names tell, which `Node.keys` and
  `Node.requiredKeys` list (`name_keys`, `requiredKeys_eq`);
* `evaluateNode_of_refuses`, `nodeBuilder_of_refuses`: a refused node asks nothing of any callable
  and leaves its input as it is;
* `mainRefuses_of_evaluateNode`: a node that is not refused fails with names that are unknown or
  missing only where its main validator answers with such a payload.

Together this holds of every node of a build, at any depth (`refusals_foretold`), by following the
report of the build.
-/

namespace Intake.Schema

theorem Key.name_ofBelow (name : String) (below : List (List Key)) :
    (Key.ofBelow name below).name = name := by
  rcases below with _ | ⟨_, _ | ⟨_, _⟩⟩ <;> rfl

theorem Entry.name_key (e : Entry) : e.key.name = e.name := by
  cases e with
  | field f => exact Key.name_ofBelow _ _
  | group g =>
    cases g
    exact Key.name_ofBelow _ _

namespace Node

theorem keys_eq (n : Node) : n.keys = n.entries.map Entry.key := by
  have hkeys : ∀ es, keysOf es = es.map Entry.key := by
    intro es
    induction es with
    | nil => rfl
    | cons e rest ih => rw [keysOf, ih, List.map_cons]
  rw [← hkeys]
  cases n
  rfl

theorem name_keys (n : Node) : n.keys.map Key.name = n.names := by
  rw [keys_eq, List.map_map, names]
  exact List.map_congr_left fun e _ => e.name_key

/-- An entry is required just when its name is. -/
theorem isRequired_iff {n : Node} (hn : n.names.Nodup) {e : Entry} (he : e ∈ n.entries) :
    e.isRequired n.enforce = true ↔ e.name ∈ n.required := by
  rw [required, List.mem_map]
  constructor
  · exact fun h => ⟨e, List.mem_filter.2 ⟨he, h⟩, rfl⟩
  · rintro ⟨e', he', hname⟩
    obtain ⟨hmem, hrequired⟩ := List.mem_filter.1 he'
    rwa [← List.inj_on_of_nodup_map hn hmem he hname]

/-- The keys of what is required are the keys whose names are required. -/
theorem requiredKeys_eq {n : Node} (hn : n.names.Nodup) :
    n.requiredKeys = n.keys.filter fun k => k.name ∈ n.required := by
  rw [requiredKeys, keys_eq, List.filter_map]
  refine congrArg (List.map Entry.key) (List.filter_congr fun e he => ?_)
  rw [Function.comp_apply, e.name_key, Bool.eq_iff_iff, decide_eq_true_iff]
  exact isRequired_iff hn he

end Node

end Intake.Schema

namespace Intake.Build

open Intake.Schema Intake.Failure

/-- The names in a tree that a node does not declare. -/
def undeclared (n : Node) (t : Tree) : List String :=
  t.names.filter (· ∉ n.names)

/-- The names a node requires that are not in a tree. -/
def omitted (n : Node) (t : Tree) : List String :=
  n.required.filter (· ∉ t.names)

/-- A node refuses a tree: it is closed and does not declare all names there, or else a record is to
    be created and required names are missing. -/
inductive Refuses (n : Node) (mode : Mode) (t : Tree) : Payload → Prop
  | unknown (closed : n.closed = true) (some : undeclared n t ≠ []) :
    Refuses n mode t (.authorized (undeclared n t))
  | missing (known : n.closed = true → undeclared n t = []) (create : mode = .create)
    (some : omitted n t ≠ []) : Refuses n mode t (.required (omitted n t))

theorem unknownNames_eq (n : Node) (t : Tree) :
    unknownNames n t = if n.closed then undeclared n t else [] := by
  rw [unknownNames, undeclared]
  simp

theorem missingNames_eq (n : Node) (mode : Mode) (t : Tree) :
    missingNames n mode t = if mode = .create then omitted n t else [] := by
  cases mode with
  | edit => rfl
  | create =>
    rw [if_pos rfl, missingNames, omitted]
    refine List.filter_congr fun x _ => ?_
    rw [Bool.eq_iff_iff, decide_eq_true_iff, Tree.mem_names_iff, Bool.not_eq_true']
    simp

theorem unknownNames_eq_nil {n : Node} {t : Tree} :
    unknownNames n t = [] ↔ (n.closed = true → undeclared n t = []) := by
  rw [unknownNames_eq]
  split <;> simp [*]

theorem missingNames_eq_nil {n : Node} {mode : Mode} {t : Tree} :
    missingNames n mode t = [] ↔ (mode = .create → omitted n t = []) := by
  rw [missingNames_eq]
  split <;> simp [*]

/-- A node is refused just with the payload that it refuses the tree with. -/
theorem refusal?_eq_some {n : Node} {mode : Mode} {t : Tree} {p : Payload} :
    refusal? n mode t = some p ↔ Refuses n mode t p := by
  constructor
  · intro h
    obtain ⟨hne, rfl⟩ | ⟨hknown, hne, rfl⟩ := refusal?_cases h
    · have hnames : ¬(n.closed = true → undeclared n t = []) := mt unknownNames_eq_nil.2 hne
      rw [Classical.not_imp] at hnames
      rw [unknownNames_eq, if_pos hnames.1]
      exact .unknown hnames.1 hnames.2
    · have hnames : ¬(mode = .create → omitted n t = []) := mt missingNames_eq_nil.2 hne
      rw [Classical.not_imp] at hnames
      rw [missingNames_eq, if_pos hnames.1]
      exact .missing (unknownNames_eq_nil.1 hknown) hnames.1 hnames.2
  · intro h
    cases h with
    | unknown closed some =>
      have hunknown : unknownNames n t = undeclared n t := by rw [unknownNames_eq, if_pos closed]
      obtain ⟨x, xs, hcons⟩ := List.exists_cons_of_ne_nil some
      rw [refusal?, hunknown, hcons]
    | missing known create some =>
      have hmissing : missingNames n mode t = omitted n t := by rw [missingNames_eq, if_pos create]
      obtain ⟨x, xs, hcons⟩ := List.exists_cons_of_ne_nil some
      rw [refusal?, unknownNames_eq_nil.2 known, hmissing, hcons]

/-- A refused node answers with its tree as it is, and nothing happens. -/
theorem evaluateNode_of_refuses {n : Node} {c : Context} {t : Tree} {p : Payload}
    (h : Refuses n c.mode t p) (parts : List Part) (root? : Option Tree) (j : Journal) :
    (evaluateNode n parts c root? t).start j = (.ok (.error p, t), j) := by
  rw [evaluateNode, refusal?_eq_some.2 h]
  rfl

/-- A node that fails answers with its payload, or raises it. -/
theorem start_announce_error (n : Node) (c : Context) (p : Payload) (j : Journal) :
    ∃ k, (announce n c (.error p)).start j =
      (if n.raises then .error (.build p n.name) else .ok (), k) ∧ k.calls = j.calls := by
  rw [announce, Run.start_bind]
  obtain ⟨hok, hcalls⟩ :=
    start_trace c "build_failed" [("schema", .text n.name), ("kind", .text p.kind)] j
  rcases htrace : (trace c "build_failed" [("schema", .text n.name), ("kind", .text p.kind)]).start j
    with ⟨_ | _, k⟩
  · rw [htrace] at hok
    cases hok
  · rw [htrace] at hcalls
    cases n.raises with
    | true => exact ⟨_, rfl, hcalls⟩
    | false => exact ⟨k, rfl, hcalls⟩

/-- So does a node that is refused, and no callable is asked. -/
theorem nodeBuilder_of_refuses {n : Node} {c : Context} {input : List (Value × Value)} {t : Tree}
    {p : Payload} (hread : Tree.read input = .ok t) (h : Refuses n c.mode t p)
    (root? : Option Tree) (j : Journal) :
    ∃ k, (nodeBuilder n c root? input).start j =
      (if n.raises then .error (.build p n.name) else .ok (.error p, t), k) ∧
        k.calls = j.calls := by
  rw [nodeBuilder_eq_buildWith, buildWith, hread]
  obtain ⟨hok, hcalls⟩ :=
    start_trace c "build_started" [("schema", .text n.name), ("mode", .text c.mode.name)] j
  rcases htrace : (trace c "build_started"
    [("schema", .text n.name), ("mode", .text c.mode.name)]).start j with ⟨_ | _, i⟩
  · rw [htrace] at hok
    cases hok
  · rw [htrace] at hcalls
    obtain ⟨k, hannounce, hk⟩ := start_announce_error n c p i
    refine ⟨k, ?_, hk.trans hcalls⟩
    rw [Run.start_bind, Run.start_ofExcept]
    dsimp only
    rw [Run.start_bind, htrace]
    dsimp only
    rw [Run.start_bind, evaluateNode_of_refuses h]
    dsimp only
    rw [Run.start_bind, hannounce]
    cases n.raises <;> rfl

/-- The payload of a node that was not refused is made of its failures, or it is the answer of the
    main validator. -/
theorem settle_error {n : Node} {os : Outcomes} {rejected : List (List Failure.Entry)}
    {p : Payload} {j k : Journal} (h : (settle n os rejected).start j = (.ok (.error p), k)) :
    aggregate (failuresOf n os rejected) = some p ∨
      (runMain n (valuesOf n os)).start j = (.ok (.error p), k) := by
  unfold settle at h
  dsimp only at h
  split at h
  · next q hsome =>
    cases h
    exact .inl hsome
  · rw [Run.start_bind_eq_ok] at h
    obtain ⟨q | values, i, hmain, h⟩ := h
    · cases h
      exact .inr hmain
    · simp only [Run.start_bind_eq_ok, Run.start_pure] at h
      obtain ⟨_, _, -, heq⟩ := h
      cases heq

/-- The main validator was asked last, and replied with the payload. -/
def MainRefuses (n : Node) (p : Payload) (k : Journal) : Prop :=
  ∃ f values, n.main = some (.call f) ∧ f values = .ok (.refused p) ∧
    k.calls.getLast? = some (.main values)

theorem mainRefuses_of_runMain {n : Node} {values : Tree} {p : Payload} {j k : Journal}
    (h : (runMain n values).start j = (.ok (.error p), k)) (hp : p.shortCircuits = true) :
    MainRefuses n p k := by
  unfold runMain at h
  split at h
  · cases h
  · cases h
  · next f hmain =>
    simp only [Run.start_bind_eq_ok] at h
    obtain ⟨_, _, hcall, r, _, hreply, hanswer⟩ := h
    cases hcall
    cases hf : f values.toValue with
    | error message =>
      rw [hf] at hreply
      cases hreply
    | ok answer =>
      rw [hf] at hreply
      cases hreply
      obtain ⟨hanswer, rfl⟩ := Run.start_ofExcept_eq_ok.1 hanswer
      -- A message is made an entry, so that the payload is the reply itself.
      unfold mainAnswer at hanswer
      split at hanswer <;> cases hanswer
      · cases hp
      · exact ⟨f, values.toValue, hmain, hf, List.getLast?_concat⟩

/-- A payload of names that a node settles for is the answer of its main validator. -/
theorem mainRefuses_of_settle {n : Node} {os : Outcomes} {rejected : List (List Failure.Entry)}
    {p : Payload} {j k : Journal} (h : (settle n os rejected).start j = (.ok (.error p), k))
    (hp : p.shortCircuits = true) : MainRefuses n p k := by
  obtain haggregate | hmain := settle_error h
  · -- A payload of failures has entries.
    have hentries := (aggregate_eq_some haggregate).1
    cases p <;> cases hp <;> cases hentries
  · exact mainRefuses_of_runMain hmain hp

theorem mainRefuses_of_evaluateNode {n : Node} {parts : List Part} {c : Context}
    {root? : Option Tree} {t tree : Tree} {p : Payload} {j k : Journal}
    (hadmitted : ∀ q, ¬Refuses n c.mode t q)
    (h : (evaluateNode n parts c root? t).start j = (.ok (.error p, tree), k))
    (hp : p.shortCircuits = true) : MainRefuses n p k := by
  have hrefusal : refusal? n c.mode t = none := by
    rw [Option.eq_none_iff_forall_ne_some]
    exact fun q hq => hadmitted q (refusal?_eq_some.1 hq)
  rw [evaluateNode, hrefusal] at h
  simp only [Run.start_bind_eq_ok, Run.start_pure] at h
  obtain ⟨_, _, -, _, _, -, _, _, hsettle, heq⟩ := h
  cases heq
  exact mainRefuses_of_settle hsettle hp

/-! ### The nodes of a build -/

/-- What is foretold of a node that was built: where it refuses its input, it failed with just this
    payload, and before any of its entries was looked at. Elsewhere names are its failure only if
    its main validator replied with them. -/
structure Report.Foretold (mode : Mode) (q : Report) : Prop where
  refused : ∀ p, Refuses q.node mode q.input p →
    q.result = .error p ∧ q.tree = q.input ∧ q.steps = []
  admitted : (∀ p, ¬Refuses q.node mode q.input p) → ∀ p, q.result = .error p →
    p.shortCircuits = true → ∃ k, MainRefuses q.node p k

theorem Reported.foretold {n : Node} {c : Context} {root? : Option Tree}
    {input : List (Value × Value)} {q : Report} (h : Reported n c root? input q) :
    q.Foretold c.mode := by
  obtain ⟨rfl, -, ⟨p, hrefusal, hq⟩ | ⟨hrefusal, hevaluated⟩⟩ := h.cases
  · constructor
    · intro p' hp'
      rw [← refusal?_eq_some, hrefusal] at hp'
      cases hp'
      rw [hq]
      exact ⟨rfl, rfl, rfl⟩
    · exact fun hadmitted => absurd (refusal?_eq_some.1 hrefusal) (hadmitted p)
  · constructor
    · intro p hp
      rw [← refusal?_eq_some, hrefusal] at hp
      cases hp
    · intro _ p hp hkind
      obtain ⟨_, k, hsettle⟩ := hevaluated.result
      rw [hp] at hsettle
      exact ⟨k, mainRefuses_of_settle hsettle hkind⟩

/-- At every node of a schema, what it declares and requires foretells whether it is refused. A node
    that refuses the tree of its input answers with the names, or raises them, asks no callable, and
    leaves the tree as it is. One that does not refuse it has such a payload only from its main
    validator. This is so for all nodes of a build that answers. The keys of what a node requires are
    those of all it declares, but for the names that are not required. -/
theorem refusals_foretold {n : Node} (hn : n.WellFormed) :
    (∀ m, n.Spans m →
      (∀ c root? input t p, Tree.read input = .ok t → Refuses m c.mode t p → ∀ j,
        ∃ k, (nodeBuilder m c root? input).start j =
          (if m.raises then .error (.build p m.name) else .ok (.error p, t), k) ∧
            k.calls = j.calls) ∧
      (∀ c root? t, (∀ q, ¬Refuses m c.mode t q) → ∀ j p tree k,
        (evaluateNode m (partsOf m m.entries) c root? t).start j = (.ok (.error p, tree), k) →
          p.shortCircuits = true → MainRefuses m p k) ∧
      m.keys.map Key.name = m.names ∧
      m.requiredKeys = m.keys.filter fun k => k.name ∈ m.required) ∧
    ∀ c input result tree j k, (build n c (.map input)).start j = (.ok (result, tree), k) →
      ∃ r, (nodeReport n c none input).start j = (.ok r, k) ∧ r.result = result ∧
        some r.tree = tree ∧ ∀ above q, r.Builds above q → n.Spans q.node ∧ q.Foretold c.mode := by
  refine ⟨fun m hm => ⟨?_, ?_, m.name_keys, Node.requiredKeys_eq (hn m hm).nodup⟩, ?_⟩
  · exact fun c root? input t p hread h j => nodeBuilder_of_refuses hread h root? j
  · exact fun c root? t hadmitted j p tree k h hp => mainRefuses_of_evaluateNode hadmitted h hp
  · intro c input result tree j k h
    obtain ⟨r, hrun, hresult, htree⟩ := exists_reported_of_build h
    refine ⟨r, hrun, hresult, htree, fun above q hq => ?_⟩
    obtain ⟨m, hm, _, _, hreported, -⟩ := hq.reported hn ⟨_, _, hrun⟩
    exact ⟨hreported.node ▸ hm, hreported.foretold⟩

/-- A guest: a name, and nothing else. -/
def guest : Node :=
  { plainNode "Guest" [.field { plainField "name" with enforce := some true }] with
    closed := true }

/-- A reservation is made for a guest. -/
def reservation : Node :=
  plainNode "Reservation" [.field { plainField "guest" with child := .single guest }]

theorem reservation_wellFormed : reservation.WellFormed :=
  Node.forall_spans_of_child rfl rfl
    ⟨by decide, by simp [reservation, plainNode, Entry.fields, Entry.name]⟩
    ⟨by decide, by simp [guest, plainNode, Entry.fields, Entry.name]⟩

theorem guest_refused :
    reservation.WellFormed ∧
    (∃ k, (nodeBuilder guest ⟨.edit, false⟩ (some []) [(.text "nick", .text "ann")]).start
        .empty = (.ok (.error (.authorized ["nick"]), [("nick", .text "ann")]), k) ∧
      k.calls = []) ∧
    (∃ k, (nodeBuilder guest ⟨.create, false⟩ (some []) []).start .empty =
        (.ok (.error (.required ["name"]), []), k) ∧ k.calls = []) := by
  have hspans : reservation.Spans guest :=
    .child (Node.mem_fields List.mem_cons_self List.mem_cons_self) rfl (.self _)
  obtain ⟨hrefused, -⟩ := (refusals_foretold reservation_wellFormed).1 guest hspans
  have hunknown : Refuses guest .edit [("nick", .text "ann")] (.authorized ["nick"]) :=
    .unknown rfl (by decide)
  have hmissing : Refuses guest .create [] (.required ["name"]) :=
    .missing (fun _ => rfl) rfl (by decide)
  exact ⟨reservation_wellFormed, hrefused _ _ _ _ _ rfl hunknown .empty,
    hrefused _ _ _ _ _ rfl hmissing .empty⟩

end Intake.Build
