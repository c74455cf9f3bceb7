import Intake.Proofs.Build.Editing
import Intake.Proofs.Build.Gates
import Intake.Proofs.Build.Modes
import Intake.Proofs.Build.Rearranging
import Intake.Proofs.Build.Results
import Intake.Proofs.Build.SpelledFields

/-!
# Builds of respelled inputs

Inputs that differ in the spelling of keys only are built alike (`build_respelled`), if in neither
build a path is looked up that is obscured by the spelling, nor a candidate evaluated for which what
was sent is garbled by it.

The entries of a node are evaluated one after the other. What was sent for those that are left is
respelled, and so is what the others have resolved to; the evaluation of an entry keeps this
(`evaluateParts_respelled`). The outcomes have the same failures, so that both nodes fail with the
same payload, or they have the same values, and both nodes have the same record
(`settle_respelled`).

Inputs whose keys also stand in another order are built alike up to this order.
-/

namespace Intake.Build

open Intake.Schema Intake.Failure

open Likeness (alike)

/-! ### Nodes -/

section Nodes

variable {root n : Node} {halt halt' : Fault} {s s' : Scope}

/-- Entries are evaluated alike, one after the other. -/
theorem evaluateParts_respelled {es : List Schema.Entry}
    {evaluate evaluate' : Schema.Entry → EntryEvaluator}
    (h : ∀ e ∈ es, ∀ s s', RespelledScope root n s s' →
      Run.InStep (· = halt) (· = halt') (RespelledOutcome n e.name) (evaluate e s) (evaluate' e s'))
    (c : Context) {root? root?' : Option Tree} (hroots : RespelledRoots root n root? root?')
    {t t' : Tree} (ht : RespelledTree n t t') :
    Run.InStep (· = halt) (· = halt')
      (fun p q => Named (RespelledOutcome n) p.1 q.1 ∧ RespelledTree n p.2 q.2)
      (evaluateParts c root? (es.map fun e => (e, evaluate e)) t)
      (evaluateParts c root?' (es.map fun e => (e, evaluate' e)) t') := by
  refine evaluateParts_compared (.inStep (· = halt) (· = halt')) (R := RespelledOutcome n)
    ?_ (fun e he t t' ht => h e he _ _ (hroots.scopeOf c ht)) ht
  exact fun name o o' t t' ho ht =>
    Outcome.resolve_related ho.resolved ht fun r r' hr => ht.put hr.2

/-- The outcome of an entry among those of its node. -/
theorem respelledOutcome_of {os os' : Outcomes} (h : Named (RespelledOutcome n) os os')
    (e : Schema.Entry) : RespelledOutcome n e.name (os.of e) (os'.of e) :=
  Run.rel_getD (h.lookup e.name) ⟨rfl, rfl, .none⟩

theorem watchRejections_respelled (hs : RespelledScope root n s s') {os os' : Outcomes}
    (hos : Named (RespelledOutcome n) os os') (e : Schema.Entry) :
    Run.InStep (· = halt) (· = halt') Eq (watchRejections (spellingWatch root) halt n s os e)
      (watchRejections (spellingWatch root) halt' n s' os' e) := by
  refine .haltIf_left (S := (· = halt)) rfl fun hw => ?_
  refine .haltIf_right (T := (· = halt')) rfl fun hw' => ?_
  have ho := respelledOutcome_of hos e
  have hclauses : ∀ cs : List Domain.Clause,
      (∀ c ∈ cs, ∀ path ∈ pathsOf s c, isObscured isSpelledOut root n s path = false) →
      (∀ c ∈ cs, ∀ path ∈ pathsOf s' c, isObscured isSpelledOut root n s' path = false) →
      Domain.evaluate n.functions s.lookup e.name cs =
        Domain.evaluate n.functions s'.lookup e.name cs := by
    intro cs hcs hcs'
    induction cs with
    | nil => rfl
    | cons c rest ih =>
      rw [List.forall_mem_cons] at hcs hcs'
      rw [Domain.evaluate, Domain.evaluate, hs.evaluateClause hcs.1 hcs'.1 _ _, ih hcs.2 hcs'.2]
  simp only [spellingWatch, List.any_eq_false, Bool.not_eq_true] at hw hw'
  have hsame : rejectionsOf n s os e = rejectionsOf n s' os' e := by
    rw [rejectionsOf, rejectionsOf, ← Run.rel_isSome ho.resolved, ← ho.clauses,
      hclauses _ hw (ho.clauses ▸ hw')]
  rw [hsame]
  exact (asks_rejections n s' os' e).isLocal.inStep

/-- Outcomes without failures settle a node with the same record, and with failures with the same
    payload. -/
theorem settle_respelled {os os' : Outcomes} (hos : Named (RespelledOutcome n) os os')
    (rejected : List (List Failure.Entry)) : settle n os rejected = settle n os' rejected := by
  have ho := respelledOutcome_of hos
  have hfailures : (n.entries.flatMap fun e => (os.of e).failures) =
      n.entries.flatMap fun e => (os'.of e).failures :=
    congrArg (List.flatMap · n.entries) (funext fun e => (ho e).failures)
  simp only [settle, hfailures]
  cases hp : aggregate ((n.entries.flatMap fun e => (os'.of e).failures) ++ rejected.flatten) with
  | some p => rfl
  | none =>
    have hclean := (List.append_eq_nil_iff.1 (aggregate_eq_none hp)).1
    rw [← hfailures, List.flatMap_eq_nil_iff] at hclean
    have hvalues : valuesOf n os = valuesOf n os' := by
      refine List.map_congr_left fun e he => ?_
      have hresolved := (ho e).resolved
      generalize (os.of e).resolved = x at hresolved ⊢
      generalize (os'.of e).resolved = y at hresolved ⊢
      rcases hresolved with hr | _
      · rw [Option.map_some, Option.map_some, hr.1 (hclean e he)]
      · rfl
    rw [hvalues]

/-- A node is refused for its names. -/
theorem refusal?_of_names {t t' : Tree} (h : t.names = t'.names) (mode : Mode) :
    refusal? n mode t = refusal? n mode t' := by
  have hhas : ∀ name, t.has name = t'.has name := fun name => by
    rw [Bool.eq_iff_iff, ← Tree.mem_names_iff, ← Tree.mem_names_iff, h]
  simp only [refusal?, unknownNames, missingNames, h, hhas]

theorem watchNode_respelled {evaluate evaluate' : Schema.Entry → EntryEvaluator}
    (h : ∀ e ∈ n.entries, ∀ s s', RespelledScope root n s s' →
      Run.InStep (· = halt) (· = halt') (RespelledOutcome n e.name) (evaluate e s) (evaluate' e s'))
    (c : Context) {root? root?' : Option Tree} (hroots : RespelledRoots root n root? root?')
    {t t' : Tree} (ht : RespelledTree n t t') :
    Run.InStep (· = halt) (· = halt') (fun p q => p.1 = q.1 ∧ RespelledTree n p.2 q.2)
      (watchNode (spellingWatch root) halt n (n.entries.map fun e => (e, evaluate e)) c root? t)
      (watchNode (spellingWatch root) halt' n (n.entries.map fun e => (e, evaluate' e)) c root?'
        t') := by
  have hatRoot : root?.isNone = root?'.isNone := by
    rw [← Option.not_isSome, ← Option.not_isSome, Run.rel_isSome hroots.2]
  refine .haltIf_left (S := (· = halt)) rfl fun _ => ?_
  refine .haltIf_right (T := (· = halt')) rfl fun _ => ?_
  rw [refusal?_of_names ht.names_eq]
  cases refusal? n c.mode t' with
  | some p => exact .pure ⟨rfl, ht⟩
  | none =>
    dsimp only
    rw [orderedParts, orderedParts, Slot.arrange_map, Slot.arrange_map, hatRoot]
    refine (evaluateParts_respelled (fun e he => h e (Node.mem_evaluationOrder.1 he)) c hroots
      ht).bind fun p q hpq => ?_
    have hscope := hroots.scopeOf c hpq.2
    refine Run.InStep.bind ((Run.InStep.mapM (List.forall₂_same.2 fun e _ =>
      watchRejections_respelled hscope hpq.1 e))) fun es fs hes => ?_
    rw [List.forall₂_eq_eq_eq] at hes
    subst hes
    rw [settle_respelled hpq.1]
    exact Run.InStep.bind (asks_settle n q.1 es).isLocal.inStep fun r _ hr => .pure ⟨hr, hpq.2⟩

/-- Respelled inputs of a node are built in step. -/
theorem nodeWatcher_respelled (n : Node) :
    n.WellFormed → (∀ m, n.Spans m → IsBare m) → BuildsRespelled root n halt halt' := by
  induction n using Node.below_induction with
  | h n ih =>
    intro hn hbare c root? root?' es fs hroots h
    -- The nodes below the fields are built in step by induction, and with them the entries.
    have hentries : ∀ e ∈ n.entries, ∀ s s', RespelledScope root n s s' →
        Run.InStep (· = halt) (· = halt') (RespelledOutcome n e.name)
          (entryWatcher (spellingWatch root) halt n e s)
          (entryWatcher (spellingWatch root) halt' n e s') := by
      intro e he s s' hs
      rw [entryWatcher_eq, entryWatcher_eq]
      refine evaluateCandidates_compared (.inStep (· = halt) (· = halt'))
        (R := RespelledOutcome n e.name) (P := RespelledFills s s' e.name) ⟨rfl, rfl, .none⟩
        (fun _ _ ho => congrArg List.isEmpty ho.failures) ?_ .nil
      rw [List.forall₂_map_left_iff, List.forall₂_map_right_iff, List.forall₂_same]
      intro f hf fills fills' hfills
      rw [fieldWatcher_eq, fieldWatcher_eq]
      have hmem := Node.mem_fields he hf
      rw [← hn.proper.name_of_mem e he f hf] at hfills ⊢
      exact watchField_respelled hmem (hbare n (.self n)) (fun m hm => ih f hmem m hm
        (hn.child hmem hm) fun k hk => hbare k (.child hmem hm hk)) hs hfills
    rw [nodeWatcher_eq, nodeWatcher_eq, watchWith, watchWith]
    refine Run.InStep.bind (.ofExcept h.read) fun t t' ht => ?_
    refine (trace_inStep c c _ _ _ _).bind fun _ _ _ => ?_
    refine (watchNode_respelled hentries c hroots ht).bind fun p q hpq => ?_
    obtain ⟨result, tree⟩ := p
    obtain ⟨_, tree'⟩ := q
    obtain ⟨rfl, htree⟩ : result = _ ∧ RespelledTree n tree tree' := hpq
    exact (announce_inStep n c c result).bind fun _ _ _ => .pure ⟨rfl, htree⟩

/-- Respelled inputs are built in step, either of them until it is halted. -/
theorem watchedBuild_respelled (hn : n.WellFormed) (hbare : ∀ m, n.Spans m → IsBare m) (c : Context)
    {v w : Value} (h : Respelled [.single n] v w) :
    Run.InStep (· = halt) (· = halt') (fun p q => p.1 = q.1)
      (watchedBuild (spellingWatch n) halt n c v) (watchedBuild (spellingWatch n) halt' n c w) := by
  have hmaps : ∀ {es fs : List (Value × Value)}, Respelled [.single n] (.map es) (.map fs) →
      Run.InStep (· = halt) (· = halt') (fun p q => p.1 = q.1)
        (watchedBuild (spellingWatch n) halt n c (.map es))
        (watchedBuild (spellingWatch n) halt' n c (.map fs)) := fun h =>
    (nodeWatcher_respelled n hn hbare c none none _ _ ⟨fun _ => rfl, .none⟩ h).bind
      fun p q hpq => .pure hpq.1
  obtain rfl | ⟨es, fs, rfl, rfl⟩ := h.eq_or_maps
  · cases v with
    | map es => exact hmaps h
    | _ =>
      simp only [watchedBuild, build]
      split
      · exact (raisePayload_inStep _ n.name).imp fun _ _ hpq => congrArg Prod.fst hpq
      · exact .pure rfl
  · exact hmaps h

end Nodes

/-- Respelled inputs have the same record, the same payload or the same fault, after the same calls,
    if in neither build a path is looked up that leads through a map for a node with other keys than
    texts, or to a value in which there is one, and no candidate is given such a map that is not for a
    node below it. An input in which the keys stand in another order has an alike record or an alike
    payload, or ends in a fault as well, if what the user supplies does not depend on the order. -/
theorem build_respelled {n : Node} (hn : n.WellFormed) (hbare : ∀ m, n.Spans m → IsBare m)
    (c : Context) {v w : Value} (h : Respelled [.single n] v w) {j k : Journal}
    (hcalls : j.calls = k.calls) (hv : (spellingWatch n).Quiet n c v j)
    (hw : (spellingWatch n).Quiet n c w k) :
    ((build n c w).start k).1.map Prod.fst = ((build n c v).start j).1.map Prod.fst ∧
      ((build n c w).start k).2.calls = ((build n c v).start j).2.calls ∧
      ∀ u, w.Alike u → (∀ m, n.Spans m → IsInsensitive m) → ∀ l,
        Run.Matched alike.Result (((build n c v).start j).1.map Prod.fst)
          (((build n c u).start l).1.map Prod.fst) := by
  obtain ⟨halt, hhalt⟩ := hv
  obtain ⟨halt', hhalt'⟩ := hw
  -- Neither build is halted, and both are in step.
  have hstep : Run.InStep (· = halt) (· = halt') (fun p q => p.1 = q.1)
      (watchedBuild (spellingWatch n) halt n c v) (watchedBuild (spellingWatch n) halt' n c w) :=
    watchedBuild_respelled hn hbare c h
  obtain ⟨hend, hrest⟩ := ((hstep j k hcalls).resolve_left
    (Run.not_halts_of_ne hhalt)).resolve_left (Run.not_halts_of_ne hhalt')
  have hplain : _ = ((build n c v).start j).1 ∧ _ = ((build n c v).start j).2.calls :=
    watchedBuild_end hhalt (fun m _ t => .inl rfl) rfl
  have hplain' : _ = ((build n c w).start k).1 ∧ _ = ((build n c w).start k).2.calls :=
    watchedBuild_end hhalt' (fun m _ t => .inl rfl) rfl
  rw [hplain.1, hplain'.1] at hend
  rw [hplain.2, hplain'.2] at hrest
  refine ⟨hend.map_eq.symm, hrest.symm, fun u hwu hinsensitive l => ?_⟩
  rw [hend.map_eq]
  exact (build_alike hn hinsensitive c hwu k l).map fun _ _ hresult => hresult

/-! ### A login with a profile -/

/-- A profile has a name. -/
def nameProfile : Node :=
  plainNode "Profile" [.field (plainField "name")]

/-- A login: a token, which needs the name of the profile, the profile, and the device. -/
def profiledLogin : Node :=
  plainNode "Login"
    [.field { plainField "token" with gate := some "profile.name" },
     .field { plainField "profile" with child := .single nameProfile },
     .field { plainField "device" with child := .single nameProfile }]

/-- A key that is a member of an enumeration, for a name. -/
def symbolKey (name : String) : Value :=
  .symbol "Key" name.toUpper (.text name)

/-- What is sent for a login, with keys for the names, and those of the profile by themselves. -/
def profiledEntries (key profileKey : String → Value) : List (Value × Value) :=
  [(key "token", .text "t"), (key "profile", .map [(profileKey "name", .text "bob")]),
    (key "device", .map [(key "name", .text "phone")])]

/-- A login. -/
def profiledInput (key profileKey : String → Value) : Value :=
  .map (profiledEntries key profileKey)

theorem profiledLogin_forall {P : Node → Prop} (h : P profiledLogin) (hprofile : P nameProfile) :
    ∀ m, profiledLogin.Spans m → P m := by
  refine Node.forall_spans_of_leaves ?_ h ?_
  · exact List.forall_mem_cons.2 ⟨rfl, List.forall_mem_singleton.2 rfl⟩
  · exact List.forall_mem_cons.2 ⟨hprofile, List.forall_mem_singleton.2 hprofile⟩

theorem profiledLogin_wellFormed : profiledLogin.WellFormed :=
  profiledLogin_forall ⟨by decide, by simp [profiledLogin, plainNode, Entry.fields, Entry.name]⟩
    ⟨by decide, by simp [nameProfile, plainNode, Entry.fields, Entry.name]⟩

theorem profiledLogin_bare : ∀ m, profiledLogin.Spans m → IsBare m := by
  refine profiledLogin_forall (fun f hf hcomposite => ?_) fun f hf hcomposite => ?_
  · simp only [profiledLogin, plainNode, Node.fields, Entry.fields, List.flatMap_cons,
      List.flatMap_nil, List.cons_append, List.nil_append, List.mem_cons, List.not_mem_nil,
      or_false] at hf
    rcases hf with rfl | rfl | rfl <;> exact ⟨rfl, rfl⟩
  · obtain rfl := List.mem_singleton.1 hf
    cases hcomposite

/-- A key for each name. -/
def Spells (key : String → Value) : Prop :=
  ∀ name, Tree.nameOf (key name) = name ∧ (key name).isTooLong = false

theorem text_spells : Spells .text :=
  fun _ => ⟨rfl, rfl⟩

theorem symbolKey_spells : Spells symbolKey :=
  fun _ => ⟨rfl, rfl⟩

/-- The inputs of a login are respelled whichever keys they use for the names. -/
theorem profiledInput_respelled {k k' l l' : String → Value} (hk : Spells k) (hk' : Spells k')
    (hl : Spells l) (hl' : Spells l') :
    Respelled [.single profiledLogin] (profiledInput k l) (profiledInput k' l') := by
  have hprofile : ∀ {name x : String} {k k' : String → Value} (v : Value), Spells k → Spells k' →
      childrenAt profiledLogin name = [.single nameProfile] →
      RespelledAt profiledLogin name (.map [(k x, v)]) (.map [(k' x, v)]) := by
    intro name x k k' v hk hk' hbelow
    rw [RespelledAt, hbelow]
    refine .of_forall₂ (by simp [Writable, (hk x).2]) (by simp [Writable, (hk' x).2])
      (.cons ⟨?_, .same _ v⟩ .nil)
    rw [(hk x).1, (hk' x).1]
  refine .of_forall₂ (by simp [Writable, profiledEntries, (hk _).2])
    (by simp [Writable, profiledEntries, (hk' _).2]) (.cons ⟨?_, .same _ _⟩
      (.cons ⟨?_, hprofile _ hl hl' ?_⟩ (.cons ⟨?_, hprofile _ hk hk' ?_⟩ .nil)))
  all_goals rw [(hk _).1]
  · rw [(hk' _).1]
  · rw [(hk' _).1]
  · rfl
  · rw [(hk' _).1]
  · rfl

/-- The names of a login may stand in the other order. -/
theorem profiledInput_alike {k : String → Value} (hk : Spells k) (l : String → Value) :
    (profiledInput k l).Alike (.map (profiledEntries k l).reverse) := by
  refine .map (Value.paired_alike_refl _) (.of_perm (List.reverse_perm _).symm ?_)
  simp [profiledEntries, (hk _).1]

theorem profiledLogin_insensitive : ∀ m, profiledLogin.Spans m → IsInsensitive m := by
  refine profiledLogin_forall (isInsensitive_of_unsupplied rfl rfl rfl ?_)
    (isInsensitive_of_unsupplied rfl rfl rfl ?_)
  all_goals simp [profiledLogin, nameProfile, plainNode, plainField, Node.fields, Entry.fields]

theorem subscription_bare : ∀ m, subscription.Spans m → IsBare m := by
  refine Node.forall_spans_of_child rfl rfl (fun f hf hcomposite => ?_) fun f hf hcomposite => ?_
  · rcases List.mem_pair.1 hf with rfl | rfl
    · exact ⟨rfl, rfl⟩
    · cases hcomposite
  · rcases List.mem_pair.1 hf with rfl | rfl
    · cases hcomposite
    · cases hcomposite

/-- A plan of one month, without a card, with a key for the month. -/
def monthPlan (key : String → Value) : Value :=
  .map [(key "months", .text "1")]

/-- The inputs of a subscription are respelled whichever key they use in the plan. -/
theorem monthPlan_respelled {k k' : String → Value} (hk : Spells k) (hk' : Spells k') :
    Respelled [.single subscription] (.map [(.text "plan", monthPlan k)])
      (.map [(.text "plan", monthPlan k')]) := by
  refine .of_forall₂ (by simp [Writable, Value.isTooLong]) (by simp [Writable, Value.isTooLong])
    (.cons ⟨rfl, .map rfl ?_ ?_ ?_ ?_⟩ .nil)
  · simp [Writable, (hk _).2]
  · simp [Writable, (hk' _).2]
  · simp [namesOf, (hk _).1, (hk' _).1]
  · intro e e' hmem
    obtain ⟨rfl, rfl⟩ : e = _ ∧ e' = _ := Prod.mk.inj (List.mem_singleton.1 hmem)
    exact .same _ _

/-- A path through a map whose keys are no names yet finds nothing behind them: the token is refused
    though there is a name, which it is not when the key is a text. The names that a closed node
    refuses are told in the order in which they were sent. And a candidate without a node below it
    takes the map of another one as it was sent. -/
theorem respelled_not_alike :
    profiledLogin.WellFormed ∧ (∀ m, profiledLogin.Spans m → IsBare m) ∧
      Respelled [.single profiledLogin] (profiledInput .text symbolKey)
        (profiledInput .text .text) ∧
      refusedGates ((build profiledLogin ⟨.create, false⟩
        (profiledInput .text symbolKey)).start .empty).1 = [("token", "profile.name")] ∧
      isAccepted ((build profiledLogin ⟨.create, false⟩
        (profiledInput .text .text)).start .empty).1 = true ∧
      payloadOf? ((build { nameProfile with closed := true } ⟨.create, false⟩
        (.map [(.text "a", .null), (.text "b", .null)])).start .empty).1 =
          some (.authorized ["a", "b"]) ∧
      payloadOf? ((build { nameProfile with closed := true } ⟨.create, false⟩
        (.map [(.text "b", .null), (.text "a", .null)])).start .empty).1 =
          some (.authorized ["b", "a"]) ∧
      subscription.WellFormed ∧ (∀ m, subscription.Spans m → IsBare m) ∧
      Respelled [.single subscription] (.map [(.text "plan", monthPlan symbolKey)])
        (.map [(.text "plan", monthPlan .text)]) ∧
      ((build subscription ⟨.create, false⟩ (.map [(.text "plan", monthPlan symbolKey)])).start
          .empty).1.map Prod.fst =
        .ok (.ok (.record "Subscription" [("plan", monthPlan symbolKey)])) ∧
      ((build subscription ⟨.create, false⟩ (.map [(.text "plan", monthPlan .text)])).start
          .empty).1.map Prod.fst =
        .ok (.ok (.record "Subscription" [("plan", monthPlan .text)])) :=
  ⟨profiledLogin_wellFormed, profiledLogin_bare,
    profiledInput_respelled text_spells text_spells symbolKey_spells text_spells,
    by decide +kernel, by decide +kernel, rfl, rfl,
    subscription_wellFormed, subscription_bare, monthPlan_respelled symbolKey_spells text_spells,
    rfl, rfl⟩

section

-- Two closed builds are compared, which are not to be run when the comparison is looked at.
attribute [local irreducible] Run.Matched

/-- The name of the profile is found under a text, whatever the other keys are, and in whatever
    order. -/
theorem profiledLogin_respelled :
    Respelled [.single profiledLogin] (profiledInput .text .text)
        (profiledInput symbolKey .text) ∧
      (spellingWatch profiledLogin).Quiet profiledLogin ⟨.create, false⟩
        (profiledInput .text .text) .empty ∧
      (spellingWatch profiledLogin).Quiet profiledLogin ⟨.create, false⟩
        (profiledInput symbolKey .text) .empty ∧
      isAccepted ((build profiledLogin ⟨.create, false⟩
        (profiledInput .text .text)).start .empty).1 = true ∧
      ((build profiledLogin ⟨.create, false⟩
          (profiledInput symbolKey .text)).start .empty).1.map Prod.fst =
        ((build profiledLogin ⟨.create, false⟩
          (profiledInput .text .text)).start .empty).1.map Prod.fst ∧
      Run.Matched alike.Result
        (((build profiledLogin ⟨.create, false⟩
          (profiledInput .text .text)).start .empty).1.map Prod.fst)
        (((build profiledLogin ⟨.create, false⟩
          (.map (profiledEntries symbolKey .text).reverse)).start .empty).1.map Prod.fst) := by
  have hrespelled : Respelled [.single profiledLogin] (profiledInput .text .text)
      (profiledInput symbolKey .text) :=
    profiledInput_respelled text_spells symbolKey_spells text_spells text_spells
  -- No fault halts the watched build, as it ends with none.
  have hquiet : ∀ input, ((watchedBuild (spellingWatch profiledLogin) .longInteger profiledLogin
      ⟨.create, false⟩ input).start .empty).1.isOk = true →
      (spellingWatch profiledLogin).Quiet profiledLogin ⟨.create, false⟩ input .empty := by
    intro input hok
    refine ⟨.longInteger, fun h => ?_⟩
    rw [h] at hok
    cases hok
  have htext := hquiet (profiledInput .text .text) (by decide +kernel)
  have hsymbol := hquiet (profiledInput symbolKey .text) (by decide +kernel)
  obtain ⟨hsame, -, horder⟩ := build_respelled profiledLogin_wellFormed profiledLogin_bare
    ⟨.create, false⟩ hrespelled rfl htext hsymbol
  exact ⟨hrespelled, htext, hsymbol, by decide +kernel, hsame, horder _
    (profiledInput_alike symbolKey_spells .text) profiledLogin_insensitive .empty⟩

end

end Intake.Build
