import Intake.Proofs.Build.Comparison
import Intake.Proofs.Build.Report
import Intake.Proofs.Domain
import Intake.Proofs.Within

/-!
# Evaluations in alike scopes

The evaluation of a field reads little of its scope: whether its gate is open, what it is given, and
whether something was sent for it. In scopes where these are alike (`ReadsAlike`), and with alike
builds below, fields are evaluated to alike outcomes, from whatever journals the evaluations start
(`evaluateField_agree`), and so are the candidates of a group (`evaluateCandidates_compared`).

The two fields need not be the same: what stands below them may differ, as it does where a schema is
reordered, as long as it is built alike (`BelowAgree`). Nodes settle alike for alike outcomes and
announce alike results (`settle_agree`, `announce_agree`).

The functions, validators and generators of the user have to respect likeness
(`Likeness.RespectsField`). A generator respects any likeness if it is pure, as it is then given the
same argument and gives the same value.
-/

namespace Intake

open Intake.Schema Intake.Failure

namespace Likeness

/-- A validator answers alike values alike. -/
def RespectsValidator (L : Likeness) (v : Validator) : Prop :=
  ∀ name, L.Respects (v.run name)

/-- What the user supplies for a field of a node respects likeness. -/
structure RespectsField (L : Likeness) (n : Node) (f : Field) : Prop where
  functions : L.RespectsAll n.functions
  validator : ∀ v, Build.validatorOf n f = some (.call v) → L.RespectsValidator v
  auto : ∀ a, f.auto = some a → a.generator.IsPure

/-- Alike values with alike trees. -/
structure Resolved (L : Likeness) (r r' : Build.Resolved) : Prop where
  value : L.value r.value r'.value
  tree : L.value r.tree r'.tree

/-- Outcomes of which both are present or none, with alike failures and the same clauses. -/
structure Outcome (L : Likeness) (o o' : Build.Outcome) : Prop where
  resolved : Option.Rel L.Resolved o.resolved o'.resolved
  failures : L.failures o.failures o'.failures
  clauses : o.clauses = o'.clauses

/-- Alike records, or alike payloads. -/
inductive Result (L : Likeness) : Build.Result → Build.Result → Prop
  | ok {v w : Value} : L.value v w → L.Result (.ok v) (.ok w)
  | error {p q : Payload} : L.payload p q → L.Result (.error p) (.error q)

/-- Alike results with alike trees. -/
structure Built (L : Likeness) (p q : Build.Result × Tree) : Prop where
  result : L.Result p.1 q.1
  tree : L.value p.2.toValue q.2.toValue

/-- The same fills were made, with alike values. -/
def Fills (L : Likeness) (fills fills' : Build.Fills) : Prop :=
  List.Forall₂ (fun p q => p.1 = q.1 ∧ Option.Rel L.value p.2 q.2) fills fills'

end Likeness

namespace Build

variable {L : Likeness} {n n' : Node} {f : Field} {c : Child} {s s' : Scope}

/-! ### Checking -/

theorem validated_matched (hL : L.Lawful) {r r' : Reply} (hr : L.Reply r r') {v w : Value}
    (hvw : L.value v w) :
    Run.Matched L.Checked (validated n f r v) (validated n' (f.withChild c) r' w) := by
  cases hr with
  | ok h => exact ⟨h, hL.failures_refl []⟩
  | plain => exact trivial
  | refused => exact trivial
  | @err u u' h =>
    -- An error value that is no text is outside of the contract, and so is one that is like it.
    rcases hL.eq_or_compound u u' h with rfl | ⟨hu, hu'⟩
    · cases u with
      | text message => exact ⟨hvw, hL.failures_refl _⟩
      | _ => exact trivial
    · cases u <;> cases hu <;> cases u' <;> cases hu' <;> exact trivial
  | message h => exact ⟨hvw, hL.entry _ _ h _ _⟩

theorem validate_agree (hL : L.Lawful) (hf : L.RespectsField n f)
    (hvalidator : n'.validator = n.validator) {v w : Value} (hvw : L.value v w) :
    Run.Agree L.Checked (validate n f v) (validate n' (f.withChild c) w) := by
  have hsame : validatorOf n' (f.withChild c) = validatorOf n f := by
    rw [validatorOf, validatorOf, hvalidator]
    rfl
  rw [validate, validate]
  rw [hsame]
  cases hcall : validatorOf n f with
  | none => exact .pure ⟨hvw, hL.failures_refl []⟩
  | some hook =>
    cases hook with
    | inert u => exact .throw _ _
    | call validator =>
      refine (Run.Agree.call (R := Eq) rfl _ _).bind fun _ _ _ => ?_
      refine (Run.Agree.reply (hf.validator _ hcall f.name v w hvw)).bind fun r r' hr => ?_
      exact .ofExcept (validated_matched hL hr hvw)

/-- Alike values are checked alike. -/
theorem checked_agree (hL : L.Lawful) (hf : L.RespectsField n f)
    (hvalidator : n'.validator = n.validator) (hfunctions : n'.functions = n.functions)
    {v w : Value} (hvw : L.value v w) :
    Run.Agree L.Checked (checked n f v) (checked n' (f.withChild c) w) := by
  rw [checked, checked]
  rw [hfunctions]
  refine (Check.runRule_agree hL hf.functions f.name f.rule hvw).bind ?_
  rintro ⟨v, es⟩ ⟨w, fs⟩ ⟨hvw, hes⟩
  dsimp only
  rw [hL.failures_isEmpty es fs hes]
  split
  · exact validate_agree hL hf hvalidator hvw
  · exact .pure ⟨hvw, hes⟩

/-! ### Filling -/

theorem filled_agree (hL : L.Lawful) (hauto : ∀ a, f.auto = some a → a.generator.IsPure)
    (hgiven : Run.Matched (Option.Rel L.value) (given s f) (given s' (f.withChild c))) :
    Run.Agree (Option.Rel L.value) (filled s f) (filled s' (f.withChild c)) := by
  rw [filled]
  refine (Run.Agree.ofExcept hgiven).bind fun own own' hown => ?_
  rw [show (f.withChild c).auto = f.auto from rfl]
  cases hf : f.auto with
  | none => exact .pure hown
  | some auto =>
    -- The generator is asked in both or in neither, as alike values are empty both or neither.
    have hany : own.any (!·.isEmpty) = own'.any (!·.isEmpty) := by
      rcases hown with hvw | _
      · simp [hL.isEmpty _ _ hvw]
      · rfl
    dsimp only
    rw [hany]
    split
    · exact .pure hown
    · refine (Run.Agree.generate (hauto auto hf) auto.argument).bind fun v w hvw => ?_
      subst hvw
      refine .pure ?_
      split
      · exact .none
      · exact .some (hL.refl v)

/-- Alike values, with the same fills made. -/
def FilledLike (L : Likeness) (p q : Option Value × Fills) : Prop :=
  Option.Rel L.value p.1 q.1 ∧ L.Fills p.2 q.2

/-- Fields that are given alike values are filled alike: an earlier fill is taken in both or in
    none. -/
theorem fill_agree (hL : L.Lawful) (hauto : ∀ a, f.auto = some a → a.generator.IsPure)
    (hgiven : Run.Matched (Option.Rel L.value) (given s f) (given s' (f.withChild c)))
    {fills fills' : Fills} (hfills : L.Fills fills fills') :
    Run.Agree (FilledLike L) (fill s f fills) (fill s' (f.withChild c) fills') := by
  -- The fills are searched for the same key, which stands at the same place in both.
  have hfind : Option.Rel (fun p q => p.1 = q.1 ∧ Option.Rel L.value p.2 q.2)
      (fills.find? (·.1.equals (.ofField f))) (fills'.find? (·.1.equals (.ofField f))) := by
    rw [Likeness.Fills] at hfills
    induction hfills with
    | nil => exact .none
    | @cons p q ps qs hpq _ ih =>
      rw [List.find?_cons, List.find?_cons, ← hpq.1]
      split
      · exact .some hpq
      · exact ih
  unfold fill
  rw [show FillKey.ofField (f.withChild c) = FillKey.ofField f from rfl]
  dsimp only
  generalize fills.find? (·.1.equals (.ofField f)) = found at hfind
  generalize fills'.find? (·.1.equals (.ofField f)) = found' at hfind
  rcases hfind with hpq | _
  · exact .pure ⟨hpq.2, hfills⟩
  · refine (filled_agree hL hauto hgiven).bind fun v w hvw => .pure ⟨hvw, ?_⟩
    exact List.rel_append (R := _) hfills (.cons ⟨rfl, hvw⟩ .nil)

/-! ### Evaluating -/

/-- The builds of what stands below a field are alike in two scopes. -/
def BelowAgree (L : Likeness) (f : Field) (c : Child) (s s' : Scope) (below below' : Below) :
    Prop :=
  ∀ v w, L.value v w → Run.Agree L.Outcome (below f s v) (below' (f.withChild c) s' w)

theorem outcome_present {v w : Value} (hvw : L.value v w)
    {es fs : List Failure.Entry} (hes : L.failures es fs) :
    L.Outcome (.present f v es) (.present (f.withChild c) w fs) :=
  ⟨.some ⟨hvw, hvw⟩, hes, rfl⟩

theorem process_agree (hL : L.Lawful) (hf : L.RespectsField n f)
    (hvalidator : n'.validator = n.validator) (hfunctions : n'.functions = n.functions)
    {below below' : Option Below} (hbelow : Option.Rel (BelowAgree L f c s s') below below')
    {v w : Value} (hvw : L.value v w) :
    Run.Agree L.Outcome (process n f below s v) (process n' (f.withChild c) below' s' w) := by
  refine (checked_agree hL hf hvalidator hfunctions hvw).bind ?_
  rintro ⟨v, es⟩ ⟨w, fs⟩ ⟨hvw, hes⟩
  dsimp only
  rw [hL.failures_isEmpty es fs hes]
  split
  · exact .pure (outcome_present hvw hes)
  · cases hbelow with
    | none => exact .pure (outcome_present hvw (hL.failures_refl []))
    | some h => exact h v w hvw

/-- Alike outcomes, with the same fills made. -/
def EvaluatedLike (L : Likeness) (p q : Outcome × Fills) : Prop :=
  L.Outcome p.1 q.1 ∧ L.Fills p.2 q.2

/-- What the evaluation of a field reads is alike in two scopes: its gate, what it is given, and
    whether something was sent for it. -/
structure ReadsAlike (L : Likeness) (f : Field) (s s' : Scope) : Prop where
  blocked : blocked? s f = blocked? s' f
  given : Run.Matched (Option.Rel L.value) (given s f) (given s' f)
  sent : (s.tree.sent? f.name).isSome = (s'.tree.sent? f.name).isSome

/-- The evaluation of a field reads alike values where alike values were sent for it and are found at
    its source, and something is found at its gate in both scopes or in none. -/
theorem ReadsAlike.of_lookups
    (hsent : Option.Rel L.value (s.tree.sent? f.name) (s'.tree.sent? f.name))
    (hgate : ∀ path, f.gated? = some path →
      (s.lookup path).map Option.isSome = (s'.lookup path).map Option.isSome)
    (hsource : ∀ path, f.copied? = some path →
      Run.Matched (Option.Rel L.value) (s.lookup path) (s'.lookup path)) :
    ReadsAlike L f s s' where
  blocked := by
    rw [blocked?, blocked?]
    cases hg : f.gated? with
    | none => rfl
    | some path =>
      have hfound : ∀ s : Scope,
          (s.lookup path).map (fun found => if found.isSome then none else some path) =
            ((s.lookup path).map Option.isSome).map fun isFound =>
              if isFound then none else some path :=
        fun s => by cases s.lookup path <;> rfl
      dsimp only
      rw [hfound, hfound, hgate path hg]
  given := by
    rw [Build.given, Build.given]
    generalize s.tree.sent? f.name = v? at hsent
    generalize s'.tree.sent? f.name = w? at hsent
    rcases hsent with hvw | _
    · exact .some hvw
    · cases hs : f.copied? with
      | none => exact .none
      | some path => exact hsource path hs
  sent := Run.rel_isSome hsent

/-- In alike scopes, a field is evaluated to alike outcomes. -/
theorem evaluateField_agree (hL : L.Lawful) (hf : L.RespectsField n f)
    (hvalidator : n'.validator = n.validator) (hfunctions : n'.functions = n.functions)
    {below below' : Option Below} (hbelow : Option.Rel (BelowAgree L f c s s') below below')
    (hreads : ReadsAlike L f s s') {fills fills' : Fills} (hfills : L.Fills fills fills') :
    Run.Agree (EvaluatedLike L) (evaluateField n f below s fills)
      (evaluateField n' (f.withChild c) below' s' fills') := by
  rw [evaluateField, evaluateField]
  rw [show blocked? s' (f.withChild c) = blocked? s f from hreads.blocked.symm]
  refine (Run.Agree.ofExcept (.refl (R := Eq) (fun _ => rfl) _)).bind fun path? _ heq => ?_
  subst heq
  cases path? with
  | some path =>
    rw [show (s'.tree.sent? (f.withChild c).name).isSome = _ from hreads.sent.symm]
    exact .pure ⟨⟨.none, hL.failures_refl _, rfl⟩, hfills⟩
  | none =>
    refine (fill_agree hL hf.auto hreads.given hfills).bind ?_
    rintro ⟨v?, fills⟩ ⟨w?, fills'⟩ ⟨hvw, hfills⟩
    rcases hvw with hvw | _
    · refine (process_agree hL hf hvalidator hfunctions hbelow hvw).bind fun o o' ho => ?_
      exact .pure ⟨ho, hfills⟩
    · exact .pure ⟨⟨.none, hL.failures_refl _, rfl⟩, hfills⟩

theorem outcome_isClean (hL : L.Lawful) {o o' : Outcome} (h : L.Outcome o o') :
    o.isClean = o'.isClean :=
  hL.failures_isEmpty _ _ h.failures

/-! ### Building below -/

/-- Two builders build alike maps alike, below two scopes. -/
def BuildersAgree (L : Likeness) (s s' : Scope) (build build' : Builder) : Prop :=
  ∀ es es', L.value (.map es) (.map es') →
    Run.Agree L.Built (build s.context (some s.root) es) (build' s'.context (some s'.root) es')

theorem outcome_ofNode (hL : L.Lawful) {v w : Value} (hvw : L.value v w)
    {p q : Result × Tree} (h : L.Built p q) :
    L.Outcome (.ofNode f v p) (.ofNode (f.withChild c) w q) := by
  obtain ⟨r, t⟩ := p
  obtain ⟨r', t'⟩ := q
  obtain ⟨h | h, htree⟩ := h
  · exact ⟨.some ⟨h, htree⟩, hL.failures_refl _, rfl⟩
  · exact ⟨.some ⟨hvw, htree⟩, hL.nested _ _ h _ _, rfl⟩

theorem buildSingle_agree (hL : L.Lawful) {build build' : Builder}
    (h : BuildersAgree L s s' build build') :
    BelowAgree L f c s s' (buildSingle build) (buildSingle build') := by
  intro v w hvw
  have hmap := hL.isMap v w hvw
  have htype := hL.typeName v w hvw
  simp only [buildSingle]
  cases v with
  | map es =>
    cases w with
    | map es' => exact (h es es' hvw).bind fun p q hpq => .pure (outcome_ofNode hL hvw hpq)
    | _ => cases hmap
  | _ =>
    cases w with
    | map es' => cases hmap
    | _ =>
      dsimp only
      rw [htype]
      exact .pure (outcome_present hvw (hL.failures_refl _))

theorem mapsOf?_eq (v : Value) : mapsOf? v = v.items?.bind mapsOf := by
  cases v <;> rfl

/-- Alike lists hold alike maps, or none of them holds maps only. -/
theorem mapsOf?_alike (hL : L.Lawful) {v w : Value} (hvw : L.value v w) :
    Option.Rel (List.Forall₂ fun es es' => L.value (.map es) (.map es')) (mapsOf? v)
      (mapsOf? w) := by
  have hmaps : ∀ vs ws, List.Forall₂ L.value vs ws →
      Option.Rel (List.Forall₂ fun es es' => L.value (.map es) (.map es')) (mapsOf vs)
        (mapsOf ws) := by
    intro vs ws h
    induction h with
    | nil => exact .some .nil
    | @cons v w vs ws hvw _ ih =>
      have hmap := hL.isMap v w hvw
      cases v with
      | map es =>
        cases w with
        | map es' =>
          exact Run.rel_map ih fun _ _ h => .cons hvw h
        | _ => cases hmap
      | _ =>
        cases w with
        | map es' => cases hmap
        | _ => exact .none
  rw [mapsOf?_eq, mapsOf?_eq]
  exact Run.rel_bind (hL.items v w hvw) hmaps

/-- Alike items, with alike failures. -/
structure ItemsLike (L : Likeness) (items items' : Items) : Prop where
  records : List.Forall₂ L.value items.records items'.records
  trees : List.Forall₂ L.value items.trees items'.trees
  failures : L.failures items.failures items'.failures

theorem ofResults_alike (hL : L.Lawful) (field : String) {rs rs' : List (Result × Tree)}
    (h : List.Forall₂ L.Built rs rs') (index : Nat) :
    ItemsLike L (.ofResults field index rs) (.ofResults field index rs') := by
  induction h generalizing index with
  | nil => exact ⟨.nil, .nil, hL.failures_refl []⟩
  | @cons p q _ _ hpq _ ih =>
    obtain ⟨hrecords, htrees, hfailures⟩ := ih (index + 1)
    obtain ⟨r, t⟩ := p
    obtain ⟨r', t'⟩ := q
    obtain ⟨h | h, htree⟩ := hpq
    · exact ⟨.cons h hrecords, .cons htree htrees, hfailures⟩
    · exact ⟨hrecords, .cons htree htrees,
        hL.failures_append _ _ _ _ (hL.nested _ _ h field (some (index : Int))) hfailures⟩

theorem outcome_ofItems (hL : L.Lawful) {v w : Value} (hvw : L.value v w) {items items' : Items}
    (h : ItemsLike L items items') :
    L.Outcome (.ofItems f v items) (.ofItems (f.withChild c) w items') := by
  refine ⟨.some ⟨?_, hL.list _ _ h.trees⟩, h.failures, rfl⟩
  dsimp only
  rw [hL.failures_isEmpty _ _ h.failures]
  split
  · exact hL.list _ _ h.records
  · exact hvw

theorem buildMany_agree (hL : L.Lawful) {build build' : Builder}
    (h : BuildersAgree L s s' build build') :
    BelowAgree L f c s s' (buildMany build) (buildMany build') := by
  intro v w hvw
  have hmaps := mapsOf?_alike hL hvw
  rw [buildMany, buildMany]
  generalize mapsOf? v = maps at hmaps
  generalize mapsOf? w = maps' at hmaps
  rcases hmaps with hmaps | _
  · refine (Run.Agree.mapM (hmaps.imp fun es es' => h es es')).bind fun rs rs' hrs => ?_
    exact .pure (outcome_ofItems hL hvw (ofResults_alike hL f.name hrs 0))
  · exact .pure (outcome_present hvw (hL.failures_refl _))

/-! ### Entries -/

/-- A field and another one with the same options, whatever stands below: what their evaluation reads
    of two scopes is alike, and so is what is built below. -/
structure FieldsAlike (L : Likeness) (s s' : Scope) (f f' : Field) : Prop where
  same : f' = f.withChild f'.child
  reads : ReadsAlike L f s s'
  below : Option.Rel (BelowAgree L f f'.child s s') (childBuilder f.child) (childBuilder f'.child)

/-- Entries of alike fields are evaluated to alike outcomes. -/
theorem entryEvaluator_alike (hL : L.Lawful) (hvalidator : n'.validator = n.validator)
    (hfunctions : n'.functions = n.functions) {e e' : Schema.Entry}
    (hrespects : ∀ f ∈ e.fields, L.RespectsField n f)
    (h : List.Forall₂ (FieldsAlike L s s') e.fields e'.fields) :
    Run.Agree L.Outcome (entryEvaluator n e s) (entryEvaluator n' e' s') := by
  rw [entryEvaluator_eq, entryEvaluator_eq]
  refine evaluateCandidates_compared .agree (R := L.Outcome) (P := L.Fills)
    ⟨.none, hL.failures_refl _, rfl⟩ (fun _ _ => outcome_isClean hL) ?_ .nil
  rw [List.forall₂_map_left_iff, List.forall₂_map_right_iff]
  -- Candidate by candidate, with the fills that those before it have made.
  refine ((List.forall₂_and_left _ _).2 ⟨hrespects, h⟩).imp ?_
  rintro f f' ⟨hf, hsame, hreads, hbelow⟩ fills fills' hfills
  rw [fieldEvaluator_eq, fieldEvaluator_eq]
  have hfield := evaluateField_agree hL hf hvalidator hfunctions hbelow hreads hfills
  rwa [← hsame] at hfield

/-! ### Settling -/

theorem trace_agree (c : Context) (event event' : String) (details details' : List (String × Value)) :
    Run.Agree Eq (trace c event details) (trace c event' details') := by
  rw [trace, trace]
  split
  · exact .log rfl _ _ _ _
  · exact .pure rfl

/-- Alike results are announced alike: both raise, or none. -/
theorem announce_agree (hraises : n'.raises = n.raises) (c : Context) {r r' : Result}
    (h : L.Result r r') : Run.Agree Eq (announce n c r) (announce n' c r') := by
  cases h with
  | ok => exact trace_agree c _ _ _ _
  | error =>
    refine (trace_agree c _ _ _ _).bind fun _ _ _ => ?_
    rw [hraises]
    split
    · exact (Run.Agree.log (R := Eq) rfl _ _ _ _).bind fun _ _ _ => .throw _ _
    · exact .pure rfl

/-- Alike payloads, or alike entries of a map. -/
inductive MainLike (L : Likeness) :
    Except Payload (List (Value × Value)) → Except Payload (List (Value × Value)) → Prop
  | ok {es es' : List (Value × Value)} : L.value (.map es) (.map es') → MainLike L (.ok es) (.ok es')
  | error {p q : Payload} : L.payload p q → MainLike L (.error p) (.error q)

theorem mainAnswer_matched (hL : L.Lawful) (hname : n'.name = n.name) {r r' : Reply}
    (h : L.Reply r r') : Run.Matched (MainLike L) (mainAnswer n r) (mainAnswer n' r') := by
  cases h with
  | plain => exact trivial
  | refused h => exact .error h
  | @ok v w h =>
    have hmap := hL.isMap v w h
    cases v with
    | map es =>
      cases w with
      | map es' => exact .ok h
      | _ => cases hmap
    | _ =>
      cases w with
      | map es' => cases hmap
      | _ => exact trivial
  | @err v w h =>
    -- A refusal is told in a text; other error values are outside of the contract.
    rcases hL.eq_or_compound v w h with rfl | ⟨hv, hw⟩
    · cases v with
      | text message =>
        refine .error ?_
        rw [hname]
        exact hL.payload_refl _
      | _ => exact trivial
    · cases v <;> cases hv <;> cases w <;> cases hw <;> exact trivial
  | message h =>
    refine .error ?_
    rw [hname]
    exact hL.payload_entry h _ _

theorem runMain_agree (hL : L.Lawful) (hname : n'.name = n.name) (hmain : n'.main = n.main)
    (hrespects : ∀ f, n.main = some (.call f) → L.Respects f) {values values' : Tree}
    (hvalues : L.value values.toValue values'.toValue) :
    Run.Agree (MainLike L) (runMain n values) (runMain n' values') := by
  rw [runMain, runMain]
  rw [hmain]
  cases hcall : n.main with
  | none => exact .pure (.ok hvalues)
  | some hook =>
    cases hook with
    | inert u => exact .throw _ _
    | call f =>
      refine (Run.Agree.call (R := Eq) rfl _ _).bind fun _ _ _ => ?_
      refine (Run.Agree.reply (hrespects f hcall _ _ hvalues)).bind fun r r' hr => ?_
      exact .ofExcept (mainAnswer_matched hL hname hr)

/-- Nodes with alike failures and alike values settle for alike results, where their records are
    alike. -/
theorem settle_agree (hL : L.Lawful) (hname : n'.name = n.name) (hmain : n'.main = n.main)
    (hrespects : ∀ f, n.main = some (.call f) → L.Respects f)
    (hrecord : ∀ es es', L.value (.map es) (.map es') →
      Run.Matched L.value (recordOf n es) (recordOf n' es'))
    {os os' : Outcomes} {rejected rejected' : List (List Failure.Entry)}
    (hfailures : L.failures ((n.entries.flatMap fun e => (os.of e).failures) ++ rejected.flatten)
      ((n'.entries.flatMap fun e => (os'.of e).failures) ++ rejected'.flatten))
    (hvalues : L.value (Tree.toValue (valuesOf n os)) (Tree.toValue (valuesOf n' os'))) :
    Run.Agree L.Result (settle n os rejected) (settle n' os' rejected') := by
  have haggregate := hL.aggregate _ _ hfailures
  unfold settle
  dsimp only
  generalize aggregate _ = p? at haggregate ⊢
  generalize aggregate _ = q? at haggregate ⊢
  rcases haggregate with h | _
  · exact .pure (.error h)
  · refine (runMain_agree hL hname hmain hrespects hvalues).bind ?_
    rintro _ _ (h | h)
    · exact (Run.Agree.ofExcept (hrecord _ _ h)).bind fun _ _ h => .pure (.ok h)
    · exact .pure (.error h)

end Build

end Intake
