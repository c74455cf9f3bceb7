import Intake.Proofs.Build.Comparison
import Intake.Proofs.Build.Within

/-!
# Watched builds

A watch says what is looked out for in a build: at the admission of a node, before a field is looked
at, and before the clauses of an entry are. A watched build (`watchedBuild`) does what the build does
until there is such a thing, and ends there with a fault. A build is quiet for a watch
(`Watch.Quiet`) if it comes to no such point: whatever it ends with, it does not always end with the
fault that the watch would end it with.

Until it is halted, a watched build is in step with the build, also with one in another context, as
long as what is admitted in the one and not in the other is watched for (`watchedBuild_inStep`). A
quiet build therefore ends as it would in that context (`Watch.Quiet.same_end`).
-/

namespace Intake.Build

open Intake.Schema Intake.Failure

/-- What is looked out for: at a node with the tree of its input, at a field in its scope, and at the
    clauses of an entry with the outcomes of its node. -/
structure Watch where
  node : Node → Mode → Tree → Bool := fun _ _ _ => false
  field : Node → Field → Scope → Fills → Bool := fun _ _ _ _ => false
  clauses : Node → Schema.Entry → Scope → Outcomes → Bool := fun _ _ _ _ => false

section Watched

variable (w : Watch) (halt : Fault)

/-- The evaluation of a field, watched. -/
def watchField (owner : Node) (f : Field) (below : Option Below) : FieldEvaluator :=
  fun s fills => do
    Run.haltIf halt (w.field owner f s fills)
    evaluateField owner f below s fills

/-- The failures of the clauses of an entry, watched. -/
def watchRejections (n : Node) (s : Scope) (os : Outcomes) (e : Schema.Entry) :
    Run (List Failure.Entry) := do
  Run.haltIf halt (w.clauses n e s os)
  rejectionsOf n s os e

/-- The result of a node for the tree of its input, watched. -/
def watchNode (n : Node) (parts : List Part) (c : Context) (root? : Option Tree) (t : Tree) :
    Run (Result × Tree) := do
  Run.haltIf halt (w.node n c.mode t)
  match refusal? n c.mode t with
  | some p => return (.error p, t)
  | none =>
    let (os, t) ← evaluateParts c root? (orderedParts root?.isNone parts) t
    let rejected ← n.entries.mapM (watchRejections w halt n (scopeOf c root? t) os)
    return (← settle n os rejected, t)

/-- The building of a node with the evaluations of its entries, watched. -/
def watchWith (n : Node) (parts : List Part) : Builder := fun c root? input => do
  let tree ← Run.ofExcept (Tree.read input)
  trace c "build_started" [("schema", .text n.name), ("mode", .text c.mode.name)]
  let (result, tree) ← watchNode w halt n parts c root? tree
  announce n c result
  return (result, tree)

mutual
/-- The building of a node, watched. -/
def nodeWatcher (n : Node) : Builder :=
  match n with
  | ⟨_, entries, _, _, _, _, _, _⟩ => watchWith w halt n (watchPartsOf n entries)
termination_by structural n

/-- The entries of a node with their evaluations, watched. -/
def watchPartsOf (owner : Node) (es : List Schema.Entry) : List Part :=
  match es with
  | [] => []
  | e :: rest => (e, entryWatcher owner e) :: watchPartsOf owner rest
termination_by structural es

/-- The evaluation of an entry, watched. -/
def entryWatcher (owner : Node) (e : Schema.Entry) : EntryEvaluator :=
  match e with
  | .field f => fun s => evaluateCandidates s [fieldWatcher owner f] []
  | .group g => groupWatcher owner g
termination_by structural e

/-- The evaluation of a group, watched. -/
def groupWatcher (owner : Node) (g : Group) : EntryEvaluator :=
  match g with
  | ⟨_, candidates, _⟩ => fun s => evaluateCandidates s (fieldWatchers owner candidates) []
termination_by structural g

/-- The evaluations of fields, watched. -/
def fieldWatchers (owner : Node) (fs : List Field) : List FieldEvaluator :=
  match fs with
  | [] => []
  | f :: rest => fieldWatcher owner f :: fieldWatchers owner rest
termination_by structural fs

/-- The evaluation of a field with what stands below it, watched. -/
def fieldWatcher (owner : Node) (f : Field) : FieldEvaluator :=
  match f with
  | ⟨_, _, _, _, _, _, _, _, _, _, child⟩ => watchField w halt owner f (childWatcher child)
termination_by structural f

/-- The building of what stands below a field, watched. -/
def childWatcher (c : Child) : Option Below :=
  match c with
  | .none => none
  | .single n => some (buildSingle (nodeWatcher n))
  | .many n => some (buildMany (nodeWatcher n))
termination_by structural c
end

/-- A build, watched. -/
def watchedBuild (n : Node) (c : Context) (input : Value) : Run (Result × Option Tree) := do
  match input with
  | .map entries =>
    let (result, tree) ← nodeWatcher w halt n c none entries
    return (result, some tree)
  | _ => build n c input

theorem nodeWatcher_eq (n : Node) :
    nodeWatcher w halt n =
      watchWith w halt n (n.entries.map fun e => (e, entryWatcher w halt n e)) := by
  have hparts : ∀ es, watchPartsOf w halt n es = es.map fun e => (e, entryWatcher w halt n e) :=
    fun es => by
      induction es with
      | nil => rfl
      | cons e rest ih => rw [watchPartsOf, ih, List.map_cons]
  rw [← hparts]
  cases n
  rfl

theorem fieldWatcher_eq (n : Node) (f : Field) :
    fieldWatcher w halt n f = watchField w halt n f (childWatcher w halt f.child) := by
  cases f
  rfl

theorem entryWatcher_eq (n : Node) (e : Schema.Entry) :
    entryWatcher w halt n e = fun s =>
      evaluateCandidates s (e.fields.map (fieldWatcher w halt n)) [] := by
  have hfields : ∀ fs, fieldWatchers w halt n fs = fs.map (fieldWatcher w halt n) := fun fs => by
    induction fs with
    | nil => rfl
    | cons f rest ih => rw [fieldWatchers, ih, List.map_cons]
  cases e with
  | field f => rfl
  | group g =>
    cases g
    rw [Entry.fields, ← hfields]
    rfl

end Watched

/-- The build comes to no point that is watched for: not every fault by which the watch would halt it
    is what it ends with. -/
def Watch.Quiet (w : Watch) (n : Node) (c : Context) (input : Value) (j : Journal) : Prop :=
  ∃ halt, ((watchedBuild w halt n c input).start j).1 ≠ .error halt

/-! ### Two contexts -/

/-- The same place in another context. -/
def Scope.within (c : Context) (s : Scope) : Scope :=
  { s with context := c }

/-- Whether the gate of a field is open does not depend on the context. -/
theorem blocked?_within (c : Context) (s : Scope) (f : Field) :
    blocked? (s.within c) f = blocked? s f := rfl

theorem fill_within (c : Context) (s : Scope) (f : Field) (fills : Fills) :
    fill (s.within c) f fills = fill s f fills := rfl

section InStep

variable {w : Watch} {halt : Fault} {c c' : Context}

/-- In two contexts the builders are in step, where the first one may be halted. -/
def BuildersInStep (halt : Fault) (c c' : Context) (b b' : Builder) : Prop :=
  ∀ root? input, Run.InStep (· = halt) Run.never Eq (b c root? input) (b' c' root? input)

/-- What stands below a field is built in step. -/
def BelowInStep (halt : Fault) (c c' : Context) (b b' : Below) : Prop :=
  ∀ f s v, s.context = c → Run.InStep (· = halt) Run.never Eq (b f s v) (b' f (s.within c') v)

theorem buildSingle_inStep {b b' : Builder} (h : BuildersInStep halt c c' b b') :
    BelowInStep halt c c' (buildSingle b) (buildSingle b') := by
  rintro f s v rfl
  simp only [buildSingle]
  split
  · exact (h _ _).bind fun p _ hp => hp ▸ .pure rfl
  · exact .pure rfl

theorem buildMany_inStep {b b' : Builder} (h : BuildersInStep halt c c' b b') :
    BelowInStep halt c c' (buildMany b) (buildMany b') := by
  rintro f s v rfl
  simp only [buildMany]
  split
  · exact .pure rfl
  · exact (Run.InStep.mapM_same fun input _ => h _ input).bind fun p _ hp => hp ▸ .pure rfl

variable {n : Node} {f : Field} {s : Scope}

theorem process_inStep {below below' : Option Below}
    (h : Option.Rel (BelowInStep halt c c') below below') (hs : s.context = c) (v : Value) :
    Run.InStep (· = halt) Run.never Eq (process n f below s v)
      (process n f below' (s.within c') v) := by
  rw [process, process]
  refine Run.InStep.bind (asks_checked n f v).isLocal.inStep fun p _ hp => ?_
  subst hp
  dsimp only
  split
  · exact .pure rfl
  · cases h with
    | none => exact .pure rfl
    | some h => exact h f s p.1 hs

theorem watchField_inStep {below below' : Option Below}
    (h : Option.Rel (BelowInStep halt c c') below below') (hs : s.context = c) (fills : Fills) :
    Run.InStep (· = halt) Run.never Eq (watchField w halt n f below s fills)
      (evaluateField n f below' (s.within c') fills) := by
  refine .haltIf_left (S := (· = halt)) rfl fun _ => ?_
  rw [evaluateField, evaluateField, blocked?_within, fill_within]
  refine Run.InStep.bind (.ofExcept (.of_eq rfl)) fun blocked _ hp => ?_
  subst hp
  cases blocked with
  | some path => exact .pure rfl
  | none =>
    refine Run.InStep.bind (asks_fill s f.admits_plain fills).isLocal.inStep fun p _ hp => ?_
    subst hp
    rcases p with ⟨_ | v, fills⟩
    · exact .pure rfl
    · exact (process_inStep h hs v).bind fun o _ ho => ho ▸ .pure rfl

theorem watchRejections_inStep (os : Outcomes) (e : Schema.Entry) :
    Run.InStep (· = halt) Run.never Eq (watchRejections w halt n s os e)
      (rejectionsOf n (s.within c') os e) :=
  .haltIf_left (S := (· = halt)) rfl fun _ => (asks_rejections n s os e).isLocal.inStep

/-- What is admitted in one of the contexts and not in the other is watched for. -/
def Watch.Admits (w : Watch) (c c' : Context) (n : Node) : Prop :=
  ∀ t, refusal? n c.mode t = refusal? n c'.mode t ∨ w.node n c.mode t = true

/-- A node that is admitted in one context and refused in the other is watched for. -/
theorem watchNode_inStep (hadmits : w.Admits c c' n)
    {evaluate evaluate' : Schema.Entry → EntryEvaluator}
    (h : ∀ e ∈ n.entries, ∀ s, s.context = c → Run.InStep (· = halt) Run.never Eq (evaluate e s)
      (evaluate' e (s.within c'))) (root? : Option Tree) (t : Tree) :
    Run.InStep (· = halt) Run.never Eq
      (watchNode w halt n (n.entries.map fun e => (e, evaluate e)) c root? t)
      (evaluateNode n (n.entries.map fun e => (e, evaluate' e)) c' root? t) := by
  refine .haltIf_left (S := (· = halt)) rfl fun hw => ?_
  rw [evaluateNode, (hadmits t).resolve_right (by rw [hw]; exact Bool.false_ne_true)]
  cases refusal? n c'.mode t with
  | some p => exact .pure rfl
  | none =>
    dsimp only
    rw [orderedParts, orderedParts, Slot.arrange_map, Slot.arrange_map]
    refine Run.InStep.bind (evaluateParts_same (.inStep (· = halt) Run.never) (fun e he t =>
      h e (Node.mem_evaluationOrder.1 he) (scopeOf c root? t) rfl) t) fun p _ hp => ?_
    subst hp
    refine (Run.InStep.mapM_same fun e _ => watchRejections_inStep p.1 e).bind fun es _ hes => ?_
    subst hes
    exact Run.InStep.bind (asks_settle n p.1 es).isLocal.inStep fun r _ hr => hr ▸ .pure rfl

/-- A watched node is built in step with the node in another context. -/
theorem nodeWatcher_inStep (n : Node) : (∀ m, n.Spans m → w.Admits c c' m) →
    BuildersInStep halt c c' (nodeWatcher w halt n) (nodeBuilder n) := by
  induction n using Node.below_induction with
  | h n ih =>
    intro hadmits root? input
    -- The nodes below the fields are built in step by induction, and with them the entries.
    have hbelow : ∀ f ∈ n.fields, Option.Rel (BelowInStep halt c c') (childWatcher w halt f.child)
        (childBuilder f.child) := by
      intro f hf
      have ih : ∀ m, f.child.node? = some m →
          BuildersInStep halt c c' (nodeWatcher w halt m) (nodeBuilder m) :=
        fun m hm => ih f hf m hm fun k hk => hadmits k (.child hf hm hk)
      cases hc : f.child with
      | none => exact .none
      | single m => exact .some (buildSingle_inStep (ih m (by rw [hc]; rfl)))
      | many m => exact .some (buildMany_inStep (ih m (by rw [hc]; rfl)))
    have hentries : ∀ e ∈ n.entries, ∀ s, s.context = c → Run.InStep (· = halt) Run.never Eq
        (entryWatcher w halt n e s) (entryEvaluator n e (s.within c')) := by
      intro e he s hs
      rw [entryWatcher_eq, entryEvaluator_eq]
      refine evaluateCandidates_compared (.inStep (· = halt) Run.never) (P := Eq) rfl
        (fun _ _ => congrArg Outcome.isClean) ?_ rfl
      rw [List.forall₂_map_left_iff, List.forall₂_map_right_iff, List.forall₂_same]
      rintro f hf fills _ rfl
      rw [fieldWatcher_eq, fieldEvaluator_eq]
      exact (watchField_inStep (hbelow f (Node.mem_fields he hf)) hs fills).imp
        fun p q hpq => Prod.ext_iff.1 hpq
    rw [nodeWatcher_eq, nodeBuilder_eq_buildWith, watchWith, buildWith]
    refine Run.InStep.bind (.ofExcept (.of_eq rfl)) fun t _ ht => ?_
    subst ht
    refine (trace_inStep c c' _ _ _ _).bind fun _ _ _ => ?_
    refine (watchNode_inStep (hadmits n (.self n)) hentries root? t).bind fun p _ hp => ?_
    subst hp
    exact (announce_inStep n c c' p.1).bind fun _ _ _ => .pure rfl

/-- A watched build is in step with the build in another context. -/
theorem watchedBuild_inStep (hadmits : ∀ m, n.Spans m → w.Admits c c' m) (input : Value) :
    Run.InStep (· = halt) Run.never Eq (watchedBuild w halt n c input) (build n c' input) := by
  cases input with
  | map entries =>
    exact (nodeWatcher_inStep n hadmits none entries).bind fun p _ hp => hp ▸ .pure rfl
  | _ =>
    simp only [watchedBuild, build]
    split
    · exact raisePayload_inStep _ n.name
    · exact .pure rfl

/-- A watched build that is not halted ends like the build in the other context. -/
theorem watchedBuild_end {input : Value} {j k : Journal}
    (hhalt : ((watchedBuild w halt n c input).start j).1 ≠ .error halt)
    (hadmits : ∀ m, n.Spans m → w.Admits c c' m) (hcalls : j.calls = k.calls) :
    ((watchedBuild w halt n c input).start j).1 = ((build n c' input).start k).1 ∧
      ((watchedBuild w halt n c input).start j).2.calls =
        ((build n c' input).start k).2.calls := by
  have hstep : Run.InStep (· = halt) Run.never Eq (watchedBuild w halt n c input)
    (build n c' input) := watchedBuild_inStep hadmits input
  obtain ⟨hend, hrest⟩ := ((hstep j k hcalls).resolve_left
    (Run.not_halts_of_ne hhalt)).resolve_left Run.not_halts_never
  exact ⟨hend.eq, hrest⟩

/-- A quiet build ends alike, with the same calls, in every context in which what is watched for is
    all that could be admitted otherwise. -/
theorem Watch.Quiet.same_end {input : Value} {j k : Journal} (h : w.Quiet n c input j)
    (hadmits : ∀ m, n.Spans m → w.Admits c c' m) (hcalls : j.calls = k.calls) :
    ((build n c' input).start k).1 = ((build n c input).start j).1 ∧
      ((build n c' input).start k).2.calls = ((build n c input).start j).2.calls := by
  obtain ⟨halt, hhalt⟩ := h
  have hplain : _ = ((build n c input).start j).1 ∧ _ = ((build n c input).start j).2.calls :=
    watchedBuild_end hhalt (fun m _ t => .inl rfl) rfl
  have hother := watchedBuild_end hhalt hadmits hcalls
  exact ⟨hother.1.symm.trans hplain.1, hother.2.symm.trans hplain.2⟩

end InStep

end Intake.Build
