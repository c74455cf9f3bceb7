import Intake.Proofs.Build.Course

/-!
# What builds may do

The building of a node logs when it is begun and how it is finished, asks the generators of its fields
and of the nodes below them, and raises the failure of each node that asks for it. Whatever powers
allow this for a schema (`Powers.Allows`), its builds keep to them (`nodeBuilder_within`), by induction
on the nodes below.

The builder is walked through once, and what follows from its powers holds of its builds:

* a schema in which no node raises its failures is built locally (`nodeBuilder_local`, `build_local`);
* a schema with pure generators is built to the same result and tree, whatever has happened before
  (`nodeBuilder_steady`).

A whole build depends on its context in one more way: in what is traced. This is nothing but logged,
so that the beginning and the end of a node are in step in all contexts (`trace_inStep`,
`announce_inStep`), also where a failure is raised.
-/

namespace Intake

open Intake.Schema

/-- What the builds of a schema do is allowed: its generators may be asked, and payloads may be raised
    if one of its nodes raises its failures. -/
structure Powers.Allows (p : Powers) (n : Node) : Prop where
  admits : ∀ m, n.Spans m → ∀ f ∈ m.fields, p.Admits f
  raises : ∀ m, n.Spans m → m.raises = true → p.raises

/-- What is allowed for a schema is allowed for the nodes below. -/
theorem Powers.Allows.child {p : Powers} {n m : Node} {f : Field} (h : p.Allows n)
    (hf : f ∈ n.fields) (hm : f.child.node? = some m) : p.Allows m where
  admits k hk := h.admits k (.child hf hm hk)
  raises k hk := h.raises k (.child hf hm hk)

end Intake

namespace Intake.Build

open Intake.Schema Intake.Failure Intake.Run

/-! ### Fields -/

section Field

variable {p : Powers} {f : Field}

/-- The nodes below the field are built within the powers. -/
def WithinBelow (p : Powers) (f : Field) : Prop :=
  ∀ m, f.child.node? = some m → ∀ c root? input, Within p (nodeBuilder m c root? input)

/-- A value is checked, and what stands below its field is built, item by item in a list. -/
theorem process_within (n : Node) (hbelow : WithinBelow p f) (s : Scope) (v : Value) :
    Within p (process n f (childBuilder f.child) s v) := by
  rw [process]
  refine (asks_checked n f v).within.bind fun q => ?_
  dsimp only
  split
  · exact .pure _
  cases hc : f.child with
  | none => exact .pure _
  | single m =>
    have hm := hbelow m (by rw [hc]; rfl)
    simp only [childBuilder, buildSingle]
    split
    · exact (hm _ _ _).bind fun q => .pure _
    · exact .pure _
  | many m =>
    have hm := hbelow m (by rw [hc]; rfl)
    simp only [childBuilder, buildMany]
    split
    · exact .pure _
    · exact (Within.mapM (fun input => hm _ _ input) _).bind fun results => .pure _

/-- An open field is filled and its value worked on; a closed one does nothing. -/
theorem fieldEvaluator_within (n : Node) (hauto : p.Admits f) (hbelow : WithinBelow p f) (s : Scope)
    (fills : Fills) : Within p (fieldEvaluator n f s fills) := by
  rw [fieldEvaluator_eq, evaluateField]
  refine (Within.ofExcept (blocked?_unraised s f)).bind fun blocked => ?_
  cases blocked with
  | some path => exact .pure _
  | none =>
    refine (asks_fill s hauto fills).within.bind fun q => ?_
    rcases q with ⟨_ | v, fills⟩
    · exact .pure _
    · exact (process_within n hbelow s v).bind fun o => .pure _

/-- Candidates are tried one after the other, until one of them has no failures. -/
theorem evaluateCandidates_within {s : Scope} {evaluators : List FieldEvaluator}
    (h : ∀ evaluate ∈ evaluators, ∀ fills, Within p (evaluate s fills)) (fills : Fills) :
    Within p (evaluateCandidates s evaluators fills) := by
  induction evaluators generalizing fills with
  | nil => exact .pure _
  | cons evaluate rest ih =>
    have hfirst := h evaluate List.mem_cons_self fills
    have ih := ih fun evaluate' he => h evaluate' (List.mem_cons_of_mem _ he)
    cases rest with
    | nil => exact hfirst.bind fun q => .pure _
    | cons next rest =>
      refine hfirst.bind fun q => ?_
      dsimp only
      split
      · exact .pure _
      · exact ih q.2

theorem entryEvaluator_within {n : Node} {e : Schema.Entry} (hauto : ∀ f ∈ e.fields, p.Admits f)
    (hbelow : ∀ f ∈ e.fields, WithinBelow p f) (s : Scope) : Within p (entryEvaluator n e s) := by
  rw [entryEvaluator_eq]
  refine evaluateCandidates_within (fun evaluate hevaluate fills => ?_) []
  obtain ⟨f, hf, rfl⟩ := List.mem_map.1 hevaluate
  exact fieldEvaluator_within n (hauto f hf) (hbelow f hf) s fills

end Field

/-! ### Nodes -/

section Node

variable {p : Powers}

/-- Entries are evaluated one after the other, each in the tree that the ones before it have left. -/
theorem evaluateParts_within {c : Context} {root? : Option Tree} {parts : List Part}
    (h : ∀ part ∈ parts, ∀ s, Within p (part.2 s)) (t : Tree) :
    Within p (evaluateParts c root? parts t) := by
  induction parts generalizing t with
  | nil => exact .pure _
  | cons part rest ih =>
    refine (h part List.mem_cons_self _).bind fun o => ?_
    exact (ih (fun part' hp => h part' (List.mem_cons_of_mem _ hp)) _).bind fun q => .pure _

/-- Beside its entries, a node asks its clauses and its main validator, which need no powers. -/
theorem evaluateNode_within (n : Node) {parts : List Part}
    (h : ∀ part ∈ parts, ∀ s, Within p (part.2 s)) (c : Context) (root? : Option Tree) (t : Tree) :
    Within p (evaluateNode n parts c root? t) := by
  rw [evaluateNode]
  cases refusal? n c.mode t with
  | some payload => exact .pure _
  | none =>
    have hparts : ∀ part ∈ orderedParts root?.isNone parts, ∀ s, Within p (part.2 s) :=
      fun part hp => h part ((Slot.arrange_perm _ parts).mem_iff.1 hp)
    refine (evaluateParts_within hparts t).bind fun q => ?_
    refine (Within.mapM (fun e => (asks_rejections n _ q.1 e).within) _).bind fun rejected => ?_
    exact (asks_settle n q.1 rejected).within.bind fun result => .pure _

/-- The end of a node is logged. Its failure is raised if the node asks for it. -/
theorem announce_within {n : Node} (hmarks : p.marks) (hraises : n.raises = true → p.raises)
    (c : Context) (result : Result) : Within p (announce n c result) := by
  cases result with
  | ok v => exact (asks_trace hmarks c _ _).within
  | error payload =>
    simp only [announce]
    refine (asks_trace hmarks c _ _).within.bind fun _ => ?_
    split
    · next hn => exact (Within.log _ fun _ => hmarks).bind fun _ => .raise payload n.name (hraises hn)
    · exact .pure _

/-- A schema is built within all powers that allow it. -/
theorem nodeBuilder_within (hmarks : p.marks) (n : Node) :
    p.Allows n → ∀ c root? input, Within p (nodeBuilder n c root? input) := by
  induction n using Node.below_induction with
  | h n ih =>
    intro hn c root? input
    -- The nodes below the fields are built within the powers by induction, and with them the entries.
    have hparts : ∀ part ∈ n.entries.map (fun e => (e, entryEvaluator n e)), ∀ s,
        Within p (part.2 s) := by
      intro part hpart s
      obtain ⟨e, he, rfl⟩ := List.mem_map.1 hpart
      refine entryEvaluator_within (fun f hf => hn.admits n (.self n) f (Node.mem_fields he hf)) ?_ s
      intro f hf m hm
      have hf := Node.mem_fields he hf
      exact ih f hf m hm (hn.child hf hm)
    rw [nodeBuilder_eq_buildWith, buildWith]
    refine (Within.ofExcept (Tree.read_unraised input)).bind fun t => ?_
    refine (asks_trace hmarks c _ _).within.bind fun _ => ?_
    refine (evaluateNode_within n hparts c root? t).bind fun q => ?_
    exact (announce_within hmarks (hn.raises n (.self n)) c q.1).bind fun _ => .pure _

/-- What stands below a field of the schema is built within all powers that allow the schema. -/
theorem withinBelow_of_allows {n : Node} (h : p.Allows n) (hmarks : p.marks) {f : Field}
    (hf : f ∈ n.fields) : WithinBelow p f :=
  fun m hm => nodeBuilder_within hmarks m (h.child hf hm)

end Node

/-! ### Schemas that raise nothing -/

/-- A schema in which no node raises its failures needs no power to raise. -/
theorem allows_unraising {n : Node} (hn : ∀ m, n.Spans m → m.raises = false) :
    Powers.unraising.Allows n where
  admits _ _ _ _ _ _ := trivial
  raises m hm h := by
    rw [hn m hm] at h
    cases h

/-- A node is built locally if neither it nor a node below it raises its failures. -/
theorem nodeBuilder_local {n : Node} (hn : ∀ m, n.Spans m → m.raises = false) (c : Context)
    (root? : Option Tree) (input : List (Value × Value)) : Local (nodeBuilder n c root? input) :=
  (nodeBuilder_within trivial n (allows_unraising hn) c root? input).isLocal id

theorem build_local {n : Node} (hn : ∀ m, n.Spans m → m.raises = false) (c : Context)
    (input : Value) : Local (build n c input) := by
  cases input with
  | map entries => exact (nodeBuilder_local hn c none entries).bind fun q => local_pure _
  | _ =>
    simp only [build, hn n (.self n), Bool.false_eq_true, if_false]
    exact local_pure _

/-! ### Schemas with pure generators -/

/-- The generators of a schema do not depend on how often they were called. -/
def GeneratorsPure (n : Node) : Prop :=
  ∀ m, n.Spans m → ∀ f ∈ m.fields, ∀ a, f.auto = some a → a.generator.IsPure

namespace GeneratorsPure

variable {n : Node} {f : Field}

theorem auto (h : GeneratorsPure n) (hf : f ∈ n.fields) :
    ∀ a, f.auto = some a → a.generator.IsPure :=
  h n (.self n) f hf

theorem child {m : Node} (h : GeneratorsPure n) (hf : f ∈ n.fields)
    (hm : f.child.node? = some m) : GeneratorsPure m :=
  fun k hk => h k (.child hf hm hk)

theorem allows (h : GeneratorsPure n) : Powers.steady.Allows n where
  admits := h
  raises _ _ _ := trivial

/-- What stands below a field asks pure generators only. -/
theorem below (h : GeneratorsPure n) (hf : f ∈ n.fields) : WithinBelow .steady f :=
  withinBelow_of_allows h.allows trivial hf

theorem entryEvaluator_within (h : GeneratorsPure n) {e : Schema.Entry} (he : e ∈ n.entries)
    (s : Scope) : Within .steady (entryEvaluator n e s) :=
  Build.entryEvaluator_within (p := .steady) (fun _ hf => h.auto (Node.mem_fields he hf))
    (fun _ hf => h.below (Node.mem_fields he hf)) s

end GeneratorsPure

/-- A node is built to the same result and tree, whatever has happened before. -/
theorem nodeBuilder_steady {n : Node} (h : GeneratorsPure n) (c : Context) (root? : Option Tree)
    (input : List (Value × Value)) : Steady (nodeBuilder n c root? input) :=
  (nodeBuilder_within trivial n h.allows c root? input).steady

/-- What is announced of a node has no answer of its own, whatever is raised. -/
theorem announce_steady (n : Node) (c : Context) (result : Result) : Steady (announce n c result) :=
  (announce_within (p := .steady) trivial (fun _ => trivial) c result).steady

/-! ### Contexts -/

theorem start_trace (c : Context) (event : String) (details : List (String × Value)) (j : Journal) :
    ((trace c event details).start j).1 = .ok () ∧
      ((trace c event details).start j).2.calls = j.calls := by
  rw [trace]
  split <;> exact ⟨rfl, rfl⟩

section Contexts

variable {S T : Fault → Prop}

/-- What is traced, and in which mode, is nothing but logged. -/
theorem trace_inStep (c c' : Context) (event event' : String)
    (details details' : List (String × Value)) :
    InStep S T Eq (trace c event details) (trace c' event' details') := by
  intro j k hcalls
  obtain ⟨hx, hxcalls⟩ := start_trace c event details j
  obtain ⟨hy, hycalls⟩ := start_trace c' event' details' k
  rw [hx, hy, hxcalls, hycalls]
  exact .inr (.inr ⟨rfl, hcalls⟩)

theorem raisePayload_inStep {α : Type} (p : Payload) (node : String) :
    InStep S T Eq (raisePayload p node : Run α) (raisePayload p node) :=
  (InStep.log Eq rfl _ _ _ _).bind fun _ _ _ => .throw _

/-- A node is finished alike in two contexts: its failure is raised in both or in none. -/
theorem announce_inStep (n : Node) (c c' : Context) (result : Result) :
    InStep S T Eq (announce n c result) (announce n c' result) := by
  cases result with
  | ok v => exact trace_inStep c c' _ _ _ _
  | error p =>
    simp only [announce]
    refine (trace_inStep c c' _ _ _ _).bind fun _ _ _ => ?_
    split
    · exact raisePayload_inStep p n.name
    · exact .pure rfl

end Contexts

end Intake.Build
