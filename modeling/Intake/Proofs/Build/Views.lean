import Intake.Proofs.Build.Copies

/-!
# What an entry sees

While an entry is evaluated, the tree of its node is resolved in part. It holds what the entries
before it resolve to, and for the entry itself and those behind it what was sent
(`Report.Shows`). A node below the root looks at the root tree as it is while the entry of the root
is evaluated at which the node stands (`Report.Builds.views`).

What a path leads to is therefore known once a build has finished: it is looked up in the resolved
tree, or, if it begins at an entry that was pending, in the tree of the input (`Report.treeFor`).
-/

namespace Intake.Build

open Intake.Schema

/-- The tree is that of a node while the entry of a name is evaluated: what is pending is there as it
    was sent, and all else as it is in the resolved tree. -/
structure Report.Shows (r : Report) (atRoot : Bool) (name : String) (here : Tree) : Prop where
  pending : ∀ x ∈ r.node.pendingAt atRoot name, here.get? x = r.input.get? x
  settled : ∀ x, x ∉ r.node.pendingAt atRoot name → here.get? x = r.tree.get? x

/-- The path begins at a name that is pending while the entry of a name is evaluated. -/
def Report.Awaits (r : Report) (atRoot : Bool) (name path : String) : Prop :=
  ∃ x ∈ r.node.pendingAt atRoot name, (Path.ofString path).first? = some x

instance (r : Report) (atRoot : Bool) (name path : String) :
    Decidable (r.Awaits atRoot name path) :=
  inferInstanceAs (Decidable (∃ x ∈ r.node.pendingAt atRoot name, _))

/-- The tree at which an entry was evaluated. -/
theorem Step.Taken.shows {n : Node} {c : Context} {root? : Option Tree}
    {input : List (Value × Value)} {r : Report} {s : Step} {pre post : List Schema.Entry}
    {here : Tree} (hn : n.IsProper) (hr : Reported n c root? input r)
    (h : s.Taken n c root? (evaluationOrder root?.isNone n.entries) r.input r.tree pre post here) :
    r.Shows root?.isNone s.entry.name here := by
  have hnodup := hn.nodup_evaluationOrder root?.isNone
  have hpending : r.node.pendingAt root?.isNone s.entry.name =
      s.entry.name :: post.map Entry.name := by
    rw [hr.node]
    exact Node.pendingAt_of_split hn h.split
  constructor
  · rw [hpending]
    intro x hx
    rcases List.mem_cons.1 hx with rfl | hpost
    · exact h.get?_own hnodup
    · -- An entry behind this one is not one before it.
      refine h.unresolved x fun hpre => ?_
      rw [h.split, List.map_append, List.nodup_append] at hnodup
      exact hnodup.2.2 x hpre x (List.mem_cons_of_mem _ hpost) rfl
  · rw [hpending]
    intro x hx
    rw [List.mem_cons, not_or] at hx
    exact (h.resolved x hx.1 hx.2).symm

/-! ### The nodes of a run -/

/-- A node was built in a run: the root, or a node below a step of the root. -/
inductive Report.Builds (r : Report) : Option Step → Report → Prop
  | root : Builds r none r
  | below {s : Step} {q : Report} : s ∈ r.steps → s.Above q → Builds r (some s) q

/-- The name of the entry of the root at which an entry stands: that of the step above it, or its
    own at the root. -/
def rootName (above : Option Step) (name : String) : String :=
  above.elim name (·.entry.name)

section Views

variable {n : Node} {c : Context} {input : List (Value × Value)} {r q : Report}
  {above : Option Step}

/-- A node that was built is one of the schema. Below the root it looks at the root tree as it is
    while the entry above the node is evaluated. -/
theorem Report.Builds.reported (h : r.Builds above q) (hn : n.WellFormed)
    (hr : Reported n c none input r) :
    ∃ m, n.Spans m ∧ ∃ root? input', Reported m c root? input' q ∧ root?.isNone = above.isNone ∧
      ∀ root, root? = some root → ∃ s, above = some s ∧ r.Shows true s.entry.name root := by
  cases h with
  | root => exact ⟨n, .self n, none, input, hr, rfl, by simp⟩
  | @below s q hs habove =>
    obtain ⟨hentry, _, _, here, htaken⟩ := hr.taken s hs
    obtain ⟨f, hf, m, hm, k, hk, input', hq⟩ := habove.reported hn hentry htaken.trials
    refine ⟨k, .child (Node.mem_fields hentry hf) hm hk, some here, input', hq, rfl, ?_⟩
    rintro root ⟨⟩
    exact ⟨s, rfl, htaken.shows hn.proper hr⟩

end Views

end Intake.Build
