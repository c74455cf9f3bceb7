import Intake.Proofs.Schema.Cycles

/-!
# Entries that wait

An entry waits for another one of its node when one of its fields copies from there
(`Entry.Awaits`). A path counts that a field of the entry declares itself, anchored ones at the root
only. There those count as well that are anchored at the root and declared anywhere below the entry.

The order of evaluation is the greedy one (`evaluationOrder_greedy`): of the entries that are ready,
the one of lowest stage comes, and the one declared first among these. Without cycles every entry
comes behind all it waits for. With cycles an entry may come too early that is on none of them
(`evaluationOrder_behind_iff`), as all that are left may be chosen once none is ready.
-/

namespace Intake.Schema

/-- A field copies from a name. -/
inductive Field.CopiesFrom (atRoot : Bool) (name : String) (f : Field) : Prop
  /-- The path that the field copies from begins at the name. -/
  | own (path : String) (source : f.source = some path)
    (counts : atRoot = true ∨ (Path.ofString path).anchored = false)
    (first : (Path.ofString path).segments.head? = some name)
  /-- At the root, so does an anchored path that is declared below the field. -/
  | below (root : atRoot = true) (n m : Node) (child : f.child.node? = some n) (spans : n.Spans m)
    (g : Field) (field : g ∈ m.fields) (path : String) (source : g.source = some path)
    (anchored : (Path.ofString path).anchored = true)
    (first : (Path.ofString path).segments.head? = some name)

/-- A path is waited for under the name of its first segment, at the root also if it is anchored. -/
theorem mem_sourceOf {atRoot : Bool} {path x : String} :
    x ∈ sourceOf atRoot path ↔ (atRoot = true ∨ (Path.ofString path).anchored = false) ∧
      (Path.ofString path).segments.head? = some x := by
  rw [sourceOf]
  cases (Path.ofString path).segments <;> cases atRoot <;>
    cases (Path.ofString path).anchored <;> simp [eq_comm]

theorem mem_anchoredSourceOf {path x : String} :
    x ∈ anchoredSourceOf path ↔ (Path.ofString path).anchored = true ∧
      (Path.ofString path).segments.head? = some x := by
  rw [anchoredSourceOf]
  cases (Path.ofString path).segments <;> cases (Path.ofString path).anchored <;> simp [eq_comm]

theorem Child.exists_of_mem_anchoredSources {c : Child} {x : String} (h : x ∈ c.anchoredSources) :
    ∃ m, c.node? = some m ∧ x ∈ m.anchoredSources := by
  cases c with
  | none => exact absurd h List.not_mem_nil
  | single m => exact ⟨m, rfl, h⟩
  | many m => exact ⟨m, rfl, h⟩

/-- A name that a node copies from at the root is one that a field there or below copies from. -/
theorem Node.exists_of_mem_anchoredSources {n : Node} {x : String} (h : x ∈ n.anchoredSources) :
    ∃ m, n.Spans m ∧ ∃ f ∈ m.fields, ∃ path, f.source = some path ∧
      (Path.ofString path).anchored = true ∧ (Path.ofString path).segments.head? = some x := by
  induction n using Node.below_induction with
  | h n ih =>
    rw [Node.anchoredSources_eq, List.mem_flatMap] at h
    obtain ⟨f, hf, hx⟩ := h
    rw [Field.anchoredSources_eq, List.mem_append] at hx
    rcases hx with hx | hx
    · cases hsource : f.source with
      | none => simp [hsource] at hx
      | some path =>
        rw [hsource] at hx
        exact ⟨n, .self n, f, hf, path, hsource, mem_anchoredSourceOf.1 hx⟩
    · obtain ⟨m, hm, hx⟩ := Child.exists_of_mem_anchoredSources hx
      obtain ⟨k, hk, hfield⟩ := ih f hf m hm hx
      exact ⟨k, .child hf hm hk, hfield⟩

/-- The sources of a field are the names it copies from. -/
theorem Field.mem_sources {atRoot : Bool} {f : Field} {x : String} :
    x ∈ f.sources atRoot ↔ f.CopiesFrom atRoot x := by
  rw [Field.sources, List.mem_append]
  constructor
  · rintro (hx | hx)
    · cases hsource : f.source with
      | none => simp [hsource] at hx
      | some path =>
        rw [hsource] at hx
        obtain ⟨hcounts, hfirst⟩ := mem_sourceOf.1 hx
        exact .own path hsource hcounts hfirst
    · cases atRoot with
      | false => simp at hx
      | true =>
        obtain ⟨n, hn, hx⟩ := Child.exists_of_mem_anchoredSources hx
        obtain ⟨m, hm, g, hg, path, hsource, hanchored, hfirst⟩ :=
          Node.exists_of_mem_anchoredSources hx
        exact .below rfl n m hn hm g hg path hsource hanchored hfirst
  · rintro (⟨path, hsource, hcounts, hfirst⟩ |
      ⟨rfl, n, m, hn, hm, g, hg, path, hsource, hanchored, hfirst⟩)
    · left
      rw [hsource]
      exact mem_sourceOf.2 ⟨hcounts, hfirst⟩
    · right
      rw [if_pos rfl, Child.anchoredSources_of_node? hn]
      exact Node.mem_anchoredSources hm hg hsource hanchored hfirst

namespace Entry

/-- An entry waits for another one of the same list: one of its fields copies from there. -/
structure Awaits (atRoot : Bool) (es : List Entry) (x y : Entry) : Prop where
  left : x ∈ es
  right : y ∈ es
  source : ∃ f ∈ x.fields, f.CopiesFrom atRoot y.name
  ne : y.name ≠ x.name

/-- The rank of an entry: its stage, then its place in the declaration. -/
def rank (es : List Entry) (x : Entry) : ℕ ×ₗ ℕ :=
  toLex (x.stage, (es.map Entry.name).idxOf x.name)

/-- One entry waits for another one, and both are of higher rank than a third one. -/
structure AwaitsBehind (atRoot : Bool) (es : List Entry) (x a b : Entry) : Prop where
  awaits : Awaits atRoot es a b
  left : rank es x < rank es a
  right : rank es x < rank es b

variable {atRoot : Bool} {es : List Entry}

theorem awaits_slot : Slot.Awaits (Entry.slot atRoot) es = Awaits atRoot es := by
  have hsource : ∀ x y : Entry, y.name ∈ (x.slot atRoot).sources ↔
      ∃ f ∈ x.fields, f.CopiesFrom atRoot y.name := fun x y => by
    simp [Entry.slot, List.mem_flatMap, Field.mem_sources]
  funext x y
  refine propext ⟨fun h => ?_, fun h => ?_⟩
  · exact ⟨h.left, h.right, (hsource x y).1 h.source, h.ne⟩
  · exact ⟨h.left, h.right, (hsource x y).2 h.source, h.ne⟩

theorem awaits_iff {x y : Entry} : Awaits atRoot es x y ↔
    x ∈ es ∧ y ∈ es ∧ y.name ∈ (x.slot atRoot).sources ∧ y.name ≠ x.name := by
  rw [← awaits_slot]
  exact ⟨fun h => ⟨h.left, h.right, h.source, h.ne⟩, fun ⟨hx, hy, hsource, hne⟩ =>
    ⟨hx, hy, hsource, hne⟩⟩

theorem awaitsBehind_slot :
    Slot.AwaitsBehind (Entry.slot atRoot) es = AwaitsBehind atRoot es := by
  funext x a b
  refine propext ⟨fun h => ?_, fun h => ?_⟩
  · exact ⟨awaits_slot ▸ h.awaits, h.left, h.right⟩
  · exact ⟨awaits_slot ▸ h.awaits, h.left, h.right⟩

end Entry

/-- The order of evaluation leaves no entry out. Where some entry left has all that it waits for
    behind it, the next one is the one of least rank among those that do. Without cycles every entry
    comes behind all that it waits for. -/
theorem evaluationOrder_greedy (atRoot : Bool) {es : List Entry}
    (hnodup : (es.map Entry.name).Nodup) :
    (evaluationOrder atRoot es).Perm es ∧
      (∀ pre x post, evaluationOrder atRoot es = pre ++ x :: post →
        ∀ y ∈ x :: post, (∀ z, Entry.Awaits atRoot es y z → z ∈ pre) →
          (∀ z, Entry.Awaits atRoot es x z → z ∈ pre) ∧ Entry.rank es x ≤ Entry.rank es y) ∧
      ((∀ x, ¬Relation.TransGen (Entry.Awaits atRoot es) x x) →
        ∀ x y, Entry.Awaits atRoot es x y → [y, x].Sublist (evaluationOrder atRoot es)) := by
  refine ⟨Slot.arrange_perm _ _, fun pre x post hsplit y hy hready => ?_, fun hacyclic x y h => ?_⟩
  · obtain ⟨hmay, hleast⟩ := Slot.arrange_least hnodup hsplit
    rw [← Entry.awaits_slot] at hready ⊢
    exact ⟨hmay.2.resolve_right fun hnone => hnone y hy hready, hleast y ⟨hy, .inl hready⟩⟩
  · rw [← Entry.awaits_slot] at hacyclic h
    have hback := fun hyx => hacyclic x (.head h hyx)
    refine (Slot.sublist_arrange_iff hnodup h hback).2 ?_
    rintro ⟨z, -, hz⟩
    exact hacyclic z (Relation.TransGen.mono (fun _ _ => Slot.AwaitsBehind.awaits) _ _ hz)

/-- A field that is copied from a path. -/
def copiedField (name path : String) : Field :=
  ⟨name, "any", none, none, [], [], none, none, none, some path, .none⟩

/-- A field with a single field of its own below it. -/
def fieldAbove (name : String) (below : Field) : Field :=
  ⟨name, "any", none, none, [], [], none, none, none, none,
    .single ⟨"Struct", [.field below], false, false, false, none, none, []⟩⟩

namespace Session

/-- The session keeps the role that stands in the authorization, which is declared behind it. -/
def session : Entry :=
  .field (fieldAbove "session" (copiedField "role" "root.auth.role"))

/-- The authorization, with the role. -/
def auth : Entry :=
  .field (fieldAbove "auth" (copiedField "role" "granted"))

/-- The entries, in the order of their declaration. -/
def entries : List Entry :=
  [session, auth]

theorem sources_eq :
    (session.slot true).sources = ["auth"] ∧ (auth.slot true).sources = [] := by
  decide +kernel

theorem awaits_iff {x y : Entry} :
    Entry.Awaits true entries x y ↔ x = session ∧ y = auth := by
  rw [Entry.awaits_iff]
  constructor
  · rintro ⟨hx, hy, hsource, hne⟩
    rw [entries, List.mem_pair] at hx hy
    rcases hx with rfl | rfl
    · exact ⟨rfl, hy.resolve_left fun h => hne (h ▸ rfl)⟩
    · rw [sources_eq.2] at hsource
      exact absurd hsource List.not_mem_nil
  · rintro ⟨rfl, rfl⟩
    rw [sources_eq.1]
    exact ⟨by simp [entries], by simp [entries], by decide, by decide⟩

theorem not_transGen_self (x : Entry) :
    ¬Relation.TransGen (Entry.Awaits true entries) x x := by
  intro h
  obtain ⟨y, hxy, -⟩ := Relation.TransGen.head'_iff.1 h
  obtain ⟨z, -, hzx⟩ := Relation.TransGen.tail'_iff.1 h
  have hname := congrArg Entry.name
    ((awaits_iff.1 hxy).1.symm.trans (awaits_iff.1 hzx).2)
  exact absurd hname (by decide)

theorem auth_before_session :
    (entries.map Entry.name).Nodup ∧
      (evaluationOrder true entries).Perm entries ∧
      [auth, session].Sublist (evaluationOrder true entries) := by
  have hnodup : (entries.map Entry.name).Nodup := by decide
  obtain ⟨hperm, -, hbehind⟩ := evaluationOrder_greedy true hnodup
  exact ⟨hnodup, hperm, hbehind not_transGen_self _ _ (awaits_iff.2 ⟨rfl, rfl⟩)⟩

end Session

/-- An entry comes behind one that it waits for, and that does not wait for it, unless the latter
    waits, through entries of higher rank than the former, for one that waits for itself. -/
theorem evaluationOrder_behind_iff (atRoot : Bool) {es : List Entry}
    (hnodup : (es.map Entry.name).Nodup) {x y : Entry} (h : Entry.Awaits atRoot es x y)
    (hback : ¬Relation.TransGen (Entry.Awaits atRoot es) y x) :
    [y, x].Sublist (evaluationOrder atRoot es) ↔
      ¬∃ z, Relation.ReflTransGen (Entry.AwaitsBehind atRoot es x) y z ∧
        Relation.TransGen (Entry.AwaitsBehind atRoot es x) z z := by
  rw [← Entry.awaits_slot] at h hback
  rw [← Entry.awaitsBehind_slot]
  exact Slot.sublist_arrange_iff hnodup h hback

namespace Invoice

/-- The total of an invoice, which is copied from the gross amount. -/
def total : Entry :=
  .field (copiedField "total" "gross")

/-- The net amount, copied from the gross one. -/
def net : Entry :=
  .field (copiedField "net" "gross")

/-- The gross amount, copied from the net one. -/
def gross : Entry :=
  .field (copiedField "gross" "net")

/-- The entries, in the order of their declaration. -/
def entries : List Entry :=
  [total, net, gross]

theorem total_awaits_gross : Entry.Awaits false entries total gross := by
  have hsources : (total.slot false).sources = ["gross"] := by decide +kernel
  rw [Entry.awaits_iff, hsources]
  exact ⟨by simp [entries], by simp [entries], by decide, by decide⟩

theorem gross_not_awaits_total :
    ¬Relation.TransGen (Entry.Awaits false entries) gross total := by
  have hsources : ∀ e ∈ entries, total.name ∉ (e.slot false).sources := by
    decide +kernel
  intro h
  obtain ⟨e, -, he⟩ := Relation.TransGen.tail'_iff.1 h
  obtain ⟨hmem, -, hsource, -⟩ := Entry.awaits_iff.1 he
  exact hsources e hmem hsource

theorem gross_before_total_iff :
    (entries.map Entry.name).Nodup ∧
      ([gross, total].Sublist (evaluationOrder false entries) ↔
        ¬∃ z, Relation.ReflTransGen (Entry.AwaitsBehind false entries total) gross z ∧
          Relation.TransGen (Entry.AwaitsBehind false entries total) z z) := by
  have hnodup : (entries.map Entry.name).Nodup := by decide
  exact ⟨hnodup, evaluationOrder_behind_iff false hnodup total_awaits_gross gross_not_awaits_total⟩

/-- The total waits for the gross amount and is on no cycle, and yet it comes first. -/
theorem total_before_gross :
    (entries.map Entry.name).Nodup ∧
      Entry.Awaits false entries total gross ∧
      ¬Relation.TransGen (Entry.Awaits false entries) gross total ∧
      ¬[gross, total].Sublist (evaluationOrder false entries) := by
  have hnames : (evaluationOrder false entries).map Entry.name =
      ["total", "net", "gross"] := by
    decide +kernel
  refine ⟨by decide, total_awaits_gross, gross_not_awaits_total, fun h => ?_⟩
  have hsublist := hnames ▸ h.map Entry.name
  exact absurd hsublist (by decide)

end Invoice

end Intake.Schema
