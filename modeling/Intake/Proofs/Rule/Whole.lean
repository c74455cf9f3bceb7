import Intake.Proofs.Rule.Brackets
import Intake.Proofs.Rule.Enumerations
import Intake.Proofs.Rule.Literal

/-!
# Texts that are one piece

A text is *whole* for some separators (`Whole`) when a reader meets none of them where separators
count and is outside of brackets and quotes at its end. These are the texts that are divided into
one piece (`splitFrom_eq_singleton_iff`). Blanks around a whole text and further separators do not
matter (`Whole.trim`, `Whole.mono`), and inside of brackets nothing but balance is asked
(`Whole.inside`, `Whole.bracketed`).

So an enumeration of one item is that item, written as it is or without the blanks around it
(`readEnumSet_single`, `readEnumSet_trim`). This holds of enumerations of every kind, as each item
of them is read to one value (`exists_of_readItem`).
-/

namespace Intake.Rule

open Intake.Text

/-- A reader meets no separator in the text, and is outside of brackets and quotes at its end. -/
def Whole (separators : List (List Char)) (scan : Scan) : List Char → Prop
  | [] => scan = .outside
  | c :: rest =>
    (scan.divides c = false ∨ separatorAt? separators (c :: rest) = none) ∧
      ∃ scan', scan.step c = some scan' ∧ Whole separators scan' rest

/-- No separator stands at the beginning of the text. -/
theorem separatorAt?_eq_none_iff {separators : List (List Char)}
    (hne : ∀ x ∈ separators, x ≠ []) {s : List Char} :
    separatorAt? separators s = none ↔ ∀ x ∈ separators, ¬ x <+: s := by
  rw [separatorAt?, Option.filter_eq_none_iff]
  constructor
  · intro h x hx hbegins
    cases hfind : separators.find? (·.isPrefixOf s) with
    | none =>
      have hnot := List.find?_eq_none.mp hfind x hx
      exact hnot (List.isPrefixOf_iff_prefix.mpr hbegins)
    | some y =>
      have hy := h y hfind
      simp [hne y (List.mem_of_find?_eq_some hfind)] at hy
  · intro h x hx
    exact absurd (List.isPrefixOf_iff_prefix.mp (by simpa using List.find?_some hx))
      (h x (List.mem_of_find?_eq_some hx))

/-- The texts that are divided into one piece are whole, and are that piece. -/
theorem splitFrom_eq_singleton_iff {text : List Char} {separators : List (List Char)} {scan : Scan}
    {s p : List Char} :
    splitFrom text separators scan 0 s = .ok [p] ↔ p = s ∧ Whole separators scan s := by
  induction s generalizing scan p with
  | nil => simp [splitFrom_nil_eq_ok, Whole, and_comm]
  | cons c s ih =>
    constructor
    · intro h
      rcases splitFrom_cases h with
        ⟨separator, more, -, -, hmore, heq⟩ | ⟨scan', first, more, hsep, hstep, hmore, heq⟩
      · obtain ⟨q, qs, rfl⟩ := exists_cons_of_splitFrom hmore
        cases heq
      · obtain ⟨rfl, rfl⟩ := List.cons.inj heq
        obtain ⟨rfl, hwhole⟩ := ih.mp hmore
        exact ⟨rfl, hsep, scan', hstep, hwhole⟩
    · rintro ⟨rfl, hsep, scan', hstep, hwhole⟩
      exact splitFrom_step hstep hsep (ih.mpr ⟨rfl, hwhole⟩)

namespace Whole

variable {separators : List (List Char)} {scan : Scan} {s t : List Char}

theorem split_eq (h : Whole separators .outside s) : split separators s = .ok [s] :=
  splitFrom_eq_singleton_iff.mpr ⟨rfl, h⟩

theorem run (h : Whole separators scan s) : scan.run s = some .outside := by
  induction s generalizing scan with
  | nil => exact congrArg some h
  | cons c s ih =>
    obtain ⟨-, scan', hstep, hrest⟩ := h
    rw [Scan.run_cons, hstep]
    exact ih hrest

theorem balanced (h : Whole separators .outside s) : Balanced s :=
  h.run

/-- Blanks behind a whole text and some of the separators may be left out. -/
theorem of_append_blank {separators' : List (List Char)} (hne : ∀ x ∈ separators, x ≠ [])
    (hsub : separators' ⊆ separators) (hquote : ∀ q ∈ scan.quote, isQuote q = true)
    (ht : allBlank t = true) (h : Whole separators scan (s ++ t)) : Whole separators' scan s := by
  induction s generalizing scan with
  | nil =>
    have hrun := h.run
    rw [List.nil_append, Scan.run_blank hquote ht] at hrun
    exact Option.some.inj hrun
  | cons c s ih =>
    rw [List.cons_append] at h
    obtain ⟨hsep, scan', hstep, hrest⟩ := h
    refine ⟨hsep.imp_right fun hsep => ?_, scan', hstep,
      ih (Scan.isQuote_of_step hstep hquote) hrest⟩
    rw [← List.cons_append, separatorAt?_eq_none_iff hne] at hsep
    rw [separatorAt?_eq_none_iff fun x hx => hne x (hsub hx)]
    exact fun x hx hbegins => hsep x (hsub hx) (hbegins.trans (List.prefix_append _ t))

/-- Blanks before a whole text may be left out. -/
theorem of_blank_append (hs : allBlank s = true) (h : Whole separators .outside (s ++ t)) :
    Whole separators .outside t := by
  induction s with
  | nil => exact h
  | cons c s ih =>
    rw [allBlank, List.all_cons, Bool.and_eq_true] at hs
    obtain ⟨-, scan', hstep, hrest⟩ := h
    have houtside := Scan.step_of_isBare 0 (isBare_of_isBlank hs.1)
    obtain rfl : scan' = .outside := Option.some.inj (hstep.symm.trans houtside)
    exact ih hs.2 hrest

/-- A whole text is whole without the blanks around it. -/
theorem trim (hne : ∀ x ∈ separators, x ≠ []) (h : Whole separators .outside s) :
    Whole separators .outside (trim s) := by
  obtain ⟨a, b, ha, hb, hs⟩ := exists_trim s
  rw [hs] at h
  refine of_blank_append ha (h.of_append_blank hne (List.Subset.refl _) nofun hb)

/-- A whole text is whole for some of the separators. -/
theorem mono {separators' : List (List Char)} (hne : ∀ x ∈ separators, x ≠ [])
    (hsub : separators' ⊆ separators) (h : Whole separators .outside s) :
    Whole separators' .outside s :=
  of_append_blank (t := []) hne hsub nofun rfl (by rwa [List.append_nil])

/-- Characters that are no brackets and begin no separators are read on. -/
theorem bare_append (hs : ∀ c ∈ s, isBare c = true ∧
      ∀ rest, separatorAt? separators (c :: rest) = none)
    (h : Whole separators .outside t) : Whole separators .outside (s ++ t) := by
  induction s with
  | nil => exact h
  | cons c s ih =>
    obtain ⟨hbare, hsep⟩ := hs c List.mem_cons_self
    exact ⟨.inr (hsep _), .outside, Scan.step_of_isBare 0 hbare,
      ih fun d hd => hs d (List.mem_cons_of_mem c hd)⟩

/-- Where a bracket is open, no separator counts. -/
theorem inside {scan' : Scan} (n : Nat) (hs : scan.run s = some scan')
    (h : Whole separators ⟨scan'.depth + (n + 1), scan'.quote⟩ t) :
    Whole separators ⟨scan.depth + (n + 1), scan.quote⟩ (s ++ t) := by
  induction s generalizing scan with
  | nil =>
    obtain rfl : scan = scan' := Option.some.inj hs
    exact h
  | cons c s ih =>
    rw [Scan.run_cons] at hs
    obtain ⟨next, hnext, hrest⟩ := Option.bind_eq_some_iff.mp hs
    exact ⟨.inl (by simp [Scan.divides]), _, Scan.step_deeper hnext (n + 1), ih hrest⟩

/-- A balanced text in brackets ends a whole text. -/
theorem bracketed {o c : Char} (ho : isOpening o = true) (hc : isClosing c = true)
    (hs : Balanced s) : Whole separators .outside (o :: (s ++ [c])) := by
  refine ⟨.inl (by simp [Scan.divides, ho]), _, Scan.step_of_isOpening 0 ho, ?_⟩
  refine inside 0 hs ⟨.inl (by simp [Scan.divides]), _, Scan.step_of_isClosing 0 hc, rfl⟩

end Whole

/-! ### Enumerations of one item -/

section SingleItem

variable {kind : String} {s : List Char} {w : Value}

theorem enumSeparators_ne_nil : ∀ x ∈ enumSeparators, x ≠ [] := by
  decide

/-- The items that texts of a kind denote. -/
inductive IsItem : String → Value → Prop
  | string (t : String) : IsItem "String" (.text t)
  | atom (t : String) : IsItem "Atom" (.text t)
  | integer (n : Int) : IsItem "Integer" (.int n)
  | float (x : Number.Binary64) : IsItem "Float" (.float x)
  | map {es : List (Value × Value)} : (Value.map es).WellFormed → IsItem "Map" (.map es)

/-- A text denotes one item of a kind that is known. -/
theorem exists_of_readItem {ws : List Value} (hkind : kind ∈ EnumSet.kinds)
    (h : readItem kind s = .ok ws) : ∃ w, ws = [w] ∧ IsItem kind w := by
  simp only [EnumSet.kinds, List.mem_cons, List.not_mem_nil, or_false] at hkind
  rcases hkind with rfl | rfl | rfl | rfl | rfl <;> simp only [readItem] at h
  · cases h
    exact ⟨_, rfl, .string _⟩
  · cases h
    exact ⟨_, rfl, .atom _⟩
  · split at h
    · obtain ⟨n, -, rfl⟩ := map_eq_ok.mp h
      exact ⟨_, rfl, .integer n⟩
    · cases h
  · split at h
    · cases h
      exact ⟨_, rfl, .float _⟩
    · cases h
  · split at h
    · next v hread =>
      split at h
      · next hmap =>
        cases h
        cases v <;> cases hmap
        exact ⟨_, rfl, .map (Literal.wellFormed_of_read hread)⟩
      · cases h
    all_goals cases h

theorem length_of_readItems {pieces : List (List Char)} {ws : List Value}
    (hkind : kind ∈ EnumSet.kinds) (h : readItems kind pieces = .ok ws) :
    ws.length = pieces.length := by
  induction pieces generalizing ws with
  | nil =>
    cases h
    rfl
  | cons p pieces ih =>
    rw [readItems] at h
    split at h
    · cases h
    obtain ⟨item, hitem, h⟩ := bind_eq_ok.mp h
    obtain ⟨rest, hrest, h⟩ := bind_eq_ok.mp h
    obtain ⟨w, rfl, -⟩ := exists_of_readItem hkind hitem
    cases h
    simp [ih hrest]

/-- An enumeration of one item is the text of the item. -/
theorem readEnumSet_single (hkind : kind ∈ EnumSet.kinds)
    (h : readEnumSet kind s = .ok ⟨kind, [w]⟩) :
    Whole enumSeparators .outside s ∧ trim s ≠ [] ∧ readItem kind (trim s) = .ok [w] := by
  obtain ⟨pieces, hpieces, h⟩ := bind_eq_ok.mp h
  dsimp only at h
  split at h
  · cases h
  obtain ⟨items, hitems, h⟩ := bind_eq_ok.mp h
  cases h
  obtain ⟨parts, hsplit, rfl⟩ := map_eq_ok.mp hpieces
  obtain ⟨p, rfl⟩ : ∃ p, parts = [p] := by
    have hlength := length_of_readItems hkind hitems
    rw [List.length_map, List.length_singleton, eq_comm] at hlength
    exact List.length_eq_one_iff.mp hlength
  obtain ⟨rfl, hwhole⟩ := splitFrom_eq_singleton_iff.mp (mapError_eq_ok.mp hsplit)
  rw [List.map_singleton, readItems] at hitems
  split at hitems
  · cases hitems
  next hne =>
  obtain ⟨item, hitem, hitems⟩ := bind_eq_ok.mp hitems
  obtain ⟨rest, hrest, hitems⟩ := bind_eq_ok.mp hitems
  cases hrest
  rw [List.append_nil] at hitems
  cases hitems
  exact ⟨hwhole, by simpa using hne, hitem⟩

/-- Blanks around a single item do not count. -/
theorem readEnumSet_trim (hkind : kind ∈ EnumSet.kinds)
    (h : readEnumSet kind s = .ok ⟨kind, [w]⟩) : readEnumSet kind (trim s) = .ok ⟨kind, [w]⟩ := by
  obtain ⟨hwhole, hne, hitem⟩ := readEnumSet_single hkind h
  have hsplit := (hwhole.trim enumSeparators_ne_nil).split_eq
  have hempty : (trim s).isEmpty = false := by simpa using hne
  rw [readEnumSet, Form.trimmedPieces_eq hsplit, List.map_singleton, trim_trim]
  simp [bind, Except.bind, hempty, readItems, hitem, pure, Except.pure]

end SingleItem

end Intake.Rule
