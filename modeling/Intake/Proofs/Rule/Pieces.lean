import Intake.Proofs.Rule.Whole

/-!
# Pieces put together again

A reader of rules keeps the depth of brackets and the quote that is open. Where it gets to can be
told without it: the depth is the number of opening brackets outside of quotes less that of closing
ones (`bracketDepth`), and a quote is left open or not (`leftOpen`). A text is balanced just when no
beginning of it has a depth below zero, its own depth is zero and no quote is left open
(`balanced_iff_depth`).

* `exists_split_iff`: the texts that can be divided are the balanced ones;
* `Joined.intercalate_eq`: the pieces joined by the separator are the text;
* `whole_of_split`: a piece is not divided any further;
* `balanced_of_group`: what lies between parentheses that belong together is balanced.

So nothing is lost when a text is divided, and what is found between parentheses can be divided
(`split_lossless`).
-/

namespace Intake.Rule

/-! ### The depth of brackets -/

/-- The quote that is open behind a character. -/
def quoteBehind (quote : Option Char) (c : Char) : Option Char :=
  match quote with
  | some q => if c = q then none else some q
  | none => if isQuote c then some c else none

/-- The quote that is open behind a text. -/
def leftOpen (quote : Option Char) (s : List Char) : Option Char :=
  s.foldl quoteBehind quote

/-- The characters of a text outside of quotes. -/
def outsideQuotes (quote : Option Char) : List Char → List Char
  | [] => []
  | c :: s =>
    let rest := outsideQuotes (quoteBehind quote c) s
    if quote.isNone && !isQuote c then c :: rest else rest

/-- How many more brackets a text opens than it closes, outside of quotes. -/
def rise (quote : Option Char) (s : List Char) : Int :=
  (outsideQuotes quote s).countP isOpening - (outsideQuotes quote s).countP isClosing

/-- The depth of brackets behind a text. -/
def bracketDepth (s : List Char) : Int :=
  rise none s

theorem rise_cons (quote : Option Char) (c : Char) (s : List Char) :
    rise quote (c :: s) = rise quote [c] + rise (quoteBehind quote c) s := by
  have hcons : outsideQuotes quote (c :: s) =
      outsideQuotes quote [c] ++ outsideQuotes (quoteBehind quote c) s := by
    simp only [outsideQuotes]
    split <;> rfl
  simp only [rise, hcons, List.countP_append]
  omega

/-- A reader takes a step unless the depth would fall below zero, and then keeps the depth and the
    quote. -/
theorem Scan.step_eq_some_iff {scan scan' : Scan} {c : Char} :
    scan.step c = some scan' ↔ 0 ≤ scan.depth + rise scan.quote [c] ∧
      (scan'.depth : Int) = scan.depth + rise scan.quote [c] ∧
      scan'.quote = quoteBehind scan.quote c := by
  obtain ⟨depth, quote⟩ := scan
  obtain ⟨depth', quote'⟩ := scan'
  cases quote with
  | some q =>
    have hrise : rise (some q) [c] = 0 := rfl
    rw [step_quoted, hrise]
    simp only [quoteBehind]
    split <;> grind
  | none =>
    have hrise : rise none [c] = if isQuote c then 0 else if isOpening c then 1 else
        if isClosing c then -1 else 0 := by
      by_cases hquote : isQuote c = true
      · simp [rise, outsideQuotes, hquote]
      · have hboth : isOpening c = true → isClosing c = false := not_closing_of_opening
        cases hopening : isOpening c <;> cases hclosing : isClosing c <;>
          simp_all [rise, outsideQuotes]
    rw [hrise]
    simp only [step, quoteBehind]
    grind

/-- A reader gets through a text unless the depth falls below zero on the way. -/
theorem Scan.run_eq_some_iff {scan scan' : Scan} {s : List Char} :
    scan.run s = some scan' ↔ (∀ t, t <+: s → 0 ≤ scan.depth + rise scan.quote t) ∧
      (scan'.depth : Int) = scan.depth + rise scan.quote s ∧
      scan'.quote = leftOpen scan.quote s := by
  induction s generalizing scan with
  | nil =>
    obtain ⟨depth, quote⟩ := scan
    obtain ⟨depth', quote'⟩ := scan'
    have hrise : rise quote [] = 0 := rfl
    simp only [List.prefix_nil, forall_eq, hrise, leftOpen, List.foldl_nil]
    rw [run, List.foldlM_nil, Option.pure_def]
    grind
  | cons c s ih =>
    rw [run_cons, Option.bind_eq_some_iff]
    constructor
    · rintro ⟨next, hstep, hrest⟩
      obtain ⟨hfirst, hdepth, hquote⟩ := step_eq_some_iff.mp hstep
      obtain ⟨hpath, hend, hleft⟩ := ih.mp hrest
      rw [hquote] at hpath hend hleft
      refine ⟨fun t ht => ?_, by rw [rise_cons]; omega, hleft⟩
      rcases List.prefix_cons_iff.mp ht with rfl | ⟨t, rfl, ht⟩
      · exact Int.add_nonneg (Int.natCast_nonneg _) (Int.le_refl 0)
      · have hnonneg := hpath t ((List.prefix_cons_inj c).mp ht)
        rw [rise_cons]
        omega
    · rintro ⟨hpath, hend, hleft⟩
      have hfirst := hpath [c] (by simp)
      -- The depth behind the character is no less than zero, so that there is such a state.
      refine ⟨⟨(scan.depth + rise scan.quote [c]).toNat, quoteBehind scan.quote c⟩,
        step_eq_some_iff.mpr ⟨hfirst, Int.toNat_of_nonneg hfirst, rfl⟩,
        ih.mpr ⟨fun t ht => ?_, ?_, hleft⟩⟩
      · have hnonneg := hpath (c :: t) ((List.prefix_cons_inj c).mpr ht)
        rw [rise_cons] at hnonneg
        simp only [Int.toNat_of_nonneg hfirst]
        omega
      · rw [rise_cons] at hend
        simp only [Int.toNat_of_nonneg hfirst]
        omega

/-- A text is balanced if its depth never falls below zero and ends there, with no quote open. -/
theorem balanced_iff_depth {s : List Char} :
    Balanced s ↔ (∀ t, t <+: s → 0 ≤ bracketDepth t) ∧ bracketDepth s = 0 ∧
      leftOpen none s = none := by
  rw [Balanced, Scan.run_eq_some_iff]
  simp [Scan.outside, bracketDepth, eq_comm]

/-- A text is not balanced where brackets are closed that are not open, or where brackets or a quote
    are left open. -/
theorem not_balanced_iff {s : List Char} :
    ¬Balanced s ↔ (∃ t, t <+: s ∧ bracketDepth t < 0) ∨ 0 < bracketDepth s ∨
      leftOpen none s ≠ none := by
  rw [balanced_iff_depth]
  constructor
  · intro h
    by_cases hpath : ∃ t, t <+: s ∧ bracketDepth t < 0
    · exact .inl hpath
    simp only [not_exists, not_and, Int.not_lt] at hpath
    have hend := hpath s (List.prefix_refl s)
    by_cases hdepth : bracketDepth s = 0
    · exact .inr (.inr fun hquote => h ⟨hpath, hdepth, hquote⟩)
    · exact .inr (.inl (by omega))
  · rintro (⟨t, ht, hbelow⟩ | habove | hquote) ⟨hpath, hdepth, hclosed⟩
    · exact absurd (hpath t ht) (Int.not_le.mpr hbelow)
    · omega
    · exact hquote hclosed

/-! ### Dividing -/

section Splitting

variable {text : List Char} {separators : List (List Char)} {scan : Scan} {s p : List Char}
  {ps : List (List Char)}

/-- A text is divided where a reader that does not look at what is left of a separator gets through
    it, for separators that a reader stays outside of brackets in. -/
theorem exists_splitFrom (hbare : ∀ x ∈ separators, ∀ c ∈ x, isBare c = true) {skip : Nat}
    (h : scan.run (s.drop skip) = some .outside) :
    ∃ ps, splitFrom text separators scan skip s = .ok ps := by
  induction s generalizing scan skip with
  | nil =>
    rw [List.drop_nil] at h
    exact ⟨[[]], by rw [splitFrom, if_pos (Option.some.inj h)]⟩
  | cons c s ih =>
    cases skip with
    | succ n => exact ih h
    | zero =>
      rw [List.drop_zero] at h
      by_cases hsep : scan.divides c = true ∧ (separatorAt? separators (c :: s)).isSome = true
      · obtain ⟨hdivides, hsome⟩ := hsep
        obtain ⟨separator, hsep⟩ := Option.isSome_iff_exists.mp hsome
        obtain ⟨hmem, ⟨behind, heq⟩, hne⟩ := separatorAt?_eq_some hsep
        obtain ⟨d, tail, rfl⟩ := List.exists_cons_of_ne_nil hne
        obtain ⟨rfl, rfl⟩ : d = c ∧ tail ++ behind = s := List.cons.inj heq
        -- Behind the separator the reader stands where it stood before it.
        obtain rfl := Scan.eq_outside_of_divides hdivides
        rw [← heq, Scan.run_append, Balanced.of_isBare (hbare _ hmem)] at h
        have hbehind : Scan.outside.run ((tail ++ behind).drop tail.length) = some .outside := by
          rwa [List.drop_left]
        obtain ⟨ps, hps⟩ := ih hbehind
        exact ⟨[] :: ps, splitFrom_separator hdivides hsep hps⟩
      · have hnone : scan.divides c = false ∨ separatorAt? separators (c :: s) = none := by
          rw [not_and_or, Bool.not_eq_true, Bool.not_eq_true, Option.isSome_eq_false_iff,
            Option.isNone_iff_eq_none] at hsep
          exact hsep
        rw [Scan.run_cons] at h
        obtain ⟨scan', hstep, hrest⟩ := Option.bind_eq_some_iff.mp h
        obtain ⟨ps, hps⟩ := ih (show scan'.run (s.drop 0) = some .outside from hrest)
        obtain ⟨p, ps, rfl⟩ := exists_cons_of_splitFrom hps
        exact ⟨(c :: p) :: ps, splitFrom_step hstep hnone hps⟩

/-- The texts that can be divided are the balanced ones. -/
theorem exists_split_iff (hbare : ∀ x ∈ separators, ∀ c ∈ x, isBare c = true) :
    (∃ ps, split separators s = .ok ps) ↔ Balanced s := by
  constructor
  · rintro ⟨ps, h⟩
    obtain ⟨hps, hjoined⟩ := joined_of_split h
    exact hjoined.induct (fun a b ha hb => ha.append hb)
      (fun x hx => Balanced.of_isBare (hbare x hx)) hps
  · exact fun h => exists_splitFrom hbare h

/-- The pieces with a single separator between each two of them. -/
theorem Joined.intercalate_eq {separator : List Char} (h : Joined [separator] ps s) :
    separator.intercalate ps = s := by
  induction h with
  | last p => exact List.intercalate_singleton
  | @cons p x s ps hx hrest ih =>
    obtain rfl := List.mem_singleton.mp hx
    rw [List.intercalate_cons_of_ne_nil (by rintro rfl; cases hrest), ih, List.append_assoc]

/-- No separator counts in the pieces that a text is divided into. -/
theorem whole_of_splitFrom (hne : ∀ x ∈ separators, x ≠ []) {skip : Nat}
    (h : splitFrom text separators scan skip s = .ok (p :: ps)) :
    Whole separators scan p ∧ ∀ q ∈ ps, Whole separators .outside q := by
  induction s generalizing scan skip p ps with
  | nil =>
    obtain ⟨hscan, heq⟩ := splitFrom_nil_eq_ok.mp h
    cases heq
    exact ⟨hscan, by simp⟩
  | cons c s ih =>
    cases skip with
    | succ n => exact ih h
    | zero =>
      rcases splitFrom_cases h with
        ⟨separator, more, hdivides, -, hmore, heq⟩ | ⟨scan', q, more, hnone, hstep, hmore, heq⟩
      · -- An empty piece ends, and the next one begins where separators count.
        obtain ⟨rfl, rfl⟩ := List.cons.inj heq
        obtain rfl := Scan.eq_outside_of_divides hdivides
        obtain ⟨q, qs, rfl⟩ := exists_cons_of_splitFrom hmore
        exact ⟨rfl, List.forall_mem_cons.mpr (ih hmore)⟩
      · obtain ⟨rfl, rfl⟩ := List.cons.inj heq
        obtain ⟨hq, hqs⟩ := ih hmore
        obtain ⟨q', _, heq', hbegins, -⟩ := isInfix_of_splitFrom hmore
        obtain ⟨rfl, -⟩ := List.cons.inj heq'
        -- A separator that stands in the piece stands in the text as well.
        refine ⟨⟨hnone.imp_right fun hnone => ?_, scan', hstep, hq⟩, hqs⟩
        rw [separatorAt?_eq_none_iff hne] at hnone ⊢
        exact fun x hx hstarts =>
          hnone x hx (hstarts.trans ((List.prefix_cons_inj c).mpr hbegins))

/-- The pieces of a text are not divided any further. -/
theorem whole_of_split (hne : ∀ x ∈ separators, x ≠ []) (h : split separators s = .ok ps) :
    ∀ p ∈ ps, Whole separators .outside p := by
  obtain ⟨p, ps, rfl⟩ := exists_cons_of_splitFrom h
  exact List.forall_mem_cons.mpr (whole_of_splitFrom hne h)

end Splitting

/-! ### Groups -/

/-- A reader does not get past a bracket that closes none. -/
theorem Scan.step_eq_none {scan : Scan} {c : Char} (h : scan.step c = none) :
    scan.quote = none ∧ isClosing c = true ∧ scan.depth = 0 := by
  obtain ⟨depth, quote⟩ := scan
  cases quote with
  | some q =>
    rw [step_quoted] at h
    cases h
  | none =>
    simp only [step] at h
    split at h
    · cases h
    split at h
    · cases h
    split at h
    · next hclosing =>
      split at h
      · next hdepth => exact ⟨rfl, hclosing, hdepth⟩
      · cases h
    · cases h

/-- Up to its end, a group is read as it would be without the bracket around it. -/
theorem run_of_groupFrom {text : List Char} {scan : Scan} {rest body behind : List Char}
    (h : groupFrom text ⟨scan.depth + 1, scan.quote⟩ rest = .ok (body, behind)) :
    scan.run body = some .outside := by
  induction rest generalizing scan body with
  | nil => cases h
  | cons c rest ih =>
    rcases groupFrom_cases h with ⟨hscan, -, rfl, -⟩ | ⟨scan', more, hgoes, hstep, hmore, rfl⟩
    · obtain ⟨depth, quote⟩ := scan
      cases hscan
      rfl
    · cases hnext : scan.step c with
      | none =>
        -- This would be the bracket that ends the group.
        obtain ⟨hquote, hclosing, hdepth⟩ := Scan.step_eq_none hnext
        simp [hquote, hclosing, hdepth] at hgoes
      | some next =>
        obtain rfl := Option.some.inj (hstep.symm.trans (Scan.step_deeper hnext 1))
        rw [Scan.run_cons, hnext]
        exact ih hmore

/-- What lies between parentheses that belong together is balanced. -/
theorem balanced_of_group {text rest body behind : List Char}
    (h : group text rest = .ok (body, behind)) : Balanced body :=
  show Scan.outside.run body = some .outside from run_of_groupFrom h

/-- Dividing a text at a separator loses nothing. It is refused just where the depth of brackets
    outside of quotes falls below zero on the way or is above zero at the end, or where a quote is
    left open; otherwise the pieces with the separator between them are the text, and none of them
    is divided any further. What lies between an opening parenthesis and the one that is found to
    close it can be divided. -/
theorem split_lossless {separator : List Char} (hne : separator ≠ [])
    (hbare : ∀ c ∈ separator, isBare c = true) (text : List Char) :
    ((∃ e, split [separator] text = .error e) ↔
      (∃ t, t <+: text ∧ bracketDepth t < 0) ∨ 0 < bracketDepth text ∨
        leftOpen none text ≠ none) ∧
    (∀ pieces, split [separator] text = .ok pieces →
      separator.intercalate pieces = text ∧ ∀ p ∈ pieces, split [separator] p = .ok [p]) ∧
    ∀ before rest body behind, text = before ++ '(' :: rest →
      group text rest = .ok (body, behind) →
      rest = body ++ ')' :: behind ∧ ∃ pieces, split [separator] body = .ok pieces := by
  have hbare' : ∀ x ∈ [separator], ∀ c ∈ x, isBare c = true := List.forall_mem_singleton.mpr hbare
  refine ⟨?_, fun pieces h => ⟨?_, fun p hp => ?_⟩, fun _ _ body _ _ h => ⟨groupFrom_eq h, ?_⟩⟩
  · rw [← not_balanced_iff, ← exists_split_iff hbare']
    cases split [separator] text <;> simp
  · exact (joined_of_split h).2.intercalate_eq
  · exact (whole_of_split (List.forall_mem_singleton.mpr hne) h p hp).split_eq
  · exact (exists_split_iff hbare').mpr (balanced_of_group h)

/-- A separator in brackets does not count, and of two that overlap the first one does. -/
theorem arrows_split_lossless :
    ">>".toList ≠ [] ∧ (∀ c ∈ ">>".toList, isBare c = true) ∧
    split [">>".toList] "f(a>>b)>>>c".toList = .ok ["f(a>>b)".toList, ">c".toList] ∧
    ">>".toList.intercalate ["f(a>>b)".toList, ">c".toList] = "f(a>>b)>>>c".toList ∧
    split [">>".toList] ">c".toList = .ok [">c".toList] ∧
    (¬∃ t, t <+: "f(a>>b)>>>c".toList ∧ bracketDepth t < 0) ∧
    group "f(a>>b)>>>c".toList "a>>b)>>>c".toList = .ok ("a>>b".toList, ">>>c".toList) ∧
    ∃ pieces, split [">>".toList] "a>>b".toList = .ok pieces := by
  have hne : ">>".toList ≠ [] := by decide
  have hbare : ∀ c ∈ ">>".toList, isBare c = true := List.all_eq_true.mp rfl
  have hsplit : split [">>".toList] "f(a>>b)>>>c".toList =
      .ok ["f(a>>b)".toList, ">c".toList] := rfl
  have hgroup : group "f(a>>b)>>>c".toList "a>>b)>>>c".toList =
      .ok ("a>>b".toList, ">>>c".toList) := rfl
  obtain ⟨hrefused, hpieces, hinside⟩ := split_lossless hne hbare "f(a>>b)>>>c".toList
  obtain ⟨hjoin, hagain⟩ := hpieces _ hsplit
  refine ⟨hne, hbare, hsplit, hjoin, hagain _ (by simp), fun hbelow => ?_, hgroup,
    (hinside "f".toList _ _ _ rfl hgroup).2⟩
  obtain ⟨e, he⟩ := hrefused.mpr (.inl hbelow)
  cases hsplit.symm.trans he

end Intake.Rule
