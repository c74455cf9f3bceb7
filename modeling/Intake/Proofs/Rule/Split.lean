import Intake.Proofs.Text.Pieces
import Intake.Rule.Split

/-!
# Pieces stand in their text

Whatever is cut out of a rule (the pieces between separators, the text between parentheses and the
text behind them) stands in the rule as it is.

A text is divided and a group is closed by readers that go through the text character by character,
with the depth of brackets and the quote that is open. What one step of them does is said once
(`splitFrom_cases`, `groupFrom_cases`), and what is said of whole texts is proved along these cases,
by induction on the text that is left: `infix_of_mem_split` for the pieces, `groupFrom_eq` for a
group.
-/

namespace Intake.Rule

theorem map_eq_ok {ε α β : Type} {x : Except ε α} {f : α → β} {b : β} :
    x.map f = .ok b ↔ ∃ a, x = .ok a ∧ f a = b := by
  cases x <;> simp [Except.map]

theorem mapError_eq_ok {ε ε' α : Type} {x : Except ε α} {f : ε → ε'} {a : α} :
    x.mapError f = .ok a ↔ x = .ok a := by
  cases x <;> simp [Except.mapError]

theorem bind_eq_ok {ε α β : Type} {x : Except ε α} {f : α → Except ε β} {b : β} :
    x >>= f = .ok b ↔ ∃ a, x = .ok a ∧ f a = .ok b := by
  cases x <;> simp [bind, Except.bind]

theorem exists_ok_of_isSome {ε α : Type} {x : Except ε α} (h : x.toOption.isSome = true) :
    ∃ a, x = .ok a := by
  cases x with
  | error e => cases h
  | ok a => exact ⟨a, rfl⟩

theorem exists_ok_of_mapM {ε α β : Type} {f : α → Except ε β} {as : List α} {bs : List β}
    (h : as.mapM f = .ok bs) : ∀ a ∈ as, ∃ b, f a = .ok b := by
  induction as generalizing bs with
  | nil => simp
  | cons a as ih =>
    rw [List.mapM_cons] at h
    obtain ⟨b, hb, h⟩ := bind_eq_ok.mp h
    obtain ⟨more, hmore, -⟩ := bind_eq_ok.mp h
    intro x hx
    rcases List.mem_cons.mp hx with rfl | hx
    · exact ⟨b, hb⟩
    · exact ih hmore x hx

/-- At the end of a text no bracket and no quote is open. -/
theorem splitFrom_nil_eq_ok {text : List Char} {separators : List (List Char)} {scan : Scan}
    {skip : Nat} {pieces : List (List Char)} :
    splitFrom text separators scan skip [] = .ok pieces ↔ scan = .outside ∧ pieces = [[]] := by
  rw [splitFrom]
  split
  · next hscan => simp [hscan, eq_comm]
  · next hscan => simp [hscan]

/-- There is always a first piece. -/
theorem exists_cons_of_splitFrom {text : List Char} {separators : List (List Char)} {scan : Scan}
    {skip : Nat} {rest : List Char} {pieces : List (List Char)}
    (h : splitFrom text separators scan skip rest = .ok pieces) : ∃ p ps, pieces = p :: ps := by
  induction rest generalizing scan skip pieces with
  | nil => exact ⟨[], [], (splitFrom_nil_eq_ok.mp h).2⟩
  | cons c rest ih =>
    cases skip with
    | succ n => exact ih h
    | zero =>
      rw [splitFrom] at h
      split at h
      · obtain ⟨ps, -, rfl⟩ := map_eq_ok.mp h
        exact ⟨[], ps, rfl⟩
      · split at h
        · cases h
        · obtain ⟨more, -, rfl⟩ := map_eq_ok.mp h
          cases more with
          | nil => exact ⟨[c], [], rfl⟩
          | cons p ps => exact ⟨c :: p, ps, rfl⟩

/-- What a character may do: a separator stands here, and an empty piece ends; or the character is
    read on and belongs to the first piece. -/
theorem splitFrom_cases {text : List Char} {separators : List (List Char)} {scan : Scan} {c : Char}
    {rest : List Char} {pieces : List (List Char)}
    (h : splitFrom text separators scan 0 (c :: rest) = .ok pieces) :
    (∃ separator ps, scan.divides c = true ∧ separatorAt? separators (c :: rest) = some separator ∧
      splitFrom text separators scan (separator.length - 1) rest = .ok ps ∧ pieces = [] :: ps) ∨
    ∃ scan' p ps, (scan.divides c = false ∨ separatorAt? separators (c :: rest) = none) ∧
      scan.step c = some scan' ∧ splitFrom text separators scan' 0 rest = .ok (p :: ps) ∧
      pieces = (c :: p) :: ps := by
  rw [splitFrom] at h
  split at h
  · next separator hsep =>
    obtain ⟨hdivides, hsep⟩ : scan.divides c = true ∧
        separatorAt? separators (c :: rest) = some separator := by
      split at hsep
      · next hdivides => exact ⟨hdivides, hsep⟩
      · cases hsep
    obtain ⟨ps, hps, rfl⟩ := map_eq_ok.mp h
    exact .inl ⟨separator, ps, hdivides, hsep, hps, rfl⟩
  · next hsep =>
    have hnone : scan.divides c = false ∨ separatorAt? separators (c :: rest) = none := by
      split at hsep
      · exact .inr hsep
      · next hdivides => exact .inl (Bool.eq_false_iff.mpr hdivides)
    split at h
    · cases h
    · next scan' hstep =>
      obtain ⟨more, hmore, rfl⟩ := map_eq_ok.mp h
      obtain ⟨p, ps, rfl⟩ := exists_cons_of_splitFrom hmore
      exact .inr ⟨scan', p, ps, hnone, hstep, hmore, rfl⟩

/-- The first piece begins the text behind what is left of a separator, and all others stand in
    it. -/
theorem isInfix_of_splitFrom {text : List Char} {separators : List (List Char)} {scan : Scan}
    {skip : Nat} {rest : List Char} {pieces : List (List Char)}
    (h : splitFrom text separators scan skip rest = .ok pieces) :
    ∃ p ps, pieces = p :: ps ∧ p <+: rest.drop skip ∧ ∀ q ∈ ps, q <:+: rest := by
  induction rest generalizing scan skip pieces with
  | nil => exact ⟨[], [], (splitFrom_nil_eq_ok.mp h).2, List.nil_prefix, by simp⟩
  | cons c rest ih =>
    cases skip with
    | succ n =>
      obtain ⟨p, ps, rfl, hp, hps⟩ := ih h
      exact ⟨p, ps, rfl, hp, fun q hq => (hps q hq).trans (List.suffix_cons c rest).isInfix⟩
    | zero =>
      rcases splitFrom_cases h with
        ⟨separator, more, -, -, hmore, rfl⟩ | ⟨scan', first, more, -, -, hmore, rfl⟩
      · -- A separator stands here: the first piece is empty.
        obtain ⟨p, ps, rfl, hp, hps⟩ := ih hmore
        refine ⟨[], p :: ps, rfl, List.nil_prefix, fun q hq => ?_⟩
        have hin : q <:+: rest := by
          rcases List.mem_cons.mp hq with rfl | hq
          · exact hp.isInfix.trans (List.drop_suffix _ _).isInfix
          · exact hps q hq
        exact hin.trans (List.suffix_cons c rest).isInfix
      · -- The character belongs to the first piece.
        obtain ⟨p, ps, heq, hp, hps⟩ := ih hmore
        obtain ⟨rfl, rfl⟩ := List.cons.inj heq
        exact ⟨c :: first, more, rfl, (List.prefix_cons_inj c).mpr hp,
          fun q hq => (hps q hq).trans (List.suffix_cons c rest).isInfix⟩

/-- The pieces of a text stand in it. -/
theorem infix_of_mem_split {separators : List (List Char)} {text : List Char}
    {pieces : List (List Char)} (h : split separators text = .ok pieces) {p : List Char}
    (hp : p ∈ pieces) : p <:+: text := by
  obtain ⟨first, ps, rfl, hfirst, hps⟩ := isInfix_of_splitFrom h
  rcases List.mem_cons.mp hp with rfl | hp
  · exact hfirst.isInfix
  · exact hps p hp

/-- What a character may do: it is the parenthesis that ends the group; or it does not close the
    bracket of the group, and belongs to it. -/
theorem groupFrom_cases {text : List Char} {scan : Scan} {c : Char} {rest body behind : List Char}
    (h : groupFrom text scan (c :: rest) = .ok (body, behind)) :
    (scan = ⟨1, none⟩ ∧ c = ')' ∧ body = [] ∧ behind = rest) ∨
    ∃ scan' more, (scan.quote.isNone && isClosing c && scan.depth == 1) = false ∧
      scan.step c = some scan' ∧ groupFrom text scan' rest = .ok (more, behind) ∧
      body = c :: more := by
  rw [groupFrom] at h
  split at h
  · next hend =>
    split at h
    · next hc =>
      cases h
      obtain ⟨depth, quote⟩ := scan
      simp only [Bool.and_eq_true, Option.isNone_iff_eq_none, beq_iff_eq] at hend
      obtain ⟨⟨rfl, -⟩, rfl⟩ := hend
      exact .inl ⟨rfl, eq_of_beq hc, rfl, rfl⟩
    · cases h
  · next hend =>
    split at h
    · cases h
    · next scan' hstep =>
      obtain ⟨⟨more, r⟩, hmore, heq⟩ := map_eq_ok.mp h
      cases heq
      exact .inr ⟨scan', more, Bool.eq_false_iff.mpr hend, hstep, hmore, rfl⟩

/-- A group and what follows it make up the text behind the opening parenthesis. -/
theorem groupFrom_eq {text : List Char} {scan : Scan} {rest body behind : List Char}
    (h : groupFrom text scan rest = .ok (body, behind)) : rest = body ++ ')' :: behind := by
  induction rest generalizing scan body behind with
  | nil => cases h
  | cons c rest ih =>
    rcases groupFrom_cases h with ⟨-, rfl, rfl, rfl⟩ | ⟨scan', more, -, -, hmore, rfl⟩
    · rfl
    · rw [ih hmore, List.cons_append]

end Intake.Rule
