import Intake.Proofs.Rule.Words

/-!
# Brackets

Brackets outside of quotes may be looked at in two ways. They are *balanced* (`Balanced`) when each
closing one has an opening one before it and none is left open, whatever their kinds; this is what
the readers of rules count. They are *nested* (`Nested`) when a closing bracket is also of the kind
of the one it closes, but for parts of a text that are left out of account.

* `joined_of_split`: the pieces that a text is divided into are balanced, and so is the text;
* `Nested.balanced`: nested brackets are balanced when those of the parts left out are;
* `Nested.nests`: nested brackets are told by a reader with a stack.
-/

namespace Intake.Rule

open Intake.Text

/-- The character is neither a quote nor a bracket. -/
def isBare (c : Char) : Bool :=
  !isQuote c && !isOpening c && !isClosing c

theorem isBare_of_isPlain {mark : Char → Bool} {c : Char} (h : isPlain mark c = true) :
    isBare c = true := by
  rw [isPlain, Bool.and_eq_true] at h
  exact h.1

theorem isBare_of_isBlank {c : Char} (h : isBlank c = true) : isBare c = true :=
  isBare_of_isPlain (Form.plain_of_isBlank h)

/-! ### Balanced texts -/

namespace Scan

variable {c : Char}

theorem step_of_isQuote (depth : Nat) (h : isQuote c = true) :
    (⟨depth, none⟩ : Scan).step c = some ⟨depth, some c⟩ := by
  simp [step, h]

theorem step_of_isOpening (depth : Nat) (h : isOpening c = true) :
    (⟨depth, none⟩ : Scan).step c = some ⟨depth + 1, none⟩ := by
  simp [step, not_quote_of_opening h, h]

theorem step_of_isClosing (depth : Nat) (h : isClosing c = true) :
    (⟨depth + 1, none⟩ : Scan).step c = some ⟨depth, none⟩ := by
  simp [step, not_quote_of_closing h, h]

theorem step_of_isBare (depth : Nat) (h : isBare c = true) :
    (⟨depth, none⟩ : Scan).step c = some ⟨depth, none⟩ := by
  simp only [isBare, Bool.and_eq_true, Bool.not_eq_true'] at h
  simp [step, h]

/-- What a reader outside of quotes makes of a character. -/
theorem step_cases {depth : Nat} {scan : Scan} (h : (⟨depth, none⟩ : Scan).step c = some scan) :
    (isQuote c = true ∧ scan = ⟨depth, some c⟩) ∨
      (isOpening c = true ∧ scan = ⟨depth + 1, none⟩) ∨
      (isClosing c = true ∧ ∃ n, depth = n + 1 ∧ scan = ⟨n, none⟩) ∨
      (isBare c = true ∧ scan = ⟨depth, none⟩) := by
  simp only [step] at h
  split at h
  · next hquote => exact .inl ⟨hquote, (Option.some.inj h).symm⟩
  split at h
  · next hopening => exact .inr (.inl ⟨hopening, (Option.some.inj h).symm⟩)
  split at h
  · next hclosing =>
    split at h
    · cases h
    · exact .inr (.inr (.inl ⟨hclosing, depth - 1, by omega, (Option.some.inj h).symm⟩))
  · next hquote hopening hclosing =>
    exact .inr (.inr (.inr ⟨by simp [isBare, hquote, hopening, hclosing],
      (Option.some.inj h).symm⟩))

/-- Inside of quotes, a reader waits for the quote. -/
theorem step_quoted (depth : Nat) (q c : Char) :
    (⟨depth, some q⟩ : Scan).step c = some (if c = q then ⟨depth, none⟩ else ⟨depth, some q⟩) := by
  simp [step]

/-- Where a reader stands behind a text. -/
def run (scan : Scan) (s : List Char) : Option Scan :=
  s.foldlM step scan

theorem run_cons (scan : Scan) (c : Char) (s : List Char) :
    scan.run (c :: s) = (scan.step c).bind fun scan' => scan'.run s :=
  List.foldlM_cons

/-- A text is scanned part by part. -/
theorem run_append (scan : Scan) (s t : List Char) :
    scan.run (s ++ t) = (scan.run s).bind fun scan' => scan'.run t :=
  List.foldlM_append

/-- Brackets around what a reader reads do not matter. -/
theorem step_deeper {scan scan' : Scan} (h : scan.step c = some scan') (n : Nat) :
    (⟨scan.depth + n, scan.quote⟩ : Scan).step c = some ⟨scan'.depth + n, scan'.quote⟩ := by
  obtain ⟨depth, quote⟩ := scan
  cases quote with
  | some q =>
    rw [step_quoted] at h ⊢
    obtain rfl := Option.some.inj h
    split <;> rfl
  | none =>
    rcases step_cases h with
      ⟨hc, rfl⟩ | ⟨hc, rfl⟩ | ⟨hc, depth, rfl, rfl⟩ | ⟨hc, rfl⟩
    · exact step_of_isQuote _ hc
    · rw [step_of_isOpening _ hc, Nat.add_right_comm]
    · rw [Nat.add_right_comm, step_of_isClosing _ hc]
    · exact step_of_isBare _ hc

/-- What is scanned at the outside is scanned alike within brackets that are open. -/
theorem run_deeper {scan scan' : Scan} {s : List Char} (h : scan.run s = some scan') (n : Nat) :
    (⟨scan.depth + n, scan.quote⟩ : Scan).run s = some ⟨scan'.depth + n, scan'.quote⟩ := by
  induction s generalizing scan with
  | nil =>
    obtain rfl : scan = scan' := Option.some.inj h
    rfl
  | cons c s ih =>
    rw [run_cons] at h ⊢
    obtain ⟨next, hnext, hrest⟩ := Option.bind_eq_some_iff.mp h
    rw [step_deeper hnext]
    exact ih hrest

theorem run_of_isBare (depth : Nat) {s : List Char} (h : ∀ c ∈ s, isBare c = true) :
    (⟨depth, none⟩ : Scan).run s = some ⟨depth, none⟩ := by
  induction s with
  | nil => rfl
  | cons c s ih =>
    rw [run_cons, step_of_isBare _ (h c List.mem_cons_self)]
    exact ih fun d hd => h d (List.mem_cons_of_mem c hd)

/-- A reader inside of quotes comes out of them behind the next quote. -/
theorem run_quoted (depth : Nat) {q : Char} {content : List Char} (h : q ∉ content) :
    (⟨depth, some q⟩ : Scan).run (content ++ [q]) = some ⟨depth, none⟩ := by
  induction content with
  | nil => simp [run, step_quoted]
  | cons c content ih =>
    rw [List.mem_cons, not_or] at h
    rw [List.cons_append, run_cons, step_quoted, if_neg (Ne.symm h.1)]
    exact ih h.2

/-- Only quotes open quotes. -/
theorem isQuote_of_step {scan scan' : Scan} (h : scan.step c = some scan')
    (hquote : ∀ q ∈ scan.quote, isQuote q = true) : ∀ q ∈ scan'.quote, isQuote q = true := by
  obtain ⟨depth, quote⟩ := scan
  cases quote with
  | some q =>
    rw [step_quoted] at h
    obtain rfl := Option.some.inj h
    split
    · nofun
    · exact hquote
  | none =>
    rcases step_cases h with
      ⟨hc, rfl⟩ | ⟨hc, rfl⟩ | ⟨hc, depth, rfl, rfl⟩ | ⟨hc, rfl⟩
    · rintro q ⟨⟩
      exact hc
    all_goals nofun

theorem isQuote_of_run {scan scan' : Scan} {s : List Char} (h : scan.run s = some scan')
    (hquote : ∀ q ∈ scan.quote, isQuote q = true) : ∀ q ∈ scan'.quote, isQuote q = true := by
  induction s generalizing scan with
  | nil =>
    obtain rfl : scan = scan' := Option.some.inj h
    exact hquote
  | cons c s ih =>
    rw [run_cons] at h
    obtain ⟨next, hnext, hrest⟩ := Option.bind_eq_some_iff.mp h
    exact ih hrest (isQuote_of_step hnext hquote)

/-- Blanks move no reader. -/
theorem run_blank {scan : Scan} (hquote : ∀ q ∈ scan.quote, isQuote q = true) {s : List Char}
    (h : allBlank s = true) : scan.run s = some scan := by
  obtain ⟨depth, quote⟩ := scan
  induction s with
  | nil => rfl
  | cons c s ih =>
    rw [allBlank, List.all_cons, Bool.and_eq_true] at h
    have hc : isBare c = true := isBare_of_isBlank h.1
    have hstep : (⟨depth, quote⟩ : Scan).step c = some ⟨depth, quote⟩ := by
      cases quote with
      | none => exact step_of_isBare _ hc
      | some q =>
        have hne : c ≠ q := by
          rintro rfl
          simp [isBare, hquote c rfl] at hc
        rw [step_quoted, if_neg hne]
    rw [run_cons, hstep]
    exact ih h.2

end Scan

/-- A reader that counts brackets, whatever their kinds, is behind the text where it was before. -/
def Balanced (s : List Char) : Prop :=
  Scan.outside.run s = some Scan.outside

instance (s : List Char) : Decidable (Balanced s) :=
  inferInstanceAs (Decidable (_ = _))

namespace Balanced

variable {s t : List Char}

theorem run (h : Balanced s) (depth : Nat) :
    (⟨depth, none⟩ : Scan).run s = some ⟨depth, none⟩ := by
  simpa [Scan.outside] using Scan.run_deeper h depth

theorem of_isBare (h : ∀ c ∈ s, isBare c = true) : Balanced s :=
  Scan.run_of_isBare 0 h

theorem of_blank (h : allBlank s = true) : Balanced s :=
  of_isBare fun c hc => isBare_of_isBlank (List.all_eq_true.mp h c hc)

theorem append_iff (hs : Balanced s) : Balanced (s ++ t) ↔ Balanced t := by
  rw [Balanced, Scan.run_append, hs]
  rfl

theorem append (hs : Balanced s) (ht : Balanced t) : Balanced (s ++ t) :=
  (append_iff hs).mpr ht

theorem quoted {q : Char} (hq : isQuote q = true) (hs : q ∉ s) : Balanced (q :: (s ++ [q])) := by
  rw [Balanced, Scan.outside, Scan.run_cons, Scan.step_of_isQuote _ hq]
  exact Scan.run_quoted 0 hs

theorem bracketed {o c : Char} (ho : isOpening o = true) (hc : isClosing c = true)
    (hs : Balanced s) : Balanced (o :: (s ++ [c])) := by
  rw [Balanced, Scan.outside, Scan.run_cons, Scan.step_of_isOpening _ ho, Option.bind_some,
    Scan.run_append, hs.run, Option.bind_some, Scan.run_cons, Scan.step_of_isClosing _ hc]
  rfl

/-- Blanks around a text do not count. -/
theorem trim (h : Balanced s) : Balanced (trim s) := by
  obtain ⟨a, b, ha, hb, hs⟩ := exists_trim s
  rw [hs, List.append_assoc, append_iff (of_blank ha), Balanced, Scan.run_append] at h
  obtain ⟨scan, hscan, hend⟩ := Option.bind_eq_some_iff.mp h
  rw [Scan.run_blank (Scan.isQuote_of_run hscan nofun) hb] at hend
  rw [Balanced, hscan, Option.some.inj hend]

end Balanced

/-! ### Nested brackets -/

/-- The closing bracket of the kind of an opening one. -/
def closer (o : Char) : Char :=
  if o = '(' then ')' else if o = '[' then ']' else '}'

theorem isClosing_closer (o : Char) : isClosing (closer o) = true := by
  unfold closer
  split_ifs <;> rfl

/-- Outside of quotes, each closing bracket closes the last one that is open and is of its kind, and
    none is left open. Parts of the text may be left out of account. -/
inductive Nested (loose : List Char → Prop) : List Char → Prop
  | nil : Nested loose []
  | bare {c : Char} {s : List Char} : isBare c = true → Nested loose s → Nested loose (c :: s)
  | quoted {q : Char} {content s : List Char} :
    isQuote q = true → q ∉ content → Nested loose s → Nested loose (q :: (content ++ q :: s))
  | bracketed {o : Char} {content s : List Char} :
    isOpening o = true → Nested loose content → Nested loose s →
    Nested loose (o :: (content ++ closer o :: s))
  | loose {part s : List Char} : loose part → Nested loose s → Nested loose (part ++ s)

namespace Nested

variable {loose : List Char → Prop} {s t : List Char}

theorem append (hs : Nested loose s) (ht : Nested loose t) : Nested loose (s ++ t) := by
  induction hs with
  | nil => exact ht
  | bare hc _ ih => exact .bare hc ih
  | quoted hq hcontent _ ih => simpa using Nested.quoted hq hcontent ih
  | bracketed ho hcontent _ _ ih => simpa using Nested.bracketed ho hcontent ih
  | loose hpart _ ih =>
    rw [List.append_assoc]
    exact .loose hpart ih

theorem of_isBare (h : ∀ c ∈ s, isBare c = true) : Nested loose s := by
  induction s with
  | nil => exact .nil
  | cons c s ih =>
    exact .bare (h c List.mem_cons_self) (ih fun d hd => h d (List.mem_cons_of_mem c hd))

theorem of_blank (h : allBlank s = true) : Nested loose s :=
  of_isBare fun c hc => isBare_of_isBlank (List.all_eq_true.mp h c hc)

/-- Blanks around a text do not count. -/
theorem of_trim (h : Nested loose (trim s)) : Nested loose s := by
  obtain ⟨a, b, ha, hb, hs⟩ := exists_trim s
  rw [hs]
  exact ((of_blank ha).append h).append (of_blank hb)

/-- Nested brackets are balanced, when they are in the parts that are left out of account. -/
theorem balanced (hloose : ∀ part, loose part → Balanced part) (h : Nested loose s) :
    Balanced s := by
  induction h with
  | nil => rfl
  | @bare c s hc _ ih => exact (Balanced.of_isBare (s := [c]) (by simpa using hc)).append ih
  | @quoted q content s hq hcontent _ ih =>
    simpa using (Balanced.quoted hq hcontent).append ih
  | @bracketed o content s ho _ _ ihcontent ih =>
    simpa using (Balanced.bracketed ho (isClosing_closer o) ihcontent).append ih
  | loose hpart _ ih => exact (hloose _ hpart).append ih

end Nested

/-- A reader with a stack: the closing brackets it waits for, the next one first, and the quote that
    is open. -/
def nests (awaited : List Char) (quote : Option Char) : List Char → Bool
  | [] => awaited.isEmpty && quote.isNone
  | c :: rest =>
    match quote with
    | some q => nests awaited (if c == q then none else some q) rest
    | none =>
      if isQuote c then nests awaited (some c) rest
      else if isOpening c then nests (closer c :: awaited) none rest
      else if isClosing c then awaited.head? == some c && nests awaited.tail none rest
      else nests awaited none rest

theorem nests_quoted {q : Char} {content : List Char} (h : q ∉ content) (awaited rest : List Char) :
    nests awaited (some q) (content ++ q :: rest) = nests awaited none rest := by
  induction content with
  | nil => simp [nests]
  | cons c content ih =>
    rw [List.mem_cons, not_or] at h
    simpa [nests, Ne.symm h.1] using ih h.2

/-- The reader passes over nested brackets. -/
theorem Nested.nests_append {s : List Char} (h : Nested (fun _ => False) s)
    (awaited rest : List Char) : nests awaited none (s ++ rest) = nests awaited none rest := by
  induction h generalizing awaited rest with
  | nil => rfl
  | @bare c s hc _ ih =>
    simp only [isBare, Bool.and_eq_true, Bool.not_eq_true'] at hc
    simpa [nests, hc] using ih awaited rest
  | @quoted q content s hq hcontent _ ih =>
    have hread := nests_quoted hcontent awaited (s ++ rest)
    simpa [nests, hq, hread] using ih awaited rest
  | @bracketed o content s ho _ _ ihcontent ih =>
    have hclose := isClosing_closer o
    have hread := ihcontent (closer o :: awaited) (closer o :: (s ++ rest))
    simpa [nests, not_quote_of_opening ho, ho, hread, not_quote_of_closing hclose, hclose] using
      ih awaited rest
  | loose hpart => exact hpart.elim

/-- Brackets that the reader stops at are not nested. -/
theorem not_nested {s : List Char} (h : nests [] none s = false) : ¬Nested (fun _ => False) s := by
  intro hs
  have hread := hs.nests_append [] []
  rw [List.append_nil, h] at hread
  cases hread

/-! ### Pieces -/

/-- The text consists of the pieces with a separator between each two of them. -/
inductive Joined (separators : List (List Char)) : List (List Char) → List Char → Prop
  | last (p : List Char) : Joined separators [p] p
  | cons {p separator s : List Char} {ps : List (List Char)} :
    separator ∈ separators → Joined separators ps s →
    Joined separators (p :: ps) (p ++ (separator ++ s))

namespace Joined

variable {separators ps : List (List Char)} {p s : List Char}

theorem cons_char (c : Char) (h : Joined separators (p :: ps) s) :
    Joined separators ((c :: p) :: ps) (c :: s) := by
  cases h with
  | last => exact .last (c :: p)
  | cons hseparator h => exact .cons (p := c :: p) hseparator h

/-- What holds of pieces and separators, and of two texts together, holds of the whole text. -/
theorem induct {P : List Char → Prop} (happend : ∀ a b, P a → P b → P (a ++ b))
    (hseparators : ∀ x ∈ separators, P x) (h : Joined separators ps s) (hps : ∀ x ∈ ps, P x) :
    P s := by
  induction h with
  | last p => exact hps p List.mem_cons_self
  | @cons p separator s ps hseparator _ ih =>
    refine happend _ _ (hps p List.mem_cons_self) (happend _ _ (hseparators _ hseparator) ?_)
    exact ih fun x hx => hps x (List.mem_cons_of_mem p hx)

end Joined

theorem Scan.eq_outside_of_divides {scan : Scan} {c : Char} (h : scan.divides c = true) :
    scan = .outside := by
  obtain ⟨depth, quote⟩ := scan
  simp only [divides, Bool.and_eq_true, beq_iff_eq, Option.isNone_iff_eq_none] at h
  rw [outside, h.1.1.1.1, h.1.1.1.2]

theorem separatorAt?_eq_some {separators : List (List Char)} {s separator : List Char}
    (h : separatorAt? separators s = some separator) :
    separator ∈ separators ∧ separator <+: s ∧ separator ≠ [] := by
  obtain ⟨hfind, hne⟩ := Option.filter_eq_some_iff.mp h
  refine ⟨List.mem_of_find?_eq_some hfind, ?_, by simpa using hne⟩
  simpa using List.find?_some hfind

/-- A text is divided into pieces that are balanced, with separators between them. -/
theorem joined_of_splitFrom {text : List Char} {separators : List (List Char)} {scan : Scan}
    {skip : Nat} {rest : List Char} {pieces : List (List Char)} (hskip : skip ≤ rest.length)
    (h : splitFrom text separators scan skip rest = .ok pieces) :
    ∃ p ps, pieces = p :: ps ∧ scan.run p = some .outside ∧ (∀ q ∈ ps, Balanced q) ∧
      Joined separators (p :: ps) (rest.drop skip) := by
  induction rest generalizing scan skip pieces with
  | nil =>
    obtain ⟨rfl, rfl⟩ := splitFrom_nil_eq_ok.mp h
    obtain rfl : skip = 0 := Nat.le_zero.mp hskip
    exact ⟨[], [], rfl, rfl, by simp, .last []⟩
  | cons c rest ih =>
    cases skip with
    | succ n => exact ih (Nat.le_of_succ_le_succ hskip) h
    | zero =>
      rcases splitFrom_cases h with
        ⟨separator, more, hdivides, hsep, hmore, rfl⟩ | ⟨scan', p, more, -, hstep, hmore, rfl⟩
      · obtain rfl : scan = .outside := Scan.eq_outside_of_divides hdivides
        obtain ⟨hmem, ⟨behind, heq⟩, hne⟩ := separatorAt?_eq_some hsep
        obtain ⟨d, tail, rfl⟩ := List.exists_cons_of_ne_nil hne
        obtain ⟨rfl, rfl⟩ : d = c ∧ tail ++ behind = rest := List.cons.inj heq
        obtain ⟨p, ps, rfl, hrun, hps, hjoined⟩ := ih (by simp) hmore
        rw [List.length_cons, Nat.add_sub_cancel, List.drop_left] at hjoined
        refine ⟨[], p :: ps, rfl, rfl, ?_, .cons (p := []) hmem hjoined⟩
        intro q hq
        rcases List.mem_cons.mp hq with rfl | hq
        · exact hrun
        · exact hps q hq
      · -- the character belongs to the first piece
        obtain ⟨p', ps', heq, hrun, hps, hjoined⟩ := ih (Nat.zero_le _) hmore
        obtain ⟨rfl, rfl⟩ := List.cons.inj heq
        refine ⟨c :: p, more, rfl, ?_, hps, hjoined.cons_char c⟩
        rw [Scan.run_cons, hstep]
        exact hrun

theorem joined_of_split {separators pieces : List (List Char)} {s : List Char}
    (h : split separators s = .ok pieces) :
    (∀ p ∈ pieces, Balanced p) ∧ Joined separators pieces s := by
  obtain ⟨p, ps, rfl, hp, hps, hjoined⟩ := joined_of_splitFrom (Nat.zero_le _) h
  refine ⟨fun q hq => ?_, hjoined⟩
  rcases List.mem_cons.mp hq with rfl | hq
  · exact hp
  · exact hps q hq

end Intake.Rule
