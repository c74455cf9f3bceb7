import Intake.Rule.Reading
import Intake.Proofs.Rule.Split

/-!
# Solid text

A text is *solid* for some marks when a reader that starts outside of quotes at any depth is, behind
the text, outside of quotes at the same depth, and has met none of the marks at that depth. Such
texts are made of plain characters, quoted texts and brackets (`Solid`).

A separator does not divide a solid text that is free of it, whatever follows (`Solid.split`), and
the parenthesis that closes a group is not found inside one (`Solid.group`). Both follow from how
any reader goes on over a solid text (`Solid.readsOn`). So the pieces of a text that was put together
from pieces, with a mark between each two of them, are these pieces again (`split_intercalate`).
-/

namespace Intake.Rule

theorem not_quote_of_opening {c : Char} (h : isOpening c = true) : isQuote c = false := by
  simp only [isOpening, Bool.or_eq_true, beq_iff_eq] at h
  rcases h with (rfl | rfl) | rfl <;> rfl

theorem not_closing_of_opening {c : Char} (h : isOpening c = true) : isClosing c = false := by
  simp only [isOpening, Bool.or_eq_true, beq_iff_eq] at h
  rcases h with (rfl | rfl) | rfl <;> rfl

theorem not_quote_of_closing {c : Char} (h : isClosing c = true) :
    isQuote c = false ∧ isOpening c = false := by
  simp only [isClosing, Bool.or_eq_true, beq_iff_eq] at h
  rcases h with (rfl | rfl) | rfl <;> exact ⟨rfl, rfl⟩

/-- The character is neither a quote nor a bracket, nor one of the marks. -/
def isPlain (mark : Char → Bool) (c : Char) : Bool :=
  !isQuote c && !isOpening c && !isClosing c && !mark c

/-- A text of plain characters, quoted texts and brackets around solid text, where marks count
    outside of brackets only. -/
inductive Solid : (Char → Bool) → List Char → Prop
  | nil {mark : Char → Bool} : Solid mark []
  | plain {mark : Char → Bool} {c : Char} {s : List Char} :
      isPlain mark c = true → Solid mark s → Solid mark (c :: s)
  | quoted {mark : Char → Bool} {q : Char} {content s : List Char} :
      isQuote q = true → q ∉ content → Solid mark s → Solid mark (q :: (content ++ q :: s))
  | bracketed {mark : Char → Bool} {o c : Char} {content s : List Char} :
      isOpening o = true → isClosing c = true → Solid (fun _ => false) content → Solid mark s →
        Solid mark (o :: (content ++ c :: s))

namespace Solid

variable {mark : Char → Bool}

theorem append {s t : List Char} (hs : Solid mark s) (ht : Solid mark t) : Solid mark (s ++ t) := by
  induction hs with
  | nil => exact ht
  | plain hc _ ih => exact .plain hc (ih ht)
  | quoted hq hcontent _ ih =>
    rw [List.cons_append, List.append_assoc, List.cons_append]
    exact .quoted hq hcontent (ih ht)
  | bracketed ho hc hcontent _ _ ih =>
    rw [List.cons_append, List.append_assoc, List.cons_append]
    exact .bracketed ho hc hcontent (ih ht)

/-- A text that is solid for some marks is solid for fewer. -/
theorem mono {mark' : Char → Bool} {s : List Char} (h : ∀ c, mark' c = true → mark c = true)
    (hs : Solid mark s) : Solid mark' s := by
  induction hs with
  | nil => exact .nil
  | @plain _ c _ hc _ ih =>
    refine .plain ?_ (ih h)
    have hmark : mark' c = true → False := fun hc' => by simp [isPlain, h c hc'] at hc
    simp only [isPlain, Bool.and_eq_true, Bool.not_eq_true'] at hc ⊢
    exact ⟨hc.1, Bool.eq_false_iff.mpr hmark⟩
  | quoted hq hcontent _ ih => exact .quoted hq hcontent (ih h)
  | bracketed ho hc hcontent _ _ ih => exact .bracketed ho hc hcontent (ih h)

theorem of_plain {s : List Char} (h : ∀ c ∈ s, isPlain mark c = true) : Solid mark s := by
  induction s with
  | nil => exact .nil
  | cons c s ih =>
    exact .plain (h c List.mem_cons_self) (ih fun d hd => h d (List.mem_cons_of_mem c hd))

end Solid

/-! ### Reading on -/

/-- A reader goes on over a character that leaves it at the depth `base` or deeper: what it reads
    begins with this character then. Where separators count, the character has to be free. -/
def ReadsOn (base : Nat) (free : Char → Prop) (Reads : Scan → List Char → List Char → Prop) :
    Prop :=
  ∀ ⦃scan scan' c rest p⦄, scan.step c = some scan' → base ≤ scan'.depth →
    (scan.divides c = true → free c) → Reads scan' rest p → Reads scan (c :: rest) (c :: p)

section ReadsOn

variable {base depth : Nat} {free : Char → Prop} {Reads : Scan → List Char → List Char → Prop}
  {rest p : List Char}

/-- A reader inside of a quoted text goes on to its end. -/
theorem ReadsOn.quoted (hreads : ReadsOn base free Reads) (hdepth : base ≤ depth) {q : Char}
    {content : List Char} (hq : q ∉ content) (h : Reads ⟨depth, none⟩ rest p) :
    Reads ⟨depth, some q⟩ (content ++ q :: rest) (content ++ q :: p) := by
  have hdivides (c : Char) : (⟨depth, some q⟩ : Scan).divides c = true → free c := by
    simp [Scan.divides]
  induction content with
  | nil => exact hreads (by simp [Scan.step]) hdepth (hdivides q) h
  | cons c content ih =>
    have hc : c ≠ q := fun hc => hq (hc ▸ List.mem_cons_self)
    exact hreads (by simp [Scan.step, hc]) hdepth (hdivides c)
      (ih fun hmem => hq (List.mem_cons_of_mem c hmem))

/-- A solid text is read on at any depth, by induction on how it is made. At depth zero all but its
    marks have to be free. -/
theorem Solid.readsOn {mark : Char → Bool} {s : List Char} (hs : Solid mark s)
    (hreads : ReadsOn base free Reads) (hdepth : base ≤ depth)
    (hfree : 0 < depth ∨ ∀ c, mark c = false → free c) (h : Reads ⟨depth, none⟩ rest p) :
    Reads ⟨depth, none⟩ (s ++ rest) (s ++ p) := by
  induction hs generalizing depth p rest with
  | nil => exact h
  | @plain mark c s hc _ ih =>
    simp only [isPlain, Bool.and_eq_true, Bool.not_eq_true'] at hc
    obtain ⟨⟨⟨hquote, hopen⟩, hclose⟩, hc⟩ := hc
    refine hreads (by simp [Scan.step, hquote, hopen, hclose]) hdepth (fun hdivides => ?_)
      (ih hdepth hfree h)
    rcases hfree with hpos | hfree
    · simp [Scan.divides, Nat.ne_of_gt hpos] at hdivides
    · exact hfree c hc
  | @quoted mark q content s hq hcontent _ ih =>
    simp only [List.cons_append, List.append_assoc]
    exact hreads (by simp [Scan.step, hq]) hdepth (by simp [Scan.divides, hq])
      (hreads.quoted hdepth hcontent (ih hdepth hfree h))
  | @bracketed mark o c content s ho hc _ _ ihcontent ih =>
    obtain ⟨hcquote, hcopen⟩ := not_quote_of_closing hc
    simp only [List.cons_append, List.append_assoc]
    have hstep : (⟨depth, none⟩ : Scan).step o = some ⟨depth + 1, none⟩ := by
      simp [Scan.step, not_quote_of_opening ho, ho]
    refine hreads hstep (Nat.le_succ_of_le hdepth) (by simp [Scan.divides, ho]) ?_
    refine ihcontent (Nat.le_succ_of_le hdepth) (.inl (Nat.succ_pos depth)) ?_
    exact hreads (by simp [Scan.step, hcquote, hcopen, hc]) hdepth (by simp [Scan.divides, hc])
      (ih hdepth hfree h)

end ReadsOn

/-! ### Dividing at separators -/

section Splitting

variable {text : List Char} {separators : List (List Char)} {p : List Char}
  {ps : List (List Char)}

/-- A character is read on where no separator counts, or where none begins with it. -/
theorem splitFrom_step {scan scan' : Scan} {c : Char} {rest : List Char}
    (hstep : scan.step c = some scan')
    (hsep : scan.divides c = false ∨ separatorAt? separators (c :: rest) = none)
    (h : splitFrom text separators scan' 0 rest = .ok (p :: ps)) :
    splitFrom text separators scan 0 (c :: rest) = .ok ((c :: p) :: ps) := by
  have hnone : (if scan.divides c then separatorAt? separators (c :: rest) else none) = none := by
    rcases hsep with hsep | hsep
    · rw [hsep]
      rfl
    · rw [hsep, ite_self]
  rw [splitFrom, hnone, hstep]
  dsimp only
  rw [h]
  rfl

/-- A separator ends an empty piece where it counts. -/
theorem splitFrom_separator {scan : Scan} {c : Char} {rest separator : List Char}
    (hdivides : scan.divides c = true)
    (hsep : separatorAt? separators (c :: rest) = some separator)
    (h : splitFrom text separators scan (separator.length - 1) rest = .ok ps) :
    splitFrom text separators scan 0 (c :: rest) = .ok ([] :: ps) := by
  rw [splitFrom, if_pos hdivides, hsep]
  dsimp only
  rw [h]
  rfl

/-- The pieces do not depend on the text that errors show. -/
theorem splitFrom_congr {scan : Scan} {skip : Nat} {rest : List Char}
    (h : splitFrom text separators scan skip rest = .ok ps) (text' : List Char) :
    splitFrom text' separators scan skip rest = .ok ps := by
  induction rest generalizing scan skip ps with
  | nil => exact splitFrom_nil_eq_ok.mpr (splitFrom_nil_eq_ok.mp h)
  | cons c rest ih =>
    cases skip with
    | succ n => exact ih h
    | zero =>
      rcases splitFrom_cases h with
        ⟨separator, more, hdivides, hsep, hmore, rfl⟩ | ⟨scan', p, more, hsep, hstep, hmore, rfl⟩
      · exact splitFrom_separator hdivides hsep (ih hmore)
      · exact splitFrom_step hstep hsep (ih hmore)

/-- A solid text is read on at any depth. At depth zero, separators have to begin with marks. -/
theorem Solid.splitFrom {mark : Char → Bool} {s : List Char} (hs : Solid mark s) {depth : Nat}
    (hmark : 0 < depth ∨ ∀ c, mark c = false → ∀ rest, separatorAt? separators (c :: rest) = none)
    {rest : List Char} (h : splitFrom text separators ⟨depth, none⟩ 0 rest = .ok (p :: ps)) :
    splitFrom text separators ⟨depth, none⟩ 0 (s ++ rest) = .ok ((s ++ p) :: ps) := by
  have hreads : ReadsOn 0 (fun c => ∀ rest, separatorAt? separators (c :: rest) = none)
      fun scan rest p => Intake.Rule.splitFrom text separators scan 0 rest = .ok (p :: ps) := by
    intro scan scan' c rest p hstep _ hfree h
    refine splitFrom_step hstep ?_ h
    cases hdivides : scan.divides c with
    | false => exact .inl rfl
    | true => exact .inr (hfree hdivides rest)
  exact hs.readsOn hreads (Nat.zero_le depth) hmark h

end Splitting

/-- A piece that is read up to its end, where the text ends or the mark of a separator follows. -/
def Passes (separators : List (List Char)) (mark : Char) (s : List Char) : Prop :=
  ∀ text rest p ps, (rest = [] ∨ ∃ r, rest = mark :: r) →
    splitFrom text separators .outside 0 rest = .ok (p :: ps) →
      splitFrom text separators .outside 0 (s ++ rest) = .ok ((s ++ p) :: ps)

/-- No separator but the mark itself begins with the mark, and no reader stands elsewhere behind
    it. -/
def IsMark (separators : List (List Char)) (mark : Char) : Prop :=
  Scan.outside.divides mark = true ∧ ∀ rest, separatorAt? separators (mark :: rest) = some [mark]

/-- Pieces with a mark between each two of them are found again. -/
theorem split_intercalate {separators : List (List Char)} {mark : Char}
    (hmark : IsMark separators mark) {pieces : List (List Char)} (hne : pieces ≠ [])
    (h : ∀ s ∈ pieces, Passes separators mark s) :
    split separators (List.intercalate [mark] pieces) = .ok pieces := by
  suffices hfrom : ∀ text, splitFrom text separators .outside 0 (List.intercalate [mark] pieces) =
      .ok pieces from hfrom _
  intro text
  obtain ⟨hdivides, hsep⟩ := hmark
  have hend : splitFrom text separators .outside 0 [] = .ok [[]] := rfl
  induction pieces with
  | nil => exact absurd rfl hne
  | cons s pieces ih =>
    cases pieces with
    | nil =>
      have hs := h s List.mem_cons_self text [] [] [] (.inl rfl) hend
      simpa using hs
    | cons s' pieces =>
      have hrest := ih (List.cons_ne_nil _ _) fun x hx => h x (List.mem_cons_of_mem s hx)
      have hbehind : splitFrom text separators .outside 0
          (mark :: List.intercalate [mark] (s' :: pieces)) = .ok ([] :: s' :: pieces) :=
        splitFrom_separator hdivides (hsep _) hrest
      have hs := h s List.mem_cons_self text _ _ _ (.inr ⟨_, rfl⟩) hbehind
      rw [List.append_nil] at hs
      rw [List.intercalate_cons_cons]
      simpa using hs

theorem Solid.passes {separators : List (List Char)} {mark : Char → Bool} {m : Char}
    {s : List Char} (hs : Solid mark s)
    (hmark : ∀ c, mark c = false → ∀ rest, separatorAt? separators (c :: rest) = none) :
    Passes separators m s :=
  fun _ _ _ _ _ h => hs.splitFrom (.inr hmark) h

/-! ### Finding the end of a group -/

/-- A character that does not close the group is read on. -/
theorem groupFrom_step {text : List Char} {scan scan' : Scan} {c : Char}
    {rest body behind : List Char} (hstep : scan.step c = some scan')
    (hc : (scan.quote.isNone && isClosing c && scan.depth == 1) = false)
    (h : groupFrom text scan' rest = .ok (body, behind)) :
    groupFrom text scan (c :: rest) = .ok (c :: body, behind) := by
  rw [groupFrom, hc, if_neg Bool.false_ne_true, hstep]
  dsimp only
  rw [h]
  rfl

/-- A solid text inside of a group belongs to the group. -/
theorem Solid.groupFrom {mark : Char → Bool} {s : List Char} (hs : Solid mark s)
    {text : List Char} {depth : Nat} {rest body behind : List Char} (hdepth : 0 < depth)
    (h : groupFrom text ⟨depth, none⟩ rest = .ok (body, behind)) :
    groupFrom text ⟨depth, none⟩ (s ++ rest) = .ok (s ++ body, behind) := by
  have hreads : ReadsOn 1 (fun _ => True)
      fun scan rest body => Intake.Rule.groupFrom text scan rest = .ok (body, behind) := by
    intro scan scan' c rest body hstep hdepth _ h
    refine groupFrom_step hstep (Bool.eq_false_iff.mpr fun hcloses => ?_) h
    -- A bracket that closes the group would leave it, at depth zero.
    simp only [Bool.and_eq_true, Option.isNone_iff_eq_none, beq_iff_eq] at hcloses
    obtain ⟨⟨hquote, hclose⟩, hlast⟩ := hcloses
    obtain ⟨hcquote, hcopen⟩ := not_quote_of_closing hclose
    simp [Scan.step, hquote, hcquote, hcopen, hclose, hlast] at hstep
    simp [← hstep] at hdepth
  exact hs.readsOn hreads hdepth (.inl hdepth) h

/-- The group around a solid text ends with the parenthesis behind it. -/
theorem Solid.group {mark : Char → Bool} {s : List Char} (hs : Solid mark s)
    (text rest : List Char) : group text (s ++ ')' :: rest) = .ok (s, rest) := by
  have hend : Intake.Rule.groupFrom text ⟨1, none⟩ (')' :: rest) = .ok ([], rest) := rfl
  have hgroup := hs.groupFrom Nat.one_pos hend
  rwa [List.append_nil] at hgroup

end Intake.Rule
