import Intake.Proofs.Rule.Forms
import Intake.Proofs.Rule.Scan

/-!
# Words of rules

What the readers of rules ask about the words that rules are made of. Names, integers and quoted
texts are solid, have no blanks around them, and are taken for nothing but what they are: a name
does not begin like an integer, and no line break ends it.

Words are texts that carry the proofs of their form (`Name`, `DottedName`, `Numeral`, `Quoted`,
`Gap`), so that a form of a rule can be written with any of them. For each kind of word there are
the same few facts: it is `solid` (no divider stands in it outside of brackets and quotes), trimming
leaves it as it is, and its reader finds it again. Names and digits are those of all scripts that
identifiers and integers may be written in, told by the tables of characters.
-/

namespace Intake.Rule.Form

open Intake.Text

/-! ### Characters -/

/-- The marks that divide directives, and a directive into name and value. -/
def isDivider (c : Char) : Bool :=
  c == ',' || c == '='

/-- The codes of the quotes, brackets and dividers. -/
def markCodes : List Nat :=
  [34, 39, 40, 41, 44, 61, 91, 93, 123, 125]

theorem plain_of_code {c : Char} (h : c.toNat ∉ markCodes) : isPlain isDivider c = true := by
  have hne (d : Char) (hd : d.toNat ∈ markCodes) : (c == d) = false :=
    beq_eq_false_iff_ne.mpr fun hc => h (hc ▸ hd)
  simp [isPlain, isQuote, isOpening, isClosing, isDivider, hne '\'' (by decide),
    hne '"' (by decide), hne '(' (by decide), hne '[' (by decide), hne '{' (by decide),
    hne ')' (by decide), hne ']' (by decide), hne '}' (by decide), hne ',' (by decide),
    hne '=' (by decide)]

/-- No decimal digit of any script is a divider of rules. -/
theorem plain_of_isDecimalDigit {c : Char} (h : isDecimalDigit c = true) :
    isPlain isDivider c = true := by
  refine plain_of_code fun hc => ?_
  have hcode := toNat_of_isDecimalDigit h
  simp only [markCodes, List.mem_cons, List.not_mem_nil, or_false] at hc
  omega

/-- No blank is a divider of rules. -/
theorem plain_of_isBlank {c : Char} (h : isBlank c = true) : isPlain isDivider c = true := by
  have hall : ∀ n ∈ markCodes, blanks.containsCode n = false := by decide
  refine plain_of_code fun hc => ?_
  rw [isBlank, CharClass.contains, hall _ hc] at h
  exact Bool.false_ne_true h

/-- What reading asks about the characters of names. -/
theorem of_isNameTail {c : Char} (h : isNameTail c = true) :
    isPlain isDivider c = true ∧ isBlank c = false ∧ c ≠ '.' ∧ c ≠ ':' ∧ c ≠ '>' := by
  have hall : ∀ n < 128, isNameTail (Char.ofNat n) = true →
      isPlain isDivider (Char.ofNat n) = true ∧ isBlank (Char.ofNat n) = false ∧
        Char.ofNat n ≠ '.' ∧ Char.ofNat n ≠ ':' ∧ Char.ofNat n ≠ '>' := by decide
  have hc := hall c.toNat (toNat_lt_of_isNameTail h)
  rw [Char.ofNat_toNat] at hc
  exact hc h

/-- A name does not begin like an integer. -/
theorem of_isNameHead {c : Char} (h : isNameHead c = true) :
    isDecimalDigit c = false ∧ c ≠ '-' ∧ c ≠ '+' ∧ c ≠ '[' := by
  have hall : ∀ n < 128, isNameHead (Char.ofNat n) = true →
      isDecimalDigit (Char.ofNat n) = false ∧ Char.ofNat n ≠ '-' ∧ Char.ofNat n ≠ '+' ∧
        Char.ofNat n ≠ '[' := by decide
  have hc := hall c.toNat (toNat_lt_of_isNameTail (isNameTail_of_isNameHead h))
  rw [Char.ofNat_toNat] at hc
  exact hc h

/-! ### Words -/

theorem Gap.solid (g : Gap) : Solid isDivider g.text :=
  .of_plain fun c hc => plain_of_isBlank (List.all_eq_true.mp g.blank c hc)

theorem trim_padText (before : Gap) (s : List Char) (after : Gap) :
    trim (pad before s after) = trim s :=
  trim_pad before.blank after.blank s

theorem solid_pad {mark : Char → Bool} (hmark : ∀ c, mark c = true → isDivider c = true)
    (before : Gap) {s : List Char} (hs : Solid mark s) (after : Gap) :
    Solid mark (pad before s after) :=
  ((before.solid.mono hmark).append hs).append (after.solid.mono hmark)

/-- A name opens with the head of a name and goes on with its characters. -/
theorem Name.cases (n : Name) :
    ∃ c s, n.text = c :: s ∧ isNameHead c = true ∧ ∀ d ∈ n.text, isNameTail d = true := by
  obtain ⟨text, h⟩ := n
  cases text with
  | nil => cases h
  | cons c s =>
    simp only [isIdentifier, Bool.and_eq_true, List.all_eq_true] at h
    refine ⟨c, s, rfl, h.1, fun d hd => ?_⟩
    rcases List.mem_cons.mp hd with rfl | hd
    · exact isNameTail_of_isNameHead h.1
    · exact h.2 d hd

/-- A name ends where a blank or a parenthesis follows. -/
theorem Name.takeWhile_append (n : Name) {gap : List Char} (hgap : allBlank gap = true)
    (rest : List Char) : (n.text ++ (gap ++ '(' :: rest)).takeWhile isNameTail = n.text := by
  obtain ⟨-, -, -, -, hall⟩ := n.cases
  have hbehind : (gap ++ '(' :: rest).takeWhile isNameTail = [] := by
    cases gap with
    | nil => rfl
    | cons c gap =>
      have hblank : isBlank c = true := List.all_eq_true.mp hgap c List.mem_cons_self
      refine List.takeWhile_cons_of_neg fun hc => ?_
      exact Bool.false_ne_true ((of_isNameTail hc).2.1.symm.trans hblank)
  rw [List.takeWhile_append_of_pos hall, hbehind, List.append_nil]

theorem Name.solid (n : Name) : Solid isDivider n.text := by
  obtain ⟨-, -, -, -, hall⟩ := n.cases
  exact .of_plain fun c hc => (of_isNameTail (hall c hc)).1

/-- No blanks stand around a name. -/
theorem Name.trim_text (n : Name) : trim n.text = n.text := by
  obtain ⟨-, -, -, -, hall⟩ := n.cases
  refine trim_eq_self (fun c hc => ?_) fun c hc => ?_
  · exact (of_isNameTail (hall c (List.mem_of_mem_head? hc))).2.1
  · exact (of_isNameTail (hall c (List.mem_of_mem_getLast? hc))).2.1

/-! ### Names with points -/

/-- A name with points opens with the head of a name and consists of characters of names and
    points. -/
theorem DottedName.cases (n : DottedName) :
    ∃ c s, n.text = c :: s ∧ isNameHead c = true ∧
      ∀ d ∈ n.text, isNameTail d = true ∨ d = '.' := by
  obtain ⟨text, h⟩ := n
  rw [isDotted, List.all_eq_true] at h
  have hchars (p : List Char) (hp : p ∈ splitAt '.' text) : ∀ d ∈ p, isNameTail d = true := by
    obtain ⟨-, -, -, -, hall⟩ := Name.cases ⟨p, h p hp⟩
    exact hall
  cases text with
  | nil => exact absurd (h [] List.mem_cons_self) (by decide)
  | cons c s =>
    obtain ⟨piece, pieces, -, hsplit⟩ := splitAt_cons '.' c s
    refine ⟨c, s, rfl, ?_, fun d hd => ?_⟩
    · rw [hsplit] at h
      by_cases hc : c = '.'
      · rw [if_pos (beq_iff_eq.mpr hc)] at h
        exact absurd (h [] List.mem_cons_self) (by decide)
      · rw [if_neg (by simpa using hc)] at h
        have hpiece := h _ List.mem_cons_self
        rw [isIdentifier, Bool.and_eq_true] at hpiece
        exact hpiece.1
    · rcases mem_splitAt '.' hd with rfl | ⟨p, hp, hdp⟩
      · exact .inr rfl
      · exact .inl (hchars p hp d hdp)

theorem DottedName.plain (n : DottedName) :
    ∀ c ∈ n.text, isPlain isDivider c = true ∧ isBlank c = false := by
  obtain ⟨-, -, -, -, hall⟩ := n.cases
  intro c hc
  rcases hall c hc with h | rfl
  · exact ⟨(of_isNameTail h).1, (of_isNameTail h).2.1⟩
  · decide

theorem DottedName.solid (n : DottedName) : Solid isDivider n.text :=
  .of_plain fun c hc => (n.plain c hc).1

theorem DottedName.trim_text (n : DottedName) : trim n.text = n.text :=
  trim_eq_self (fun c hc => (n.plain c (List.mem_of_mem_head? hc)).2)
    fun c hc => (n.plain c (List.mem_of_mem_getLast? hc)).2

/-- No line break ends a name. -/
theorem DottedName.dropFinalBreak_text (n : DottedName) : dropFinalBreak n.text = n.text := by
  rw [dropFinalBreak, if_neg]
  intro hlast
  have hblank := (n.plain _ (List.mem_of_mem_getLast? hlast)).2
  exact absurd hblank (by decide)

/-! ### Integers -/

namespace Numeral

variable (n : Numeral)

theorem takeSign_text :
    Number.takeSign n.text = (decide (n.sign = .minus), n.digits) := by
  obtain ⟨sign, digits, hne, hdigits, -⟩ := n
  cases sign with
  | none =>
    -- The first digit is no sign.
    obtain ⟨c, s, rfl⟩ := List.exists_cons_of_ne_nil hne
    have hcode := toNat_of_isDecimalDigit (List.all_eq_true.mp hdigits c List.mem_cons_self)
    have hsign (d : Char) (hd : d.toNat < 48) : c ≠ d := by
      rintro rfl
      omega
    exact Number.takeSign.eq_3 _ (fun rest h => hsign '-' (by decide) (List.cons.inj h).1)
      (fun rest h => hsign '+' (by decide) (List.cons.inj h).1)
  | plus => rfl
  | minus => rfl

/-- A numeral is taken for an integer. -/
theorem isInteger_text : isInteger n.text = true := by
  rw [isInteger, n.takeSign_text]
  simp [n.nonempty, n.decimal]

theorem value_eq : Number.numeralValue n.text = n.value := by
  rw [Number.numeralValue, n.takeSign_text, value]
  simp

/-- An integer is read as the integer that is written. -/
theorem readInteger_text : readInteger n.text = .ok n.value := by
  have hsign := n.takeSign_text
  rw [readInteger, Number.readInt_numeral (by rw [hsign]; exact n.nonempty)
    (by rw [hsign]; exact n.decimal), hsign, if_neg (Nat.not_lt.mpr n.few), n.value_eq]
  rfl

/-- A character of an integer is a digit or a sign. -/
theorem mem_text {c : Char} (h : c ∈ n.text) :
    isDecimalDigit c = true ∨ c = '+' ∨ c = '-' := by
  rcases List.mem_append.mp h with h | h
  · right
    cases hsign : n.sign <;> rw [hsign] at h <;> simp_all [Sign.text]
  · exact .inl (List.all_eq_true.mp n.decimal c h)

theorem plain : ∀ c ∈ n.text, isPlain isDivider c = true ∧ isBlank c = false := by
  intro c hc
  rcases n.mem_text hc with h | rfl | rfl
  · exact ⟨plain_of_isDecimalDigit h, isBlank_of_isDecimalDigit h⟩
  · decide
  · decide

theorem solid : Solid isDivider n.text :=
  .of_plain fun c hc => (n.plain c hc).1

theorem trim_text : trim n.text = n.text :=
  trim_eq_self (fun c hc => (n.plain c (List.mem_of_mem_head? hc)).2)
    fun c hc => (n.plain c (List.mem_of_mem_getLast? hc)).2

end Numeral

/-! ### Quoted texts -/

namespace Quotation

variable (q : Quotation)

theorem solid {mark : Char → Bool} : Solid mark q.text :=
  .quoted q.isQuote q.free .nil

theorem trim_text : trim q.text = q.text := by
  have hquote : isBlank q.quote = false := by
    have hq := q.isQuote
    simp only [Rule.isQuote, Bool.or_eq_true, beq_iff_eq] at hq
    rcases hq with hq | hq <;> rw [hq] <;> decide
  refine trim_eq_self (fun c hc => ?_) fun c hc => ?_
  · obtain rfl : q.quote = c := Option.some.inj hc
    exact hquote
  · rw [text, ← List.cons_append, List.getLast?_concat] at hc
    obtain rfl : q.quote = c := Option.some.inj hc
    exact hquote

theorem inner_text : inner q.text = q.content := by
  rw [inner, text, List.drop_one, List.tail_cons, List.dropLast_concat]

theorem getLast?_text : q.text.getLast? = some q.quote := by
  rw [text, ← List.cons_append, List.getLast?_concat]

theorem unquote_text : unquote q.text = q.content := by
  have hlast := q.getLast?_text
  have hinner := q.inner_text
  obtain ⟨quote, content, hquote, hfree⟩ := q
  cases content with
  | nil => simp_all [text, unquote]
  | cons c content => simp_all [text, unquote]

end Quotation

end Intake.Rule.Form
