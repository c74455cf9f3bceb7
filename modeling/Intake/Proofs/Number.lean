import Intake.Number.Reading
import Intake.Proofs.Text

/-!
# Reading numbers

A text of decimal digits of any script, perhaps behind a sign, is read as an integer unless it has
more digits than are read (`readInt_numeral`). The digits are turned into those of one script first
(`numberChar_digit`), and their values are those of their places in the script. A text that is read
as a binary64 number holds blanks, digits, letters, points, signs and underscores only
(`isDecimalChar_of_readBinary64?`).

What is no decimal digit keeps a text from being read as an integer: a styled digit, which looks
like one and counts as a digit elsewhere (`readInt_of_styled`), and a second hyphen
(`readInt_of_hyphens`).
-/

namespace Intake.Number

open Intake.Text

/-- The value of a decimal digit. -/
def digitValue (c : Char) : Nat :=
  (digitValue? c).getD 0

/-- The digit of ASCII with the value of a decimal digit. -/
theorem numberChar_digit {c : Char} (h : isDecimalDigit c = true) :
    numberChar c = Char.ofNat (48 + digitValue c) ∧ digitValue c < 10 := by
  obtain ⟨d, hd⟩ := Option.isSome_iff_exists.mp h
  obtain ⟨z, hz, hc, hlt⟩ := exists_zero_of_digitValue? hd
  have hv : digitValue c = d := by rw [digitValue, hd, Option.getD_some]
  rw [hv]
  refine ⟨?_, hlt⟩
  rcases ascii_or_large_of_mem_zeros hz with rfl | hz
  · rw [numberChar, if_pos (by omega), ← hc, Char.ofNat_toNat]
  · rw [numberChar, if_neg (by omega), isBlank_of_isDecimalDigit h, hd]
    simp

/-- What reading asks about the ten digits of ASCII. -/
theorem ascii_digit {d : Nat} (h : d < 10) :
    baseDigit? 10 (Char.ofNat (48 + d)) = some d ∧ Char.ofNat (48 + d) ≠ '_' ∧
      Char.ofNat (48 + d) ≠ '-' ∧ Char.ofNat (48 + d) ≠ '+' ∧
      isNumberBlank (Char.ofNat (48 + d)) = false := by
  have hall : ∀ d < 10, baseDigit? 10 (Char.ofNat (48 + d)) = some d ∧
      Char.ofNat (48 + d) ≠ '_' ∧ Char.ofNat (48 + d) ≠ '-' ∧ Char.ofNat (48 + d) ≠ '+' ∧
      isNumberBlank (Char.ofNat (48 + d)) = false := by decide
  exact hall d h

/-- Digits of ASCII are read to their end. -/
theorem takeDigits_ascii (ds : List Nat) (h : ∀ d ∈ ds, d < 10) :
    takeDigits 10 (ds.map fun d => Char.ofNat (48 + d)) = (ds, []) := by
  induction ds with
  | nil => rfl
  | cons d ds ih =>
    obtain ⟨hd, hmark, -⟩ := ascii_digit (h d List.mem_cons_self)
    rw [List.map_cons, takeDigits.eq_3 _ _ _ (fun c rest hc => (hmark hc).elim), hd,
      ih fun e he => h e (List.mem_cons_of_mem d he)]

theorem map_numberChar_digits {ds : List Char} (h : ds.all isDecimalDigit = true) :
    ds.map numberChar = (ds.map digitValue).map fun d => Char.ofNat (48 + d) := by
  rw [List.map_map]
  exact List.map_congr_left fun c hc => (numberChar_digit (List.all_eq_true.mp h c hc)).1

theorem digitValue_lt {ds : List Char} (h : ds.all isDecimalDigit = true) :
    ∀ d ∈ ds.map digitValue, d < 10 := by
  intro d hd
  obtain ⟨c, hc, rfl⟩ := List.mem_map.mp hd
  exact (numberChar_digit (List.all_eq_true.mp h c hc)).2

/-- A text opens with a sign, or it is taken as it stands. -/
theorem takeSign_cases (s : List Char) :
    (∃ rest, s = '-' :: rest ∧ takeSign s = (true, rest)) ∨
      (∃ rest, s = '+' :: rest ∧ takeSign s = (false, rest)) ∨ takeSign s = (false, s) := by
  unfold takeSign
  split
  · exact .inl ⟨_, rfl, rfl⟩
  · exact .inr (.inl ⟨_, rfl, rfl⟩)
  · exact .inr (.inr rfl)

theorem isSuffix_takeSign (s : List Char) : (takeSign s).2 <:+ s := by
  obtain ⟨rest, rfl, h⟩ | ⟨rest, rfl, h⟩ | h := takeSign_cases s
  · rw [h]
    exact List.suffix_cons _ _
  · rw [h]
    exact List.suffix_cons _ _
  · exact ⟨[], congrArg Prod.snd h⟩

/-- A text that opens with a digit of ASCII has no sign, and no blank in front. -/
theorem takeSign_digits {ds : List Char} (hne : ds ≠ []) (h : ds.all isDecimalDigit = true) :
    takeSign ((ds.map numberChar).dropWhile isNumberBlank) = (false, ds.map numberChar) := by
  obtain ⟨c, cs, rfl⟩ := List.exists_cons_of_ne_nil hne
  obtain ⟨hc, hlt⟩ := numberChar_digit (List.all_eq_true.mp h c List.mem_cons_self)
  obtain ⟨-, -, hminus, hplus, hblank⟩ := ascii_digit hlt
  rw [← hc] at hminus hplus hblank
  rw [List.map_cons, List.dropWhile_cons_of_neg (by rw [hblank]; decide)]
  exact takeSign.eq_3 _ (fun rest h => hminus (List.cons.inj h).1)
    (fun rest h => hplus (List.cons.inj h).1)

/-- The sign of a numeral is found behind no blanks, and its digits in their ASCII form. -/
theorem takeSign_numeral {s : List Char} (hne : (takeSign s).2 ≠ [])
    (h : (takeSign s).2.all isDecimalDigit = true) :
    takeSign ((s.map numberChar).dropWhile isNumberBlank) =
      ((takeSign s).1, (takeSign s).2.map numberChar) := by
  have hminus : numberChar '-' = '-' ∧ isNumberBlank '-' = false := by decide
  have hplus : numberChar '+' = '+' ∧ isNumberBlank '+' = false := by decide
  obtain ⟨rest, rfl, hs⟩ | ⟨rest, rfl, hs⟩ | hs := takeSign_cases s
  · rw [hs, List.map_cons, hminus.1, List.dropWhile_cons_of_neg (by rw [hminus.2]; decide)]
    rfl
  · rw [hs, List.map_cons, hplus.1, List.dropWhile_cons_of_neg (by rw [hplus.2]; decide)]
    rfl
  · rw [hs] at hne h ⊢
    exact takeSign_digits hne h

/-- Nothing marks base 10. -/
theorem dropBaseMark_ten (s : List Char) : dropBaseMark 10 s = s :=
  if_neg (by decide)

/-- The integer a numeral denotes. -/
def numeralValue (s : List Char) : Int :=
  let n : Int := ofDigits 10 ((takeSign s).2.map digitValue)
  if (takeSign s).1 then -n else n

/-- A numeral is read as the integer it denotes, unless it has too many digits. -/
theorem readInt_numeral {s : List Char} (hne : (takeSign s).2 ≠ [])
    (h : (takeSign s).2.all isDecimalDigit = true) :
    readInt 10 s =
      if digitLimit < (takeSign s).2.length then .error (.tooManyDigits (takeSign s).2.length)
      else .ok (numeralValue s) := by
  have htake := takeDigits_ascii _ (digitValue_lt h)
  rw [← map_numberChar_digits h] at htake
  -- The first digit is no underscore, which decides the first match of `readInt`.
  have hhead : ∀ rest, (takeSign s).2.map numberChar ≠ '_' :: rest := by
    obtain ⟨c, cs, hcs⟩ := List.exists_cons_of_ne_nil hne
    rw [hcs] at h ⊢
    obtain ⟨hc, hlt⟩ := numberChar_digit (List.all_eq_true.mp h c List.mem_cons_self)
    rw [List.map_cons, hc]
    exact fun rest heq => (ascii_digit hlt).2.1 (List.cons.inj heq).1
  have hempty : ((takeSign s).2.map digitValue).isEmpty = false := by
    rw [List.isEmpty_map, List.isEmpty_eq_false_iff]
    exact hne
  simp only [readInt, takeSign_numeral hne h, dropBaseMark_ten, htake, hempty, List.length_map]
  by_cases hlimit : digitLimit < (takeSign s).2.length
  · simp [hlimit]
  · simp [hlimit, numeralValue]

/-! ### The characters of binary64 texts -/

/-- A character that may stand in a text that is read as a binary64 number, in its ASCII form. -/
def isDecimalChar (c : Char) : Bool :=
  isNumberBlank c || isLatinDigit c || isLatinLetter c || c == '_' || c == '.' || c == '+' ||
    c == '-'

theorem mem_dropWhile {p : Char → Bool} {c : Char} {s : List Char} (hc : c ∈ s) (hp : p c = false) :
    c ∈ s.dropWhile p := by
  rw [← List.takeWhile_append_dropWhile (p := p) (l := s), List.mem_append] at hc
  rcases hc with hc | hc
  · rw [List.mem_takeWhile_imp hc] at hp
    cases hp
  · exact hc

theorem mem_takeSign {c : Char} {s : List Char} (hc : c ∈ s) :
    c = '-' ∨ c = '+' ∨ c ∈ (takeSign s).2 := by
  obtain ⟨rest, rfl, h⟩ | ⟨rest, rfl, h⟩ | h := takeSign_cases s
  · rw [h]
    rcases List.mem_cons.mp hc with rfl | hc
    · exact .inl rfl
    · exact .inr (.inr hc)
  · rw [h]
    rcases List.mem_cons.mp hc with rfl | hc
    · exact .inr (.inl rfl)
    · exact .inr (.inr hc)
  · rw [h]
    exact .inr (.inr hc)

theorem isDecimalChar_of_isLatinDigit {c : Char} (h : isLatinDigit c = true) :
    isDecimalChar c = true := by
  simp [isDecimalChar, h]

theorem isDecimalChar_of_readExponent? {s : List Char} {e : Int} (h : readExponent? s = some e) :
    ∀ c ∈ s, isDecimalChar c = true := by
  intro c hc
  simp only [readExponent?] at h
  split at h
  · exact nomatch h
  · next hdigits =>
    simp only [Bool.or_eq_true, Bool.not_eq_true', not_or, Bool.not_eq_false] at hdigits
    rcases mem_takeSign hc with rfl | rfl | hc
    · decide
    · decide
    · exact isDecimalChar_of_isLatinDigit (List.all_eq_true.mp hdigits.2 c hc)

/-- What stands behind the places of a number is an exponent or nothing. -/
theorem isDecimalChar_of_exponent {c d : Char} {s : List Char}
    (h : (if d == 'e' || d == 'E' then readExponent? s else none) ≠ none) (hc : c ∈ d :: s) :
    isDecimalChar c = true := by
  split at h
  · next hmark =>
    obtain ⟨e, he⟩ := Option.ne_none_iff_exists'.mp h
    rcases List.mem_cons.mp hc with rfl | hc
    · rcases Bool.or_eq_true_iff.mp hmark with hmark | hmark <;> rw [eq_of_beq hmark] <;> decide
    · exact isDecimalChar_of_readExponent? he c hc
  · exact absurd rfl h

theorem isDecimalChar_of_readDecimal? {negative : Bool} {s : List Char} {x : Binary64}
    (h : readDecimal? negative s = some x) : ∀ c ∈ s, isDecimalChar c = true := by
  have hdigits (t : List Char) (c : Char) (hc : c ∈ t.takeWhile isLatinDigit) :
      isDecimalChar c = true := isDecimalChar_of_isLatinDigit (List.mem_takeWhile_imp hc)
  intro c hc
  rw [← List.takeWhile_append_dropWhile (p := isLatinDigit) (l := s), List.mem_append] at hc
  rcases hc with hc | hc
  · exact hdigits s c hc
  rw [readDecimal?] at h
  split at h
  next places afterPlaces hparts =>
  extract_lets exponent? at h
  have hbehind : ∀ c ∈ afterPlaces, isDecimalChar c = true := by
    by_cases hnone : exponent? = none
    · simp [hnone] at h
    · cases afterPlaces with
      | nil => nofun
      | cons d t => exact fun c => isDecimalChar_of_exponent hnone
  split at hparts
  · next rest hpoint =>
    cases hparts
    rw [hpoint, ← List.takeWhile_append_dropWhile (p := isLatinDigit) (l := rest)] at hc
    rcases List.mem_cons.mp hc with rfl | hc
    · decide
    · exact (List.mem_append.mp hc).elim (hdigits rest c) (hbehind c)
  · cases hparts
    exact hbehind c hc

theorem isDecimalChar_of_word {word : String} (hword : word ∈ ["inf", "infinity", "nan"])
    {s : List Char} (h : (String.ofList (foldLatin s) == word) = true) :
    ∀ c ∈ s, isDecimalChar c = true := by
  have hletters : ∀ word ∈ ["inf", "infinity", "nan"],
      word.toList.all isDecimalChar = true := by decide
  intro c hc
  have hmem : (if 'A' ≤ c && c ≤ 'Z' then Char.ofNat (c.toNat + 32) else c) ∈ word.toList := by
    rw [← eq_of_beq h, String.toList_ofList]
    exact List.mem_map_of_mem hc
  split at hmem
  · next hupper => simp [isDecimalChar, isLatinLetter, hupper]
  · exact List.all_eq_true.mp (hletters word hword) c hmem

/-- The ASCII form of each character of a text that is read as a binary64 number. -/
theorem isDecimalChar_of_readBinary64? {s : List Char} {x : Binary64}
    (h : readBinary64? s = some x) : ∀ c ∈ s, isDecimalChar (numberChar c) = true := by
  intro c hc
  by_cases hblank : isNumberBlank (numberChar c) = true
  · simp [isDecimalChar, hblank]
  by_cases hscore : numberChar c = '_'
  · rw [hscore]
    decide
  rw [Bool.not_eq_true] at hblank
  -- neither a blank nor an underscore, it is left when these are dropped
  have hleft := mem_dropWhile (List.mem_map_of_mem hc) hblank
  have hplain := List.mem_reverse.mpr (mem_dropWhile (List.mem_reverse.mpr hleft) hblank)
  have hfilter := (List.mem_filter (p := (· != '_'))).mpr ⟨hplain, bne_iff_ne.mpr hscore⟩
  rcases mem_takeSign hfilter with hsign | hsign | hunsigned
  · rw [hsign]
    decide
  · rw [hsign]
    decide
  simp only [readBinary64?] at h
  split at h
  · exact nomatch h
  split at h
  · next hword =>
    rcases Bool.or_eq_true_iff.mp hword with hword | hword
    · exact isDecimalChar_of_word (by simp) hword _ hunsigned
    · exact isDecimalChar_of_word (by simp) hword _ hunsigned
  split at h
  · next hword => exact isDecimalChar_of_word (by simp) hword _ hunsigned
  · exact isDecimalChar_of_readDecimal? h _ hunsigned

/-! ### Texts that are not read -/

variable {s ds : List Char}

theorem takeSign_of_digits (h : ds.all isDecimalDigit = true) : takeSign ds = (false, ds) := by
  have hmarks : isDecimalDigit '-' = false ∧ isDecimalDigit '+' = false := by decide
  obtain ⟨rest, rfl, -⟩ | ⟨rest, rfl, -⟩ | hds := takeSign_cases ds
  · simp [hmarks] at h
  · simp [hmarks] at h
  · exact hds

/-- A character that is no digit and no underscore is not read. -/
theorem mem_takeDigits {base : Nat} {c : Char} (hc : c ∈ s) (hscore : c ≠ '_')
    (hdigit : baseDigit? base c = none) : c ∈ (takeDigits base s).2 := by
  have hother {d : Char} {m : Nat} (hm : baseDigit? base d = some m) : c ≠ d := by
    rintro rfl
    rw [hdigit] at hm
    cases hm
  fun_induction takeDigits base s with
  | case1 => cases hc
  | case2 d rest m hm ds r hrest ih =>
    rw [hrest] at ih
    exact ih (List.mem_of_ne_of_mem (hother hm) (List.mem_of_ne_of_mem hscore hc))
  | case3 d rest hnone => exact hc
  | case4 d rest hmark m hm ds r hrest ih =>
    rw [hrest] at ih
    exact ih (List.mem_of_ne_of_mem (hother hm) hc)
  | case5 d rest hmark hnone => exact hc

/-- A digit that is not decimal has no ASCII form. -/
theorem numberChar_of_styled {c : Char} (h : isDigitForm c = true)
    (hnot : isDecimalDigit c = false) : numberChar c = '?' := by
  rw [isDigitForm, hnot, Bool.false_or, CharClass.contains, CharClass.containsCode,
    List.any_eq_true] at h
  obtain ⟨r, hr, hin⟩ := h
  rw [Bool.and_eq_true, decide_eq_true_eq, decide_eq_true_eq] at hin
  have hranges : ∀ r ∈ styledDigits.ranges, 127 ≤ r.1 ∧
      ∀ b ∈ blanks.ranges, b.2 < r.1 ∨ r.2 < b.1 := by decide
  obtain ⟨hlarge, hapart⟩ := hranges r hr
  have hblank : isBlank c = false := by
    rw [isBlank, CharClass.contains, CharClass.containsCode, List.any_eq_false]
    intro b hb
    rw [Bool.and_eq_true, decide_eq_true_eq, decide_eq_true_eq]
    have := hapart b hb
    omega
  have hvalue : digitValue? c = none := by
    rwa [isDecimalDigit, Option.isSome_eq_false_iff, Option.isNone_iff_eq_none] at hnot
  rw [numberChar, if_neg (by omega), hblank, hvalue]
  rfl

/-- A text with a digit that is not decimal is not read. -/
theorem readInt_of_styled {c : Char} (hc : c ∈ s) (h : isDigitForm c = true)
    (hnot : isDecimalDigit c = false) : ∃ e, readInt 10 s = .error e := by
  have hmark : isNumberBlank '?' = false ∧ baseDigit? 10 '?' = none := by decide
  have hmem : '?' ∈ s.map numberChar := by
    rw [← numberChar_of_styled h hnot]
    exact List.mem_map_of_mem hc
  have hleft : '?' ∈ (takeSign ((s.map numberChar).dropWhile isNumberBlank)).2 := by
    rcases mem_takeSign (mem_dropWhile hmem hmark.1) with hsign | hsign | hleft
    · exact absurd hsign (by decide)
    · exact absurd hsign (by decide)
    · exact hleft
  have hrest := mem_takeDigits hleft (by decide) hmark.2
  rw [readInt]
  dsimp only
  rw [dropBaseMark_ten]
  generalize takeSign ((s.map numberChar).dropWhile isNumberBlank) = signed at *
  split
  · exact ⟨_, rfl⟩
  · have hblank : (takeDigits 10 signed.2).2.all isNumberBlank = false :=
      List.all_eq_false.mpr ⟨'?', hrest, by simp [hmark.1]⟩
    simp only [hblank, Bool.false_eq_true, if_false]
    split_ifs <;> exact ⟨_, rfl⟩

/-- A text with several hyphens is not read. -/
theorem readInt_of_hyphens (s : List Char) :
    readInt 10 ('-' :: '-' :: s) = .error (.invalid 10 ('-' :: '-' :: s)) := by
  have hhyphen : numberChar '-' = '-' ∧ isNumberBlank '-' = false ∧ baseDigit? 10 '-' = none := by
    decide
  have hsign : takeSign ((('-' :: '-' :: s).map numberChar).dropWhile isNumberBlank) =
      (true, '-' :: s.map numberChar) := by
    rw [List.map_cons, List.map_cons, hhyphen.1, List.dropWhile_cons_of_neg (by simp [hhyphen.2.1])]
    rfl
  have hnone : takeDigits 10 ('-' :: s.map numberChar) = ([], '-' :: s.map numberChar) := by
    rw [takeDigits.eq_3 _ _ _ (by simp), hhyphen.2.2]
  rw [readInt, hsign]
  dsimp only
  rw [dropBaseMark_ten, hnone]
  rfl

end Intake.Number
