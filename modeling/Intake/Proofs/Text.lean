import Mathlib.Data.List.TakeWhile
import Intake.Text.Blank
import Intake.Text.Digit

/-!
# Characters and blanks

The decimal digits of a script are ten characters in a row, told by the tables of their zeros
(`exists_zero_of_digitValue?`). So the digits of every script are neither blanks nor signs, and a
digit is one of the basic ten or lies far behind them.

What is left of a text without the blanks around it stands in the text (`isInfix_trim`), with blanks
on both sides (`exists_trim`). Trimming a padded text leaves the trimmed text (`trim_pad`), and a
text that neither begins nor ends with a blank stays as it is (`trim_eq_self`).
-/

namespace Intake.Text

/-! ### Decimal digits -/

/-- A decimal digit stands in the run of ten behind the zero of its script. -/
theorem exists_zero_of_digitValue? {c : Char} {d : Nat} (h : digitValue? c = some d) :
    ∃ z ∈ zeros, c.toNat = z + d ∧ d < 10 := by
  simp only [digitValue?, Option.map_eq_some_iff] at h
  obtain ⟨z, hz, rfl⟩ := h
  have hmem := List.mem_of_find?_eq_some hz
  have hin := List.find?_some hz
  simp only [Bool.and_eq_true, decide_eq_true_eq] at hin
  exact ⟨z, hmem, by omega, by omega⟩

/-- The zeros beyond ASCII come behind all the marks of a rule. -/
theorem ascii_or_large_of_mem_zeros {z : Nat} (h : z ∈ zeros) : z = 48 ∨ 1632 ≤ z := by
  have hall : ∀ z ∈ zeros, z = 48 ∨ 1632 ≤ z := by decide
  exact hall z h

theorem toNat_of_isDecimalDigit {c : Char} (h : isDecimalDigit c = true) :
    (48 ≤ c.toNat ∧ c.toNat < 58) ∨ 1632 ≤ c.toNat := by
  obtain ⟨d, hd⟩ := Option.isSome_iff_exists.mp h
  obtain ⟨z, hz, hc, hlt⟩ := exists_zero_of_digitValue? hd
  rcases ascii_or_large_of_mem_zeros hz with rfl | hz
  · left; omega
  · right; omega

theorem isBlank_of_isDecimalDigit {c : Char} (h : isDecimalDigit c = true) : isBlank c = false := by
  have hall : ∀ z ∈ zeros, ∀ d < 10, blanks.containsCode (z + d) = false := by decide
  obtain ⟨d, hd⟩ := Option.isSome_iff_exists.mp h
  obtain ⟨z, hz, hc, hlt⟩ := exists_zero_of_digitValue? hd
  rw [isBlank, CharClass.contains, hc]
  exact hall z hz d hlt

/-! ### Blanks around a text -/

theorem isSuffix_trimLeft (s : List Char) : trimLeft s <:+ s :=
  List.dropWhile_suffix isBlank

theorem isPrefix_trimRight (s : List Char) : trimRight s <+: s := by
  rw [trimRight, ← List.reverse_suffix, List.reverse_reverse]
  exact List.dropWhile_suffix isBlank

/-- A text without the blanks around it stands in the text. -/
theorem isInfix_trim (s : List Char) : trim s <:+: s :=
  (isPrefix_trimRight _).isInfix.trans (isSuffix_trimLeft s).isInfix

theorem trimLeft_blank {a : List Char} (ha : allBlank a = true) (s : List Char) :
    trimLeft (a ++ s) = trimLeft s :=
  List.dropWhile_append_of_pos (List.all_eq_true.mp ha)

theorem trimRight_blank {b : List Char} (hb : allBlank b = true) (s : List Char) :
    trimRight (s ++ b) = trimRight s := by
  rw [trimRight, trimRight, List.reverse_append, List.dropWhile_append_of_pos]
  exact fun c hc => List.all_eq_true.mp hb c (List.mem_reverse.mp hc)

theorem trimLeft_append {s : List Char} (hs : trimLeft s ≠ []) (t : List Char) :
    trimLeft (s ++ t) = trimLeft s ++ t := by
  rw [trimLeft, List.dropWhile_append]
  simp only [trimLeft] at hs
  simp [List.isEmpty_iff, hs, trimLeft]

/-- Blanks around a text do not count. -/
theorem trim_pad {a b : List Char} (ha : allBlank a = true) (hb : allBlank b = true)
    (s : List Char) : trim (a ++ s ++ b) = trim s := by
  rw [trim, trim, List.append_assoc, trimLeft_blank ha]
  by_cases hs : trimLeft s = []
  · -- The whole text is blank.
    rw [trimLeft, List.dropWhile_append]
    simp only [trimLeft] at hs
    have hb' : b.dropWhile isBlank = [] := List.dropWhile_eq_nil_iff.mpr (List.all_eq_true.mp hb)
    simp [hs, hb', trimLeft]
  · rw [trimLeft_append hs, trimRight_blank hb]

theorem trim_eq_nil {s : List Char} (h : allBlank s = true) : trim s = [] := by
  have htrim := trim_pad h (b := []) rfl []
  rwa [List.append_nil, List.append_nil] at htrim

/-- A text that neither opens nor closes with a blank is left as it is. -/
theorem trim_eq_self {s : List Char} (hhead : ∀ c ∈ s.head?, isBlank c = false)
    (hlast : ∀ c ∈ s.getLast?, isBlank c = false) : trim s = s := by
  have hleft {s : List Char} (h : ∀ c ∈ s.head?, isBlank c = false) :
      s.dropWhile isBlank = s := by
    cases s with
    | nil => rfl
    | cons c s => exact List.dropWhile_cons_of_neg (by simp [h c rfl])
  rw [trim, trimLeft, hleft hhead, trimRight, hleft, List.reverse_reverse]
  rwa [List.head?_reverse]

/-- No blank closes a text without the blanks around it. -/
theorem isBlank_of_getLast?_trim {s : List Char} {c : Char} (h : (trim s).getLast? = some c) :
    isBlank c = false := by
  rw [trim, trimRight, List.getLast?_reverse] at h
  have hhead := List.head?_dropWhile_not isBlank (trimLeft s).reverse
  rwa [h] at hhead

/-- No blank opens a text without the blanks around it. -/
theorem isBlank_of_head?_trim {s : List Char} {c : Char} (h : (trim s).head? = some c) :
    isBlank c = false := by
  obtain ⟨t, ht⟩ := isPrefix_trimRight (trimLeft s)
  have hhead : (trimLeft s).head? = some c := by
    rw [trim] at h
    rw [← ht, List.head?_append, h, Option.some_or]
  have hnot := List.head?_dropWhile_not isBlank s
  rw [trimLeft] at hhead
  rwa [hhead] at hnot

theorem trim_trim (s : List Char) : trim (trim s) = trim s :=
  trim_eq_self (fun _ hc => isBlank_of_head?_trim hc) fun _ hc => isBlank_of_getLast?_trim hc

/-- A text is what is left without the blanks around it, and these blanks. -/
theorem exists_trim (s : List Char) :
    ∃ a b, allBlank a = true ∧ allBlank b = true ∧ s = a ++ trim s ++ b := by
  have hleft : s.takeWhile isBlank ++ trimLeft s = s := List.takeWhile_append_dropWhile
  have hright : trimRight (trimLeft s) ++ ((trimLeft s).reverse.takeWhile isBlank).reverse =
      trimLeft s := by
    rw [trimRight, ← List.reverse_append, List.takeWhile_append_dropWhile, List.reverse_reverse]
  refine ⟨s.takeWhile isBlank, ((trimLeft s).reverse.takeWhile isBlank).reverse,
    List.all_takeWhile, ?_, ?_⟩
  · rw [allBlank, List.all_reverse]
    exact List.all_takeWhile
  · rw [trim, List.append_assoc, hright, hleft]

/-- The last character of a text is a blank, or the last one without the blanks around it. -/
theorem getLast?_cases {s : List Char} {c : Char} (h : s.getLast? = some c) :
    isBlank c = true ∨ (trim s).getLast? = some c := by
  obtain ⟨a, b, ha, hb, hs⟩ := exists_trim s
  rw [hs, List.getLast?_append, List.getLast?_append] at h
  cases hlast : b.getLast? with
  | some d =>
    rw [hlast, Option.some_or] at h
    obtain rfl : d = c := Option.some.inj h
    exact .inl (List.all_eq_true.mp hb d (List.mem_of_getLast? hlast))
  | none =>
    rw [hlast, Option.none_or] at h
    cases htrim : (trim s).getLast? with
    | some d => exact .inr (by rwa [htrim, Option.some_or] at h)
    | none =>
      rw [htrim, Option.none_or] at h
      exact .inl (List.all_eq_true.mp ha c (List.mem_of_getLast? h))

/-! ### The characters of names -/

theorem toNat_lt_of_isNameTail {c : Char} (h : isNameTail c = true) : c.toNat < 128 := by
  simp only [isNameTail, isLatinLetter, isLatinDigit, Bool.or_eq_true, Bool.and_eq_true,
    decide_eq_true_eq, beq_iff_eq, Char.le_def, UInt32.le_iff_toNat_le] at h
  simp only [Char.toNat]
  rcases h with ((⟨-, h⟩ | ⟨-, h⟩) | ⟨-, h⟩) | rfl
  · exact Nat.lt_of_le_of_lt h (by decide)
  · exact Nat.lt_of_le_of_lt h (by decide)
  · exact Nat.lt_of_le_of_lt h (by decide)
  · decide

theorem isNameTail_of_isNameHead {c : Char} (h : isNameHead c = true) : isNameTail c = true := by
  simp only [isNameHead, isNameTail, Bool.or_eq_true] at h ⊢
  rcases h with h | h
  · exact .inl (.inl h)
  · exact .inr h

end Intake.Text
