import Intake.Markup.Entity
import Intake.Proofs.Rule.Split

/-!
# Character references

A text whose markup characters are written as references is read back as it was (`decode_encode`): a
reference that is written ends with a semicolon and stands for the one character, and no other
character of the text begins a reference.

To read a text never makes it longer, and it makes it shorter wherever a reference stands for
something else than itself (`decode_shortens`): the text behind a reference has at most as many
characters as its name. For the named references this is checked of the whole table, for the
numbered ones it follows from their form. References that stand for nothing are left as they are.
-/

namespace Intake.Markup.Entity

open Intake.Rule (map_eq_ok)

variable {s t : List Char}

/-! ### Reading step by step -/

theorem decodeFrom_eq (skip : Nat) (s : List Char) : decodeFrom skip s = decode (s.drop skip) := by
  induction s generalizing skip with
  | nil => simp [decode, decodeFrom]
  | cons c s ih =>
    cases skip with
    | zero => rfl
    | succ n => exact ih n

theorem decode_cons {c : Char} (hc : c ≠ '&') (s : List Char) :
    decode (c :: s) = (decode s).map (c :: ·) := by
  rw [decode, decodeFrom, if_neg (by simpa using hc), decodeFrom_eq, List.drop_zero]

theorem decode_reference {text : List Char} {length : Nat}
    (h : reference? s = .ok (some (text, length))) :
    decode ('&' :: s) = (decode (s.drop length)).map (text ++ ·) := by
  rw [decode, decodeFrom, if_pos (by rfl), h, ← decodeFrom_eq]

theorem decode_of_not_mem (h : '&' ∉ s) : decode s = .ok s := by
  induction s with
  | nil => rfl
  | cons c s ih =>
    rw [List.mem_cons, not_or] at h
    rw [decode_cons (Ne.symm h.1), ih h.2]
    rfl

/-! ### Reading what was written -/

/-- The references that are written are read as the characters that they are written for. -/
theorem decode_encodeChar (quotes : Bool) (c : Char) (s : List Char) :
    decode (encodeChar quotes c ++ s) = (decode s).map (c :: ·) := by
  have hplain (hc : c ≠ '&') : decode ([c] ++ s) = (decode s).map (c :: ·) := decode_cons hc s
  have hread {name text : List Char} {length : Nat} (hdrop : (name ++ s).drop length = s)
      (h : reference? (name ++ s) = .ok (some (text, length))) :
      decode ('&' :: (name ++ s)) = (decode s).map (text ++ ·) := by
    rw [decode_reference h, hdrop]
  unfold encodeChar
  split
  · exact @hread "amp;".toList ['&'] 4 rfl rfl
  · exact @hread "lt;".toList ['<'] 3 rfl rfl
  · exact @hread "gt;".toList ['>'] 3 rfl rfl
  · cases quotes with
    | true => exact @hread "quot;".toList ['"'] 5 rfl rfl
    | false => exact hplain (by decide)
  · cases quotes with
    | true => exact @hread "#x27;".toList ['\''] 5 rfl rfl
    | false => exact hplain (by decide)
  · next hamp _ _ _ _ => exact hplain hamp

theorem decode_encode (quotes : Bool) (s : List Char) : decode (encode quotes s) = .ok s := by
  induction s with
  | nil => rfl
  | cons c s ih =>
    rw [encode, List.flatMap_cons, decode_encodeChar]
    exact congrArg _ ih

/-! ### Reading does not lengthen -/

/-- A name that may do without its semicolon stands for one character, and no name stands for more
    than two. -/
theorem length_of_lookup? {name text : List Char} (h : lookup? name = some text) :
    text.length ≤ 1 ∨ (text.length ≤ 2 ∧ name.getLast? = some ';') := by
  have hopen : ∀ e ∈ markupNames ++ openNames, e.2.length ≤ 1 := by decide
  have hclosed : ∀ e ∈ closedNames, e.2.length ≤ 2 := by decide +kernel
  have hmem {l : List Entry} {key : String} {codes : List Nat}
      (hcodes : l.lookup key = some codes) : (key, codes) ∈ l := by
    obtain ⟨pre, post, rfl, -⟩ := List.lookup_eq_some_iff.1 hcodes
    simp
  have hshort {key : String} {codes : List Nat}
      (hcodes : markupNames.lookup key = some codes ∨ openNames.lookup key = some codes) :
      codes.length ≤ 1 := by
    refine hopen (key, codes) (List.mem_append.mpr ?_)
    exact hcodes.imp hmem hmem
  unfold lookup? at h
  split at h
  · next hlast =>
    obtain ⟨codes, hcodes, rfl⟩ := Option.map_eq_some_iff.mp h
    rw [Option.or_eq_some_iff, Option.or_eq_some_iff] at hcodes
    rw [textOf, List.length_map]
    rcases hcodes with hcodes | ⟨-, hcodes | ⟨-, hcodes⟩⟩
    · exact .inl (hshort (.inl hcodes))
    · exact .inl (hshort (.inr hcodes))
    · exact .inr ⟨hclosed _ (hmem hcodes), by simpa using hlast⟩
  · obtain ⟨codes, hcodes, rfl⟩ := Option.map_eq_some_iff.mp h
    rw [Option.or_eq_some_iff] at hcodes
    rw [textOf, List.length_map]
    exact .inl (hshort (hcodes.imp id And.right))

theorem length_of_longest? {name text : List Char} {count : Nat} (hcount : count ≤ name.length)
    (h : longest? name count = some text) : text.length ≤ name.length := by
  fun_induction longest? name count with
  | case1 => cases h
  | case2 => cases h
  | case3 count hlong found hfound =>
    cases h
    have hsmall := length_of_lookup? hfound
    have hcount' : count ≠ 0 := hlong
    rw [List.length_append, List.length_drop]
    omega
  | case4 count hlong hfound ih => exact ih (by omega) h

/-- What a named reference stands for is not longer than the name, or it is the reference itself. -/
theorem length_named {name : List Char} (hname : name ≠ [';']) (hne : name ≠ []) :
    (named name).length ≤ name.length ∨ named name = '&' :: name := by
  have hpos : 0 < name.length := List.length_pos_iff.mpr hne
  unfold named
  split
  · next text hfound =>
    left
    rcases length_of_lookup? hfound with hsmall | ⟨hsmall, hlast⟩
    · omega
    · -- a single character would be the semicolon itself
      rcases name with _ | ⟨c, _ | ⟨d, rest⟩⟩
      · exact absurd rfl hne
      · rw [List.getLast?_singleton, Option.some.injEq] at hlast
        exact absurd (congrArg (fun c => [c]) hlast) hname
      · simp only [List.length_cons] at hsmall ⊢
        omega
  · cases hlong : longest? name (name.length - 1) with
    | none => exact .inr rfl
    | some text => exact .inl (length_of_longest? (by omega) hlong)

theorem closingLength_le (s : List Char) : closingLength s ≤ s.length := by
  unfold closingLength
  cases s with
  | nil => simp
  | cons c s => split <;> simp

/-- The same about a name with the semicolon behind it, if one follows. -/
theorem length_named_closed {name : List Char} (hne : name ≠ [])
    (hchars : ∀ c ∈ name, isNameChar c = true) (behind : List Char) :
    (named (name ++ behind.take (closingLength behind))).length ≤
        name.length + closingLength behind ∨
      named (name ++ behind.take (closingLength behind)) =
        '&' :: (name ++ behind.take (closingLength behind)) := by
  obtain ⟨c, rest, rfl⟩ := List.exists_cons_of_ne_nil hne
  -- a name opens with a character that is no semicolon
  have hname : c :: rest ++ behind.take (closingLength behind) ≠ [';'] := by
    intro heq
    have hc := hchars c List.mem_cons_self
    rw [(List.cons.inj heq).1] at hc
    exact absurd hc (by decide)
  have hlength : (c :: rest ++ behind.take (closingLength behind)).length =
      (c :: rest).length + closingLength behind := by
    rw [List.length_append, List.length_take, Nat.min_eq_left (closingLength_le behind)]
  rw [← hlength]
  exact length_named hname (by simp)

theorem length_numbered (n : Nat) : (numbered n).length ≤ 1 := by
  unfold numbered
  split_ifs <;> simp

/-- The name that a text begins with lies within the text, with the semicolon behind it. -/
theorem length_add_closingLength_le {name : List Char} (h : name <+: s) :
    name.length + closingLength (s.drop name.length) ≤ s.length := by
  have hle := closingLength_le (s.drop name.length)
  have hprefix := h.length_le
  rw [List.length_drop] at hle
  omega

/-- A reference lies within the text, and what it stands for is not longer than its text without the
    ampersand, unless it stands for itself. -/
theorem length_of_reference? {text : List Char} {length : Nat}
    (h : reference? s = .ok (some (text, length))) :
    length ≤ s.length ∧ (text.length ≤ length ∨ text = '&' :: s.take length) := by
  unfold reference? at h
  split at h
  · next rest =>
    dsimp only at h
    split at h
    · split at h
      · cases h
      · cases h
        have hle := length_add_closingLength_le (List.takeWhile_prefix Text.isLatinDigit (l := rest))
        refine ⟨by rw [List.length_cons]; omega, .inl ?_⟩
        exact (length_numbered _).trans (by omega)
    · cases rest with
      | nil => cases h
      | cons x rest =>
        dsimp only at h
        split at h
        · cases h
          have hle := length_add_closingLength_le (List.takeWhile_prefix Net.isHexDigit (l := rest))
          refine ⟨by simp only [List.length_cons]; omega, .inl ?_⟩
          exact (length_numbered _).trans (by omega)
        · cases h
  · dsimp only at h
    have hprefix : (s.take 32).takeWhile isNameChar <+: s :=
      (List.takeWhile_prefix _).trans (List.take_prefix 32 s)
    have hchars : ∀ c ∈ (s.take 32).takeWhile isNameChar, isNameChar c = true :=
      fun _ => List.mem_takeWhile_imp
    generalize (s.take 32).takeWhile isNameChar = name at h hprefix hchars
    split at h
    · cases h
    · next hempty =>
      cases h
      refine ⟨length_add_closingLength_le hprefix, ?_⟩
      obtain ⟨behind, rfl⟩ := hprefix
      rw [List.drop_left, List.take_length_add_append]
      exact length_named_closed (by simpa using hempty) hchars behind

/-- A character that stays before a text that does not become longer. -/
theorem shortens_cons (c : Char) (h : t = s ∨ t.length < s.length) :
    c :: t = c :: s ∨ (c :: t).length < (c :: s).length :=
  h.imp (congrArg (c :: ·)) Nat.succ_lt_succ

/-- A reference before a text that does not become longer. -/
theorem shortens_reference {text : List Char} {length : Nat} (hlength : length ≤ s.length)
    (hshort : text.length ≤ length ∨ text = '&' :: s.take length)
    (h : t = s.drop length ∨ t.length < (s.drop length).length) :
    text ++ t = '&' :: s ∨ (text ++ t).length < ('&' :: s).length := by
  rw [List.length_drop] at h
  rcases hshort with hshort | rfl
  · right
    have hle : t.length ≤ s.length - length := by
      rcases h with rfl | hlt
      · rw [List.length_drop]
      · exact hlt.le
    rw [List.length_append, List.length_cons]
    omega
  · rcases h with rfl | hlt
    · left
      rw [List.cons_append, List.take_append_drop]
    · right
      rw [List.length_append, List.length_cons, List.length_cons, List.length_take]
      omega

theorem decodeFrom_shortens (skip : Nat) (s : List Char) {t : List Char}
    (h : decodeFrom skip s = .ok t) :
    t = s.drop skip ∨ t.length < (s.drop skip).length := by
  induction s generalizing skip t with
  | nil =>
    cases h
    exact .inl (by simp)
  | cons c s ih =>
    cases skip with
    | succ n => exact ih n h
    | zero =>
      rw [List.drop_zero]
      unfold decodeFrom at h
      dsimp only at h
      split at h
      · next hamp =>
        obtain rfl : c = '&' := by simpa using hamp
        split at h
        · cases h
        · next text length href =>
          obtain ⟨u, hu, rfl⟩ := map_eq_ok.mp h
          obtain ⟨hlength, hshort⟩ := length_of_reference? href
          exact shortens_reference hlength hshort (ih length hu)
        · obtain ⟨u, hu, rfl⟩ := map_eq_ok.mp h
          exact shortens_cons '&' (ih 0 hu)
      · obtain ⟨u, hu, rfl⟩ := map_eq_ok.mp h
        exact shortens_cons c (ih 0 hu)

/-- Each reference in a text stands for itself, or the text becomes shorter when it is read. -/
theorem decode_shortens (h : decode s = .ok t) : t = s ∨ t.length < s.length :=
  decodeFrom_shortens 0 s h

end Intake.Markup.Entity
