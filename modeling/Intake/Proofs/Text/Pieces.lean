import Intake.Proofs.Text
import Intake.Text.Pieces

/-!
# Pieces of texts

A text that is cut at a mark is what lies before the first mark, the mark, and what lies behind it
(`cutAt_eq_some`, `cutAt_append`). The pieces between marks are the only texts without the mark that
make up the text with a mark between each two (`splitAt_eq_iff`).

There is always a piece, also of the empty text, and two marks side by side have an empty piece
between them, so that nothing of a text is lost in its pieces and none is made up. What holds of all
characters of a text holds of those of its pieces and of the marks (`mem_splitAt`).
-/

namespace Intake.Text

variable {mark : Char} {s before behind : List Char}

/-! ### The first mark -/

/-- A text is cut at the first occurrence of a character. -/
theorem cutAt_eq_some (h : cutAt mark s = (before, some behind)) :
    s = before ++ mark :: behind ∧ mark ∉ before := by
  rw [cutAt] at h
  split at h
  · cases h
  · next c rest hrest =>
    cases h
    have hc : c = mark := by
      have hnot := List.head?_dropWhile_not (· != mark) s
      rw [hrest] at hnot
      simpa using hnot
    constructor
    · rw [← hc, ← hrest, hc, List.takeWhile_append_dropWhile]
    · exact fun hmem => by simpa using List.mem_takeWhile_imp hmem

theorem cutAt_of_notMem (h : mark ∉ s) : cutAt mark s = (s, none) := by
  rw [cutAt, List.dropWhile_eq_nil_iff.mpr]
  exact fun c hc => bne_iff_ne.mpr (ne_of_mem_of_not_mem hc h)

/-- A text is cut at the first mark. -/
theorem cutAt_append (h : mark ∉ before) (behind : List Char) :
    cutAt mark (before ++ mark :: behind) = (before, some behind) := by
  have hpos : ∀ c ∈ before, (c != mark) = true := fun c hc =>
    bne_iff_ne.mpr (ne_of_mem_of_not_mem hc h)
  rw [cutAt, List.dropWhile_append_of_pos hpos, List.dropWhile_cons_of_neg (by simp),
    List.takeWhile_append_of_pos hpos, List.takeWhile_cons_of_neg (by simp), List.append_nil]

/-! ### All marks -/

theorem splitAt_ne_nil (mark : Char) (s : List Char) : splitAt mark s ≠ [] := by
  cases s with
  | nil => exact List.cons_ne_nil _ _
  | cons c s =>
    rw [splitAt]
    split
    · exact List.cons_ne_nil _ _
    · split <;> exact List.cons_ne_nil _ _

/-- The pieces between marks, by the first character. -/
theorem splitAt_cons (mark c : Char) (s : List Char) :
    ∃ piece pieces, splitAt mark s = piece :: pieces ∧
      splitAt mark (c :: s) =
        if c == mark then [] :: piece :: pieces else (c :: piece) :: pieces := by
  obtain ⟨piece, pieces, h⟩ := List.exists_cons_of_ne_nil (splitAt_ne_nil mark s)
  refine ⟨piece, pieces, h, ?_⟩
  rw [splitAt, h]

/-- A character of a text is a mark, or it stands in one of the pieces between the marks. -/
theorem mem_splitAt (mark : Char) {c : Char} {s : List Char} (h : c ∈ s) :
    c = mark ∨ ∃ p ∈ splitAt mark s, c ∈ p := by
  induction s with
  | nil => cases h
  | cons d s ih =>
    obtain ⟨piece, pieces, hs, hd⟩ := splitAt_cons mark d s
    rw [hd]
    rw [hs] at ih
    by_cases hmark : d = mark
    · rw [if_pos (beq_iff_eq.mpr hmark)]
      rcases List.mem_cons.mp h with rfl | h
      · exact .inl hmark
      · exact (ih h).imp_right fun ⟨p, hp, hc⟩ => ⟨p, List.mem_cons_of_mem _ hp, hc⟩
    · rw [if_neg (by simpa using hmark)]
      rcases List.mem_cons.mp h with rfl | h
      · exact .inr ⟨_, List.mem_cons_self, List.mem_cons_self⟩
      · rcases ih h with hc | ⟨p, hp, hc⟩
        · exact .inl hc
        · rcases List.mem_cons.mp hp with rfl | hp
          · exact .inr ⟨_, List.mem_cons_self, List.mem_cons_of_mem d hc⟩
          · exact .inr ⟨p, List.mem_cons_of_mem _ hp, hc⟩

theorem splitAt_of_notMem (h : mark ∉ s) : splitAt mark s = [s] := by
  induction s with
  | nil => rfl
  | cons c s ih =>
    rw [List.mem_cons, not_or] at h
    rw [splitAt, ih h.2]
    exact if_neg (by simpa using Ne.symm h.1)

theorem splitAt_append {piece : List Char} (h : mark ∉ piece) (s : List Char) :
    splitAt mark (piece ++ mark :: s) = piece :: splitAt mark s := by
  induction piece with
  | nil =>
    obtain ⟨first, pieces, hs, hmark⟩ := splitAt_cons mark mark s
    rw [List.nil_append, hmark, if_pos (beq_self_eq_true mark), hs]
  | cons c piece ih =>
    rw [List.mem_cons, not_or] at h
    rw [List.cons_append, splitAt, ih h.2]
    exact if_neg (by simpa using Ne.symm h.1)

theorem splitAt_intercalate {pieces : List (List Char)} (hne : pieces ≠ [])
    (h : ∀ p ∈ pieces, mark ∉ p) : splitAt mark (List.intercalate [mark] pieces) = pieces := by
  induction pieces with
  | nil => exact absurd rfl hne
  | cons piece pieces ih =>
    have hpiece := h piece List.mem_cons_self
    cases pieces with
    | nil => rw [List.intercalate_singleton, splitAt_of_notMem hpiece]
    | cons next pieces =>
      rw [List.intercalate_cons_cons, List.append_assoc, List.singleton_append,
        splitAt_append hpiece,
        ih (List.cons_ne_nil _ _) fun p hp => h p (List.mem_cons_of_mem _ hp)]

theorem notMem_of_mem_splitAt {piece : List Char} (h : piece ∈ splitAt mark s) : mark ∉ piece := by
  induction s generalizing piece with
  | nil =>
    obtain rfl := List.mem_singleton.mp h
    exact List.not_mem_nil
  | cons c s ih =>
    obtain ⟨first, pieces, hs, hcons⟩ := splitAt_cons mark c s
    rw [hcons] at h
    rw [hs] at ih
    split at h
    · rcases List.mem_cons.mp h with rfl | h
      · exact List.not_mem_nil
      · exact ih h
    · next hc =>
      rcases List.mem_cons.mp h with rfl | h
      · have hne : mark ≠ c := fun heq => hc (beq_iff_eq.mpr heq.symm)
        exact List.not_mem_cons_of_ne_of_not_mem hne (ih List.mem_cons_self)
      · exact ih (List.mem_cons_of_mem _ h)

/-- The pieces make up the text again, with marks between them. -/
theorem intercalate_splitAt (mark : Char) (s : List Char) :
    List.intercalate [mark] (splitAt mark s) = s := by
  induction s with
  | nil => rfl
  | cons c s ih =>
    obtain ⟨first, pieces, hs, hcons⟩ := splitAt_cons mark c s
    rw [hs] at ih
    rw [hcons]
    split
    · next hc =>
      rw [List.intercalate_cons_cons, ih, eq_of_beq hc, List.nil_append, List.singleton_append]
    · cases pieces with
      | nil =>
        rw [List.intercalate_singleton] at ih ⊢
        rw [ih]
      | cons next pieces =>
        rw [List.intercalate_cons_cons, List.append_assoc] at ih ⊢
        rw [List.cons_append, ih]

/-- The pieces between marks are the texts without the mark that make up the text. -/
theorem splitAt_eq_iff {pieces : List (List Char)} :
    splitAt mark s = pieces ↔
      pieces ≠ [] ∧ (∀ p ∈ pieces, mark ∉ p) ∧ List.intercalate [mark] pieces = s := by
  constructor
  · rintro rfl
    exact ⟨splitAt_ne_nil mark s, fun p hp => notMem_of_mem_splitAt hp, intercalate_splitAt mark s⟩
  · rintro ⟨hne, hfree, rfl⟩
    exact splitAt_intercalate hne hfree

end Intake.Text
