import Intake.Permission
import Intake.Proofs.Text.Pieces

/-!
# What permissions cover

A permission covers an action segment by segment, where a star stands for any segment and, at the
end, for all segments that are left (`Covers`). An action is taken apart no further than the
permission, so that its last piece may hold colons itself; this finds the same (`covers_iff`), by
induction on the segments of the permission.

Covering is a preorder (`covers_preorder`): a permission covers itself, and it covers whatever is
covered by one that it covers. Hence a permission that the grants cover may be handed on as a grant,
and nothing is permitted that was not (`permits_insert`). Grants that are no texts end the search in
a fault, wherever they stand in front of the grant that covers the action.
-/

namespace Intake.Permission

open Intake.Text

/-! ### Segments -/

/-- The segments of a permission or an action: the texts between its colons. -/
def segments (s : String) : List (List Char) :=
  splitAt separator s.toList

/-- The segments are the texts without a colon that make up the text with colons between them. -/
theorem segments_eq_iff {s : String} {pieces : List (List Char)} :
    segments s = pieces ↔ pieces ≠ [] ∧ (∀ p ∈ pieces, separator ∉ p) ∧
      List.intercalate [separator] pieces = s.toList :=
  splitAt_eq_iff

/-- The segments of a permission cover those of an action: there are no more of them, each but the
    last is a star or the segment of the action in its place, and the last one is a star, or it is
    the last segment of an action with as many segments. -/
structure Covers (granted asked : List (List Char)) : Prop where
  length_le : granted.length ≤ asked.length
  inner : ∀ i, i + 1 < granted.length → granted[i]? = some wildcard ∨ granted[i]? = asked[i]?
  last : granted.getLast? = some wildcard ∨
    granted.length = asked.length ∧ granted.getLast? = asked.getLast?

namespace Covers

variable {g g' a : List Char} {gs as ps qs : List (List Char)}

theorem singleton_iff : Covers [g] as ↔ as ≠ [] ∧ (g = wildcard ∨ as = [g]) := by
  constructor
  · intro h
    refine ⟨List.length_pos_iff.mp h.length_le, ?_⟩
    rcases h.last with hstar | ⟨hlength, hlast⟩
    · exact .inl (Option.some.inj hstar)
    · obtain ⟨a, rfl⟩ := List.length_eq_one_iff.mp hlength.symm
      have heq : g = a := Option.some.inj hlast
      exact .inr (by rw [heq])
  · rintro ⟨hne, h⟩
    refine ⟨List.length_pos_iff.mpr hne, fun i hi => absurd hi (by simp), ?_⟩
    rcases h with rfl | rfl
    · exact .inl rfl
    · exact .inr ⟨rfl, rfl⟩

/-- A first segment that is not the last one is compared with the first segment of the action. -/
theorem cons_iff :
    Covers (g :: g' :: gs) (a :: as) ↔ (g = wildcard ∨ g = a) ∧ Covers (g' :: gs) as := by
  -- segments at the end are compared where the lists behind the first segments have any
  have hlast (hle : (g' :: gs).length ≤ as.length) : (a :: as).getLast? = as.getLast? := by
    cases as with
    | nil => simp at hle
    | cons b as => exact List.getLast?_cons_cons
  constructor
  · intro h
    have hle : (g' :: gs).length ≤ as.length := Nat.le_of_succ_le_succ h.length_le
    refine ⟨?_, hle, fun i hi => ?_, ?_⟩
    · simpa using h.inner 0 (by simp)
    · simpa using h.inner (i + 1) (by simpa using hi)
    · simpa [List.getLast?_cons_cons, hlast hle] using h.last
  · rintro ⟨hfirst, h⟩
    refine ⟨Nat.succ_le_succ h.length_le, fun i hi => ?_, ?_⟩
    · cases i with
      | zero => simpa using hfirst
      | succ i => simpa using h.inner i (by simpa using hi)
    · simpa [List.getLast?_cons_cons, hlast h.length_le] using h.last

theorem refl (gs : List (List Char)) : Covers gs gs :=
  ⟨le_rfl, fun _ _ => .inr rfl, .inr ⟨rfl, rfl⟩⟩

theorem trans (hpq : Covers ps qs) (hqa : Covers qs as) : Covers ps as where
  length_le := hpq.length_le.trans hqa.length_le
  inner i hi := by
    rcases hpq.inner i hi with hstar | heq
    · exact .inl hstar
    · rw [heq]
      exact hqa.inner i (hi.trans_le hpq.length_le)
  last := by
    rcases hpq.last with hstar | ⟨hlength, heq⟩
    · exact .inl hstar
    · rw [hlength, heq]
      exact hqa.last

end Covers

/-! ### Actions taken apart -/

/-- The segments of a permission match the pieces of a text that is taken apart no further. -/
def matchesUpTo (gs : List (List Char)) (s : List Char) : Bool :=
  let pieces := splitUpTo (gs.length - 1) s
  gs.length == pieces.length && (gs.zip pieces).all fun (g, a) => matchesSegment g a

theorem covers_eq_matchesUpTo (granted action : String) :
    covers granted action = matchesUpTo (segments granted) action.toList := rfl

theorem matchesSegment_iff {g a : List Char} :
    matchesSegment g a = true ↔ g = wildcard ∨ g = a := by
  rw [matchesSegment, Bool.or_eq_true, beq_iff_eq, beq_iff_eq]

theorem matchesUpTo_singleton (g s : List Char) : matchesUpTo [g] s = matchesSegment g s := by
  simp [matchesUpTo, splitUpTo]

/-- At a colon, the first segments are compared, and the others with what is left. -/
theorem matchesUpTo_cons_colon {first : List Char} (h : separator ∉ first) (g g' : List Char)
    (gs : List (List Char)) (rest : List Char) :
    matchesUpTo (g :: g' :: gs) (first ++ separator :: rest) =
      (matchesSegment g first && matchesUpTo (g' :: gs) rest) := by
  simp only [matchesUpTo, List.length_cons, Nat.add_sub_cancel, splitUpTo, cutAt_append h,
    List.zip_cons_cons, List.all_cons, Nat.add_right_cancel_iff, Bool.beq_eq_decide_eq]
  exact Bool.and_left_comm ..

/-- Without a colon there is but one piece. -/
theorem matchesUpTo_of_notMem {s : List Char} (h : separator ∉ s) (g g' : List Char)
    (gs : List (List Char)) : matchesUpTo (g :: g' :: gs) s = false := by
  simp [matchesUpTo, splitUpTo, cutAt_of_notMem h]

theorem matchesUpTo_iff {gs : List (List Char)} (hne : gs ≠ []) (hfree : ∀ g ∈ gs, separator ∉ g)
    (s : List Char) : matchesUpTo gs s = true ↔ Covers gs (splitAt separator s) := by
  induction gs generalizing s with
  | nil => exact absurd rfl hne
  | cons g gs ih =>
    cases gs with
    | nil =>
      rw [matchesUpTo_singleton, matchesSegment_iff, Covers.singleton_iff,
        and_iff_right (splitAt_ne_nil separator s), splitAt_eq_iff]
      -- the only piece of a text is the text, where it has no colon
      simp [hfree g List.mem_cons_self]
    | cons g' gs =>
      by_cases hs : separator ∈ s
      · obtain ⟨first, rest, rfl, hfirst⟩ := List.eq_append_cons_of_mem hs
        rw [matchesUpTo_cons_colon hfirst, splitAt_append hfirst, Covers.cons_iff,
          Bool.and_eq_true, matchesSegment_iff,
          ih (List.cons_ne_nil _ _) fun x hx => hfree x (List.mem_cons_of_mem _ hx)]
      · rw [matchesUpTo_of_notMem hs, splitAt_of_notMem hs]
        refine ⟨nofun, fun h => absurd h.length_le (by simp)⟩

/-- A permission covers an action if its segments do. -/
theorem covers_iff {granted action : String} :
    covers granted action = true ↔ Covers (segments granted) (segments action) := by
  rw [covers_eq_matchesUpTo]
  exact matchesUpTo_iff (splitAt_ne_nil _ _) (fun _ hg => notMem_of_mem_splitAt hg) action.toList

theorem covers_trans {p q action : String} (hpq : covers p q = true)
    (hq : covers q action = true) : covers p action = true :=
  covers_iff.mpr ((covers_iff.mp hpq).trans (covers_iff.mp hq))

/-! ### Grants -/

variable {p q action : String} {grant : Value} {grants : List Value}

/-- One of the grants permits the action, or those behind do. -/
theorem permits_cons_eq_true_iff :
    permits action (grant :: grants) = .ok true ↔
      ∃ p, granted grant = .ok p ∧ (covers p action = true ∨ permits action grants = .ok true) := by
  rw [permits]
  rcases granted grant with e | p
  · simp [bind, Except.bind]
  · simp only [bind, Except.bind, Except.ok.injEq, exists_eq_left']
    cases covers p action <;> simp [pure, Except.pure]

/-- What is permitted includes whatever a permitted permission covers. -/
theorem permits_of_covers (hgrants : permits q grants = .ok true)
    (hq : covers q action = true) : permits action grants = .ok true := by
  induction grants with
  | nil => cases hgrants
  | cons grant grants ih =>
    rw [permits_cons_eq_true_iff] at hgrants ⊢
    obtain ⟨p, hp, h⟩ := hgrants
    exact ⟨p, hp, h.imp (fun hpq => covers_trans hpq hq) ih⟩

/-- A grant in front of others that does not cover the action is passed over. -/
theorem permits_cons_text (q action : String) (grants : List Value) :
    permits action (.text q :: grants) =
      if covers q action then .ok true else permits action grants := rfl

/-- A grant that does not cover the action adds nothing, wherever it stands. -/
theorem permits_insert_of_not_covers (hq : ¬ covers q action = true) (before after : List Value) :
    permits action (before ++ .text q :: after) = permits action (before ++ after) := by
  induction before with
  | nil => rw [List.nil_append, permits_cons_text, if_neg hq, List.nil_append]
  | cons grant before ih => rw [List.cons_append, List.cons_append, permits, permits, ih]

/-- Grants that permit an action do so with another text among them. -/
theorem permits_insert_of_permits {before after : List Value}
    (h : permits action (before ++ after) = .ok true) (q : String) :
    permits action (before ++ .text q :: after) = .ok true := by
  induction before with
  | nil =>
    rw [List.nil_append, permits_cons_text]
    split
    · rfl
    · exact h
  | cons grant before ih =>
    rw [List.cons_append, permits_cons_eq_true_iff] at h ⊢
    obtain ⟨p, hp, h⟩ := h
    exact ⟨p, hp, h.imp_right ih⟩

/-- A permission that the grants permit adds nothing to them as a grant. -/
theorem permits_insert {before after : List Value}
    (hgrants : permits q (before ++ after) = .ok true) (action : String) :
    permits action (before ++ .text q :: after) = permits action (before ++ after) := by
  by_cases hq : covers q action = true
  · have hpermits := permits_of_covers hgrants hq
    rw [hpermits, permits_insert_of_permits hpermits]
  · exact permits_insert_of_not_covers hq before after

/-- What a permission covers is told by the texts between its colons and those of the action. It is
    a preorder, and a permission that the grants permit adds nothing to them. -/
theorem covers_preorder :
    (∀ s pieces, segments s = pieces ↔ pieces ≠ [] ∧ (∀ p ∈ pieces, separator ∉ p) ∧
      List.intercalate [separator] pieces = s.toList) ∧
    (∀ granted action, covers granted action = true ↔
      Covers (segments granted) (segments action)) ∧
    (∀ p, covers p p = true) ∧
    (∀ p q action, covers q action = true → covers p q = true → covers p action = true) ∧
    ∀ (q : String) (before after : List Value), permits q (before ++ after) = .ok true →
      ∀ action, permits action (before ++ .text q :: after) = permits action (before ++ after) :=
  ⟨fun _ _ => segments_eq_iff, fun _ _ => covers_iff, fun _ => covers_iff.mpr (.refl _),
    fun _ _ _ hq hpq => covers_trans hpq hq,
    fun _ _ _ hgrants action => permits_insert hgrants action⟩

/-- A grant of all that is done with users, given as a map. -/
def userGrant : Value := .map [(.text "value", .text "users:*")]

/-- The editing of users may be handed on by whoever may do everything with users. -/
theorem editing_handed_on :
    covers "users:edit:*" "users:edit:42" = true ∧ covers "users:*" "users:edit:*" = true ∧
      covers "users:*" "users:edit:42" = true ∧ permits "users:edit:*" [userGrant] = .ok true ∧
      permits "posts:edit" [userGrant, .text "users:edit:*"] = permits "posts:edit" [userGrant] :=
  have hedit : covers "users:edit:*" "users:edit:42" = true := by decide
  have husers : covers "users:*" "users:edit:*" = true := by decide
  have hgrants : permits "users:edit:*" [userGrant] = .ok true := by rfl
  ⟨hedit, husers, covers_preorder.2.2.2.1 _ _ _ hedit husers, hgrants,
    covers_preorder.2.2.2.2 _ [userGrant] [] hgrants _⟩

end Intake.Permission
