import Intake.Proofs.Rule.Split
import Intake.Proofs.Value.Equality
import Intake.Rule.Literal

/-!
# Values of literals

A literal denotes a well formed value (`wellFormed_of_read`): a key that is given again only changes
the value of its entry (`mem_insert`, `pairwise_insert`), and an item that a set has already is left
out (`pairwise_concat`). So no two keys of a map are equal, and no two items of a set.

This is proved of the trees of literals, along the recursion that finds their values
(`wellFormed_of_value`), so that it does not matter how a text comes to its tree. The invariants of
the recursion are those of the entries and items that were found so far, which are well formed
themselves before the next one is added.
-/

namespace Intake.Value

/-! ### Collections that grow -/

variable {key value : Value} {es : List (Value × Value)}

/-- An entry after an insertion has the new key or one of the old, and the new value or one of the
    old. -/
theorem mem_insert {f : Value × Value} (h : f ∈ insert key value es) :
    (f.1 = key ∨ ∃ e ∈ es, f.1 = e.1) ∧ (f.2 = value ∨ ∃ e ∈ es, f.2 = e.2) := by
  induction es with
  | nil =>
    rw [insert, List.mem_singleton] at h
    exact ⟨.inl (h ▸ rfl), .inl (h ▸ rfl)⟩
  | cons e es ih =>
    rw [insert] at h
    split at h
    · rcases List.mem_cons.mp h with rfl | h
      · exact ⟨.inr ⟨e, List.mem_cons_self, rfl⟩, .inl rfl⟩
      · exact ⟨.inr ⟨f, List.mem_cons_of_mem e h, rfl⟩, .inr ⟨f, List.mem_cons_of_mem e h, rfl⟩⟩
    · rcases List.mem_cons.mp h with rfl | h
      · exact ⟨.inr ⟨f, List.mem_cons_self, rfl⟩, .inr ⟨f, List.mem_cons_self, rfl⟩⟩
      · obtain ⟨hkey, hvalue⟩ := ih h
        exact ⟨hkey.imp_right fun ⟨e', he', heq⟩ => ⟨e', List.mem_cons_of_mem e he', heq⟩,
          hvalue.imp_right fun ⟨e', he', heq⟩ => ⟨e', List.mem_cons_of_mem e he', heq⟩⟩

/-- An insertion leaves keys unequal. -/
theorem pairwise_insert (h : es.Pairwise fun e f => e.1.equals f.1 = false) :
    (insert key value es).Pairwise fun e f => e.1.equals f.1 = false := by
  induction es with
  | nil => exact List.pairwise_singleton _ _
  | cons e es ih =>
    obtain ⟨hhead, htail⟩ := List.pairwise_cons.mp h
    rw [insert]
    split
    · exact List.pairwise_cons.mpr ⟨hhead, htail⟩
    · next hne =>
      refine List.pairwise_cons.mpr ⟨fun f hf => ?_, ih htail⟩
      rcases (mem_insert hf).1 with hkey | ⟨e', he', hkey⟩
      · rw [hkey]
        exact Bool.eq_false_iff.mpr hne
      · rw [hkey]
        exact hhead e' he'

/-- An item that equals none of the items is added behind them. -/
theorem pairwise_concat {v : Value} {vs : List Value} (hv : v.isIn vs = false)
    (h : vs.Pairwise fun v w => v.equals w = false) :
    (vs ++ [v]).Pairwise fun v w => v.equals w = false := by
  refine List.pairwise_append.mpr ⟨h, List.pairwise_singleton _ _, fun w hw x hx => ?_⟩
  rw [List.mem_singleton.mp hx]
  simpa using List.any_eq_false.mp hv w hw

end Intake.Value

namespace Intake.Rule.Literal

/-! ### What a literal denotes -/

theorem Constant.wellFormed_value (c : Constant) : c.value.WellFormed := by
  cases c <;> exact .scalar rfl nofun

mutual
/-- The value of a literal is well formed, by recursion along the literal. -/
theorem wellFormed_of_value {e : Expr} {v : Value} (h : e.value = .ok v) : v.WellFormed := by
  match e with
  | .constant c =>
    cases h
    exact c.wellFormed_value
  | .signed negative e =>
    rw [Expr.value] at h
    split at h
    · next c _ =>
      cases h
      exact c.wellFormed_value
    · cases h
  | .sum negative left right =>
    rw [Expr.value] at h
    obtain ⟨c, -, rfl⟩ := map_eq_ok.mp h
    exact c.wellFormed_value
  | .list es =>
    rw [Expr.value] at h
    obtain ⟨vs, hvs, h⟩ := bind_eq_ok.mp h
    cases h
    exact .list (wellFormed_of_values hvs)
  | .tuple es =>
    rw [Expr.value] at h
    obtain ⟨vs, hvs, h⟩ := bind_eq_ok.mp h
    cases h
    exact .tuple (wellFormed_of_values hvs)
  | .set es =>
    rw [Expr.value] at h
    obtain ⟨vs, hvs, h⟩ := bind_eq_ok.mp h
    cases h
    exact wellFormed_of_distinct (.set (by simp) .nil) hvs
  | .map es =>
    rw [Expr.value] at h
    obtain ⟨vs, hvs, h⟩ := bind_eq_ok.mp h
    cases h
    exact wellFormed_of_entryValues (.map (by simp) (by simp) .nil) hvs
  | .setName => cases h
  | .unknown => cases h

theorem wellFormed_of_values {es : List Expr} {vs : List Value} (h : values es = .ok vs) :
    ∀ v ∈ vs, v.WellFormed := by
  match es with
  | [] =>
    cases h
    simp
  | e :: es =>
    rw [values] at h
    obtain ⟨v, hv, h⟩ := bind_eq_ok.mp h
    obtain ⟨rest, hrest, h⟩ := bind_eq_ok.mp h
    cases h
    exact List.forall_mem_cons.mpr ⟨wellFormed_of_value hv, wellFormed_of_values hrest⟩

/-- A set takes up an item only where it equals none of the items found before. -/
theorem wellFormed_of_distinct {es : List Expr} {found vs : List Value}
    (hfound : (Value.set false found).WellFormed) (h : distinct es found = .ok vs) :
    (Value.set false vs).WellFormed := by
  match es with
  | [] =>
    cases h
    exact hfound
  | e :: es =>
    rw [distinct] at h
    obtain ⟨v, hv, h⟩ := bind_eq_ok.mp h
    obtain ⟨_, -, h⟩ := bind_eq_ok.mp h
    refine wellFormed_of_distinct ?_ h
    cases hisIn : v.isIn found with
    | true => exact hfound
    | false =>
      cases hfound with
      | scalar hscalar => cases hscalar
      | set hitems hdistinct =>
        refine .set (fun w hw => ?_) (Value.pairwise_concat hisIn hdistinct)
        rcases List.mem_append.mp hw with hw | hw
        · exact hitems w hw
        · exact List.mem_singleton.mp hw ▸ wellFormed_of_value hv

/-- A map takes up a key only where it equals none of the keys found before. -/
theorem wellFormed_of_entryValues {es : List (Expr × Expr)} {found vs : List (Value × Value)}
    (hfound : (Value.map found).WellFormed) (h : entryValues es found = .ok vs) :
    (Value.map vs).WellFormed := by
  match es with
  | [] =>
    cases h
    exact hfound
  | (k, e) :: es =>
    rw [entryValues] at h
    obtain ⟨key, hkey, h⟩ := bind_eq_ok.mp h
    obtain ⟨v, hv, h⟩ := bind_eq_ok.mp h
    obtain ⟨_, -, h⟩ := bind_eq_ok.mp h
    refine wellFormed_of_entryValues ?_ h
    cases hfound with
    | scalar hscalar => cases hscalar
    | map hkeys hvalues hdistinct =>
      refine .map (fun f hf => ?_) (fun f hf => ?_) (Value.pairwise_insert hdistinct)
      · rcases (Value.mem_insert hf).1 with hf | ⟨e', he', hf⟩
        · exact hf ▸ wellFormed_of_value hkey
        · exact hf ▸ hkeys e' he'
      · rcases (Value.mem_insert hf).2 with hf | ⟨e', he', hf⟩
        · exact hf ▸ wellFormed_of_value hv
        · exact hf ▸ hvalues e' he'
end

/-- The value that a text denotes is well formed. -/
theorem wellFormed_of_read {s : List Char} {v : Value} (h : read s = .ok v) : v.WellFormed := by
  rw [read] at h
  split at h
  · cases h
  · dsimp only at h
    split at h
    · cases h
    · split at h
      · exact wellFormed_of_value h
      · cases h

end Intake.Rule.Literal
