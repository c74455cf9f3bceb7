import Mathlib.Algebra.Group.Nat.Defs
import Intake.Proofs.Path
import Intake.Proofs.Rule.Words
import Intake.Proofs.Tree

/-!
# Positions and paths

Every position in a tree of maps, lists and tuples has paths that lead to it: its names and indices
with points or double colons between them, in any mixture (`resolve_written`). Reading such a path
gives the names and indices back (`segmentsOf_written`), because neither of the two separators can
come about where a name or an index meets the next one.

How a path is read does not depend on which separator is written (`ofString_pointed`), and what is
found by segments in a row is found by the last of them in what the first ones find (`find_append`).
-/

namespace Intake.Path

open Text Number

/-! ### Points for double colons -/

/-- The text with points for double colons. -/
def pointed (s : List Char) : List Char :=
  exchange "::".toList ['.'] s

variable {c : Char} {s t a b : List Char}

theorem pointed_colons (s : List Char) : pointed (':' :: ':' :: s) = '.' :: pointed s := rfl

/-- A character that does not begin double colons is left. -/
theorem pointed_cons (h : c = ':' → s.head? ≠ some ':') : pointed (c :: s) = c :: pointed s := by
  have hnot : ¬ [':', ':'] <+: c :: s := by
    intro hcolons
    obtain ⟨rfl, rest, rfl⟩ := List.cons_prefix_cons.mp hcolons
    exact h rfl rfl
  rw [pointed, exchange, exchangeFrom, if_neg (by rwa [List.isPrefixOf_iff_prefix])]
  rfl

/-- A text is empty, or it opens with two colons, or with any other character. -/
@[elab_as_elim]
theorem colonsCases {P : List Char → Prop} (nil : P []) (colons : ∀ s, P (':' :: ':' :: s))
    (char : ∀ c s, (c = ':' → s.head? ≠ some ':') → P (c :: s)) : ∀ s, P s
  | [] => nil
  | c :: s => by
    by_cases h : c = ':' ∧ s.head? = some ':'
    · obtain ⟨rfl, hs⟩ := h
      obtain ⟨rest, rfl⟩ := List.head?_eq_some_iff.mp hs
      exact colons rest
    · exact char c s fun hc hs => h ⟨hc, hs⟩

/-- Induction on texts by what they open with. -/
@[elab_as_elim]
theorem colonsInduction {P : List Char → Prop} (nil : P [])
    (colons : ∀ s, P s → P (':' :: ':' :: s))
    (char : ∀ c s, (c = ':' → s.head? ≠ some ':') → P s → P (c :: s)) (s : List Char) : P s := by
  induction hlength : s.length using Nat.strong_induction_on generalizing s with
  | _ n ih =>
    subst hlength
    cases s using colonsCases with
    | nil => exact nil
    | colons s => exact colons s (ih s.length (by simp only [List.length_cons]; omega) s rfl)
    | char c s hc => exact char c s hc (ih s.length (by simp) s rfl)

/-- A text without colons in front stays as it is. -/
theorem pointed_append_left (ha : ':' ∉ a) (s : List Char) : pointed (a ++ s) = a ++ pointed s := by
  induction a with
  | nil => rfl
  | cons c a ih =>
    rw [List.mem_cons, not_or] at ha
    rw [List.cons_append, pointed_cons fun hc => absurd hc.symm ha.1, ih ha.2, List.cons_append]

/-- A text without colons behind stays as it is. -/
theorem pointed_append_right (hb : ':' ∉ b) (s : List Char) :
    pointed (s ++ b) = pointed s ++ b := by
  induction s using colonsInduction with
  | nil =>
    have hself := pointed_append_left hb []
    rwa [List.append_nil, show pointed [] = [] from rfl, List.append_nil] at hself
  | colons s ih =>
    rw [List.cons_append, List.cons_append, pointed_colons, pointed_colons, ih, List.cons_append]
  | char c s hc ih =>
    have hcb : c = ':' → (s ++ b).head? ≠ some ':' := by
      intro hcolon hhead
      cases s with
      | nil => exact hb (List.mem_of_mem_head? hhead)
      | cons d s => exact hc hcolon hhead
    rw [List.cons_append, pointed_cons hcb, pointed_cons hc, ih, List.cons_append]

theorem pointed_eq_nil (h : pointed s = []) : s = [] := by
  cases s using colonsCases with
  | nil => rfl
  | colons s => cases h
  | char c s hc =>
    rw [pointed_cons hc] at h
    cases h

/-- What a text opens with is a point, or what it opened with before. -/
theorem head?_pointed (h : (pointed s).head? = some c) : c = '.' ∨ s.head? = some c := by
  cases s using colonsCases with
  | nil => cases h
  | colons s => exact .inl (Option.some.inj h).symm
  | char d s hd =>
    rw [pointed_cons hd] at h
    exact .inr h

theorem getLast?_cons_cases {d : Char} (h : (d :: s).getLast? = some c) :
    (s = [] ∧ c = d) ∨ s.getLast? = some c := by
  cases s with
  | nil => exact .inl ⟨rfl, (Option.some.inj h).symm⟩
  | cons e s => exact .inr (by rwa [List.getLast?_cons_cons] at h)

/-- What a text closes with is a point, or what it closed with before. -/
theorem getLast?_pointed (h : (pointed s).getLast? = some c) : c = '.' ∨ s.getLast? = some c := by
  have hcons {d : Char} {s : List Char} (h : s.getLast? = some c) : (d :: s).getLast? = some c := by
    rw [List.getLast?_cons, h, Option.getD_some]
  induction s using colonsInduction with
  | nil => cases h
  | colons s ih =>
    rcases getLast?_cons_cases h with ⟨-, rfl⟩ | h
    · exact .inl rfl
    · exact (ih h).imp_right fun hs => hcons (hcons hs)
  | char d s hd ih =>
    rw [pointed_cons hd] at h
    rcases getLast?_cons_cases h with ⟨hs, rfl⟩ | h
    · obtain rfl := pointed_eq_nil hs
      exact .inr rfl
    · exact (ih h).imp_right hcons

/-- No double colons are left. -/
theorem pointed_pointed (s : List Char) : pointed (pointed s) = pointed s := by
  induction s using colonsInduction with
  | nil => rfl
  | colons s ih => rw [pointed_colons, pointed_cons (fun hc => absurd hc (by decide)), ih]
  | char c s hc ih =>
    have hleft : c = ':' → (pointed s).head? ≠ some ':' := by
      intro hcolon hhead
      rcases head?_pointed hhead with hpoint | hs
      · cases hpoint
      · exact hc hcolon hs
    rw [pointed_cons hc, pointed_cons hleft, ih]

theorem trim_pointed (s : List Char) : trim (pointed s) = pointed (trim s) := by
  have hcolon : isBlank ':' = false := by decide
  have hpoint : isBlank '.' = false := by decide
  have hfree {a : List Char} (ha : allBlank a = true) : ':' ∉ a := fun hmem => by
    rw [List.all_eq_true.mp ha ':' hmem] at hcolon
    cases hcolon
  obtain ⟨a, b, ha, hb, hs⟩ := exists_trim s
  conv_lhs =>
    rw [hs, pointed_append_right (hfree hb), pointed_append_left (hfree ha), trim_pad ha hb]
  refine trim_eq_self (fun c hc => ?_) fun c hc => ?_
  · rcases head?_pointed hc with rfl | hc
    · exact hpoint
    · exact isBlank_of_head?_trim hc
  · rcases getLast?_pointed hc with rfl | hc
    · exact hpoint
    · exact isBlank_of_getLast?_trim hc

theorem segmentsOf_eq (s : List Char) :
    segmentsOf s =
      ((splitAt '.' (pointed (trim s))).filter (!·.isEmpty)).map String.ofList := rfl

/-- A path is read as it is with points for its double colons. -/
theorem ofString_pointed (p : String) :
    ofString (String.ofList (pointed p.toList)) = ofString p := by
  have hsegments : segmentsOf (pointed p.toList) = segmentsOf p.toList := by
    rw [segmentsOf_eq, segmentsOf_eq, trim_pointed, pointed_pointed]
  rw [ofString, ofString, String.toList_ofList, hsegments]

/-! ### Segments in a text -/

/-- What stands between two segments. -/
inductive Separator where
  | point
  | colons
  deriving DecidableEq

/-- A separator as it is written. -/
def Separator.text : Separator → List Char
  | point => ['.']
  | colons => "::".toList

/-- Segments are written in a text: one after the other, with a separator between each two. -/
inductive Written : List String → List Char → Prop
  | last (segment : String) : Written [segment] segment.toList
  | cons (segment : String) (separator : Separator) {rest : List String} {text : List Char} :
    Written rest text → Written (segment :: rest) (segment.toList ++ (separator.text ++ text))

/-- A segment as it can be told from its neighbours: it is not empty, and holds neither separators
    nor blanks. -/
structure IsSolid (segment : String) : Prop where
  nonempty : segment.toList ≠ []
  noPoint : '.' ∉ segment.toList
  noColon : ':' ∉ segment.toList
  noBlank : ∀ c ∈ segment.toList, isBlank c = false

section Written

variable {segments : List String} {text : List Char}

theorem Separator.pointed_append (separator : Separator) (s : List Char) :
    pointed (separator.text ++ s) = '.' :: pointed s := by
  cases separator with
  | point => exact pointed_cons fun hc => absurd hc (by decide)
  | colons => rfl

/-- With points for its double colons, the text is made of the segments with points between. -/
theorem Written.pointed_eq (h : Written segments text) (hsolid : ∀ x ∈ segments, IsSolid x) :
    pointed text = List.intercalate ['.'] (segments.map String.toList) := by
  induction h with
  | last segment =>
    rw [List.map_singleton, List.intercalate_singleton]
    exact pointed_append_right (hsolid segment List.mem_cons_self).noColon []
  | @cons segment separator rest text hrest ih =>
    have hne : ∃ next more, rest = next :: more := by
      cases hrest with
      | last next | cons next _ _ => exact ⟨next, _, rfl⟩
    obtain ⟨next, more, rfl⟩ := hne
    rw [pointed_append_left (hsolid segment List.mem_cons_self).noColon, separator.pointed_append,
      ih fun x hx => hsolid x (List.mem_cons_of_mem _ hx), List.map_cons, List.map_cons,
      List.map_cons, List.intercalate_cons_cons, List.append_assoc, List.singleton_append]

theorem Written.noBlank (h : Written segments text) (hsolid : ∀ x ∈ segments, IsSolid x) :
    ∀ c ∈ text, isBlank c = false := by
  have hseparator (separator : Separator) : ∀ c ∈ separator.text, isBlank c = false := by
    have hall : (separator.text.all fun c => !isBlank c) = true := by cases separator <;> decide
    simpa using hall
  induction h with
  | last segment => exact (hsolid segment List.mem_cons_self).noBlank
  | @cons segment separator rest text _ ih =>
    intro c hc
    rcases List.mem_append.mp hc with hc | hc
    · exact (hsolid segment List.mem_cons_self).noBlank c hc
    rcases List.mem_append.mp hc with hc | hc
    · exact hseparator separator c hc
    · exact ih (fun x hx => hsolid x (List.mem_cons_of_mem _ hx)) c hc

theorem Written.ne_nil (h : Written segments text) : segments ≠ [] := by
  cases h <;> exact List.cons_ne_nil _ _

/-- Reading a text gives the segments that are written in it. -/
theorem segmentsOf_written (h : Written segments text) (hsolid : ∀ x ∈ segments, IsSolid x) :
    segmentsOf text = segments := by
  have htrim : trim text = text :=
    trim_eq_self (fun c hc => h.noBlank hsolid c (List.mem_of_mem_head? hc))
      fun c hc => h.noBlank hsolid c (List.mem_of_mem_getLast? hc)
  have hsplit : splitAt '.' (pointed text) = segments.map String.toList := by
    rw [h.pointed_eq hsolid]
    refine splitAt_intercalate (by simpa using h.ne_nil) fun p hp => ?_
    obtain ⟨x, hx, rfl⟩ := List.mem_map.mp hp
    exact (hsolid x hx).noPoint
  have hfilter : (segments.map String.toList).filter (!·.isEmpty) = segments.map String.toList := by
    refine List.filter_eq_self.mpr fun p hp => ?_
    obtain ⟨x, hx, rfl⟩ := List.mem_map.mp hp
    simpa using (hsolid x hx).nonempty
  rw [segmentsOf_eq, htrim, hsplit, hfilter, List.map_map]
  exact List.map_id'' (fun x => String.ofList_toList) segments

end Written

/-! ### Names and indices -/

/-- A name that a path can hold: a Latin letter, then letters, digits and underscores. -/
structure Name where
  text : String
  head : ∃ c rest, text.toList = c :: rest ∧ isLatinLetter c = true
  tail : ∀ c ∈ text.toList, isNameTail c = true

/-- A step down a tree: to the value under a name, or to the item at an index, where a negative
    index counts from the end. -/
inductive Place where
  | name (x : Name)
  | index (n : Int)

/-- A step as it is written. -/
def Place.text : Place → String
  | name x => x.text
  | index n => toString n

theorem digitValue?_of_isDigit (h : c.isDigit = true) : digitValue? c = some (c.toNat - 48) := by
  have hrange : (decide (48 ≤ c.toNat) && decide (c.toNat < 48 + 10)) = true := by
    simp only [Char.isDigit, Bool.and_eq_true, decide_eq_true_eq, ge_iff_le,
      UInt32.le_iff_toNat_le] at h
    have hlow : 48 ≤ c.toNat := h.1
    have hhigh : c.toNat ≤ 57 := h.2
    simp [hlow, Nat.lt_succ_of_le hhigh]
  have hfind : zeros.find? (fun z => decide (z ≤ c.toNat) && decide (c.toNat < z + 10)) = some 48 :=
    List.find?_cons_of_pos hrange
  rw [digitValue?, hfind, Option.map_some]

theorem isNameTail_of_isDigit (h : c.isDigit = true) : isNameTail c = true := by
  have hlatin : isLatinDigit c = true := h
  rw [isNameTail, hlatin, Bool.or_true, Bool.true_or]

/-- The decimal notation of a natural number consists of digits. -/
theorem isDigit_of_mem_toDigits {n : Nat} (h : c ∈ Nat.toDigits 10 n) : c.isDigit = true :=
  Nat.isDigit_of_mem_toDigits (by decide) (by decide) h

/-- The digits of a natural number denote it. -/
theorem ofDigits_toDigits (n : Nat) : ofDigits 10 ((Nat.toDigits 10 n).map digitValue) = n := by
  have hfold : ∀ c ∈ Nat.toDigits 10 n, digitValue c = c.toNat - '0'.toNat := fun c hc => by
    rw [digitValue, digitValue?_of_isDigit (isDigit_of_mem_toDigits hc)]
    rfl
  have hread := Nat.ofDigitChars_ten_toDigits (n := n)
  rw [Nat.ofDigitChars_eq_foldl] at hread
  rw [ofDigits, List.map_congr_left hfold, List.foldl_map]
  simpa only [Nat.mul_comm] using hread

/-- A natural number that is not too long is written as a numeral. -/
theorem isNumeral_toDigits {n : Nat} (h : n < 10 ^ digitLimit) :
    Nat.toDigits 10 n ≠ [] ∧ (Nat.toDigits 10 n).all isDecimalDigit = true ∧
      (Nat.toDigits 10 n).length ≤ digitLimit := by
  refine ⟨Nat.toDigits_ne_nil, List.all_eq_true.mpr fun c hc => ?_,
    (Nat.length_toDigits_le_iff (by decide) (by decide)).mpr h⟩
  rw [isDecimalDigit, digitValue?_of_isDigit (isDigit_of_mem_toDigits hc)]
  rfl

theorem toList_toString (n : Int) :
    (toString n).toList =
      if 0 ≤ n then Nat.toDigits 10 n.toNat else '-' :: Nat.toDigits 10 (-n).toNat := by
  rw [Int.toString_eq_repr, Int.repr_eq_if]
  split
  · rw [Nat.repr_eq_ofList_toDigits, String.toList_ofList]
  · rw [Nat.repr_eq_ofList_toDigits, String.toList_append, String.toList_ofList,
      String.toList_ofList]
    rfl

/-- An integer that is not too long is written as a numeral. -/
theorem isNumeral_toString {n : Int} (h : Number.isTooLong n = false) :
    IsNumeral (toString n).toList n := by
  rw [Number.isTooLong, decide_eq_false_iff_not, Nat.not_le, Nat.pow_eq] at h
  rw [toList_toString]
  split
  · next hn =>
    obtain ⟨hne, hdigits, hle⟩ := isNumeral_toDigits (n := n.toNat) (by omega)
    have hnumeral := IsNumeral.plain hne hdigits hle
    rwa [ofDigits_toDigits, Int.toNat_of_nonneg hn] at hnumeral
  · next hn =>
    obtain ⟨hne, hdigits, hle⟩ := isNumeral_toDigits (n := (-n).toNat) (by omega)
    have hnumeral := IsNumeral.negative hne hdigits hle
    rwa [ofDigits_toDigits, Int.toNat_of_nonneg (by omega), Int.neg_neg] at hnumeral

theorem isSolid_of_chars {x : String} (hne : x.toList ≠ [])
    (h : ∀ c ∈ x.toList, c = '-' ∨ isNameTail c = true) : IsSolid x := by
  have hchars : ∀ c ∈ x.toList, isBlank c = false ∧ c ≠ '.' ∧ c ≠ ':' := fun c hc => by
    rcases h c hc with rfl | htail
    · decide
    · obtain ⟨-, hblank, hpoint, hcolon, -⟩ := Rule.Form.of_isNameTail htail
      exact ⟨hblank, hpoint, hcolon⟩
  exact ⟨hne, fun hmem => (hchars _ hmem).2.1 rfl, fun hmem => (hchars _ hmem).2.2 rfl,
    fun c hc => (hchars c hc).1⟩

theorem Place.isSolid (p : Place) : IsSolid p.text := by
  cases p with
  | name x =>
    obtain ⟨c, rest, hx, -⟩ := x.head
    refine isSolid_of_chars ?_ fun c hc => .inr (x.tail c hc)
    rw [Place.text, hx]
    exact List.cons_ne_nil _ _
  | index n =>
    rw [Place.text]
    refine isSolid_of_chars ?_ fun c hc => ?_
    · rw [toList_toString]
      split
      · exact Nat.toDigits_ne_nil
      · exact List.cons_ne_nil _ _
    · rw [toList_toString] at hc
      split at hc
      · exact .inr (isNameTail_of_isDigit (isDigit_of_mem_toDigits hc))
      · refine (List.mem_cons.mp hc).imp_right fun hc => ?_
        exact isNameTail_of_isDigit (isDigit_of_mem_toDigits hc)

/-! ### Positions in trees -/

/-- A tree of maps with names for keys, lists and tuples. A list is not so long that its indices
    could not be written. -/
inductive IsTree : Value → Prop
  | map {t : Tree} : t.names.Nodup → (∀ e ∈ t, IsTree e.2) → IsTree t.toValue
  | list {items : List Value} : Number.isTooLong items.length = false → (∀ v ∈ items, IsTree v) →
    IsTree (.list items)
  | tuple {items : List Value} : Number.isTooLong items.length = false → (∀ v ∈ items, IsTree v) →
    IsTree (.tuple items)
  | leaf {v : Value} : v.isMap = false → ¬ HasPlaces v → IsTree v

/-- The item at an index, which counts from the beginning or, if it is negative, from the end. -/
def ItemAt (items : List Value) (n : Int) (v : Value) : Prop :=
  ∃ i : Nat, items[i]? = some v ∧ (n = i ∨ n = i - items.length)

/-- The value at a position: where the steps lead, one after the other. -/
inductive Stands : List Place → Value → Value → Prop
  | here (v : Value) : Stands [] v v
  | name {x : Name} {t : Tree} {rest : List Place} {u v : Value} : (x.text, u) ∈ t →
    Stands rest u v → Stands (.name x :: rest) t.toValue v
  | item {n : Int} {items : List Value} {rest : List Place} {u v : Value} : ItemAt items n u →
    Stands rest u v → Stands (.index n :: rest) (.list items) v
  | member {n : Int} {items : List Value} {rest : List Place} {u v : Value} : ItemAt items n u →
    Stands rest u v → Stands (.index n :: rest) (.tuple items) v

variable {tree v : Value} {position : List Place}

theorem IsTree.of_toValue {t : Tree} (h : IsTree t.toValue) :
    t.names.Nodup ∧ ∀ e ∈ t, IsTree e.2 := by
  have hinjective : Function.Injective fun e : String × Value => (Value.text e.1, e.2) := by
    rintro ⟨x, u⟩ ⟨y, w⟩ heq
    cases heq
    rfl
  generalize hv : t.toValue = v at h
  cases h with
  | map hnodup hbelow =>
    obtain rfl := hinjective.list_map (Value.map.inj hv)
    exact ⟨hnodup, hbelow⟩
  | list | tuple => cases hv
  | leaf hmap =>
    rw [← hv] at hmap
    cases hmap

theorem isTooLong_of_le {n : Int} {length : Nat} (h : Number.isTooLong length = false)
    (hn : n.natAbs ≤ length) : Number.isTooLong n = false := by
  rw [Number.isTooLong, decide_eq_false_iff_not, Nat.not_le] at h ⊢
  exact hn.trans_lt h

/-- An index as it is written leads to the item at it. -/
theorem leadsToItem_of_itemAt {items : List Value} {n : Int}
    (hlong : Number.isTooLong items.length = false) (h : ItemAt items n v) :
    LeadsToItem (toString n) items v := by
  obtain ⟨i, hitem, hplace⟩ := h
  have hlt : i < items.length := (List.getElem?_eq_some_iff.mp hitem).1
  exact ⟨n, i, isNumeral_toString (isTooLong_of_le hlong (by omega)), hplace, hitem⟩

/-- The names and indices of a position lead to the value at it. -/
theorem reaches_of_stands (htree : IsTree tree) (h : Stands position tree v) :
    Reaches (position.map Place.text) tree v := by
  induction h with
  | here v => exact .here v
  | @name x t rest u v hmem _ ih =>
    obtain ⟨hnodup, hbelow⟩ := htree.of_toValue
    refine .step (.key ?_) (ih (hbelow _ hmem))
    rw [Value.findText?_tree]
    exact Tree.lookup_of_mem hnodup hmem
  | item hitem _ ih =>
    cases htree with
    | list hlong hbelow =>
      obtain ⟨i, hi, -⟩ := id hitem
      exact .step (.item (leadsToItem_of_itemAt hlong hitem))
        (ih (hbelow _ (List.mem_of_getElem? hi)))
    | leaf _ hplaces => exact absurd (.list _) hplaces
  | member hitem _ ih =>
    cases htree with
    | tuple hlong hbelow =>
      obtain ⟨i, hi, -⟩ := id hitem
      exact .step (.member (leadsToItem_of_itemAt hlong hitem))
        (ih (hbelow _ (List.mem_of_getElem? hi)))
    | leaf _ hplaces => exact absurd (.tuple _) hplaces

/-! ### Paths of positions -/

theorem find_of_reaches {segments : List String} {start : Value} (h : Reaches segments start v) :
    find segments start = .ok ((some v).filter (!·.isNull)) := by
  rw [find, walk_eq_some_iff.mpr h]

theorem ofString_anchored {segments : List String} {text : List Char}
    (h : segmentsOf text = anchor :: segments) :
    ofString (String.ofList text) = ⟨true, segments⟩ := by
  rw [ofString, String.toList_ofList, h]
  rfl

theorem ofString_relative {segments : List String} {first : String} {text : List Char}
    (h : segmentsOf text = first :: segments) (hfirst : first ≠ anchor) :
    ofString (String.ofList text) = ⟨false, first :: segments⟩ := by
  rw [ofString, String.toList_ofList, h]
  exact if_neg (by simpa using hfirst)

/-- A path that writes a position of a tree is resolved to the value at it, unless that is null: in
    the tree of the node, and, with the anchor in front, in the tree of the root. -/
theorem resolve_written {first : Name} {rest : List Place} {text : List Char} (htree : IsTree tree)
    (hv : Stands (.name first :: rest) tree v) (hfirst : first.text ≠ anchor)
    (htext : Written ((Place.name first :: rest).map Place.text) text) (separator : Separator)
    (other : Value) :
    (ofString (String.ofList text)).resolve tree other = .ok ((some v).filter (!·.isNull)) ∧
      (ofString (String.ofList (anchor.toList ++ (separator.text ++ text)))).resolve other tree =
        .ok ((some v).filter (!·.isNull)) := by
  have hsolid : ∀ x ∈ (Place.name first :: rest).map Place.text, IsSolid x := fun x hx => by
    obtain ⟨p, -, rfl⟩ := List.mem_map.mp hx
    exact p.isSolid
  have hanchor : IsSolid anchor :=
    isSolid_of_chars (by decide) fun c hc => .inr (List.all_eq_true.mp (by decide) c hc)
  have hfind := find_of_reaches (reaches_of_stands htree hv)
  constructor
  · rw [ofString_relative (segmentsOf_written htext hsolid) hfirst]
    exact hfind
  · have hall : ∀ x ∈ anchor :: (Place.name first :: rest).map Place.text, IsSolid x :=
      List.forall_mem_cons.mpr ⟨hanchor, hsolid⟩
    rw [ofString_anchored (segmentsOf_written (.cons anchor separator htext) hall)]
    exact hfind

/-! ### Segments in a row -/

theorem walk_append (before behind : List String) (v : Value) :
    walk (before ++ behind) v =
      (walk before v).bind fun found => found.elim (.ok none) (walk behind) := by
  induction before generalizing v with
  | nil => rfl
  | cons segment before ih =>
    rw [List.cons_append, walk, walk]
    rcases step segment v with e | _ | w
    · rfl
    · rfl
    · exact ih w

/-- What segments in a row find is what the last of them find in what the first ones find. -/
theorem find_append (before behind : List String) (v : Value) :
    find (before ++ behind) v =
      (find before v).bind fun found => found.elim (.ok none) (find behind) := by
  rw [find, find, walk_append]
  rcases walk before v with e | _ | w
  · rfl
  · rfl
  · -- null in between is not present, and nothing is behind it
    cases hw : w.isNull with
    | true =>
      obtain rfl : w = .null := by
        cases w with
        | null => rfl
        | _ => cases hw
      exact find_null behind
    | false =>
      have hfilter : (some w).filter (!·.isNull) = some w := by simp [Option.filter_some, hw]
      simp only [hfilter]
      rfl

/-- Every position of a tree is addressable by its paths, whichever separators they are written
    with. How a path is read does not depend on these at all, and what segments find is found step
    by step. -/
theorem positions_addressable :
    (∀ (tree v : Value) (first : Name) (rest : List Place) (text : List Char), IsTree tree →
      Stands (.name first :: rest) tree v → first.text ≠ anchor →
      Written ((Place.name first :: rest).map Place.text) text →
      ∀ (separator : Separator) (other : Value),
        (ofString (String.ofList text)).resolve tree other = .ok ((some v).filter (!·.isNull)) ∧
        (ofString (String.ofList (anchor.toList ++ (separator.text ++ text)))).resolve other tree =
          .ok ((some v).filter (!·.isNull))) ∧
    (∀ p : String, ofString (String.ofList (exchange "::".toList ['.'] p.toList)) = ofString p) ∧
    ∀ (before behind : List String) (v : Value),
      find (before ++ behind) v =
        (find before v).bind fun found => found.elim (.ok none) (find behind) :=
  ⟨fun _ _ _ _ _ htree hv hfirst htext => resolve_written htree hv hfirst htext,
    ofString_pointed, find_append⟩

namespace Profile

/-- The name of the user in a profile. -/
def user : Name :=
  ⟨"user", ⟨'u', "ser".toList, by decide, by decide⟩, List.all_eq_true.mp (by decide)⟩

/-- The name of the tags of a user. -/
def tags : Name :=
  ⟨"tags", ⟨'t', "ags".toList, by decide, by decide⟩, List.all_eq_true.mp (by decide)⟩

/-- A user with tags: a text, null and a pair. -/
def tagged : Tree :=
  [("tags", .list [.text "new", .null, .tuple [.text "plan", .text "free"]])]

/-- The tree of a profile. -/
def profile : Tree :=
  [("user", tagged.toValue)]

/-- The position, in a user, of the second part of the last tag. -/
def lastTag : List Place :=
  [.name tags, .index (-1), .index 1]

theorem profile_isTree : IsTree profile.toValue := by
  have hleaf {v : Value} (hmap : v.isMap = false)
      (h : ∀ items, v ≠ .list items ∧ v ≠ .tuple items) :
      IsTree v := by
    refine .leaf hmap ?_
    rintro (items | items)
    · exact (h items).1 rfl
    · exact (h items).2 rfl
  have htext (s : String) : IsTree (.text s) := hleaf rfl fun _ => ⟨nofun, nofun⟩
  have hnull : IsTree .null := hleaf rfl fun _ => ⟨nofun, nofun⟩
  have hpair : IsTree (.tuple [.text "plan", .text "free"]) :=
    .tuple (by decide +kernel) (by simp [htext])
  have hitems : IsTree (.list [.text "new", .null, .tuple [.text "plan", .text "free"]]) :=
    .list (by decide +kernel) (by simp [htext, hnull, hpair])
  have htagged : IsTree tagged.toValue := .map (by decide) (by simp [tagged, hitems])
  exact .map (by decide) (by simp [profile, htagged])

/-- A path that mixes separators finds the second part of the last tag, also from the root. -/
theorem lastTag_found :
    IsTree profile.toValue ∧ Stands (.name user :: lastTag) profile.toValue (.text "free") ∧
      user.text ≠ anchor ∧
      Written ((Place.name user :: lastTag).map Place.text) "user::tags.-1::1".toList ∧
      (ofString "user::tags.-1::1").resolve profile.toValue .null = .ok (some (.text "free")) ∧
      (ofString "root.user::tags.-1::1").resolve .null profile.toValue =
        .ok (some (.text "free")) := by
  have hstands : Stands (.name user :: lastTag) profile.toValue (.text "free") :=
    .name List.mem_cons_self <| .name List.mem_cons_self <|
      .item ⟨2, rfl, .inr rfl⟩ <| .member ⟨1, rfl, .inl rfl⟩ <| .here _
  have hanchor : user.text ≠ anchor := by decide
  have hwritten : Written ((Place.name user :: lastTag).map Place.text) "user::tags.-1::1".toList :=
    .cons "user" .colons <| .cons "tags" .point <| .cons "-1" .colons <| .last "1"
  have hfound := positions_addressable.1 _ _ user lastTag _ profile_isTree hstands hanchor hwritten
    .point .null
  exact ⟨profile_isTree, hstands, hanchor, hwritten, hfound.1, hfound.2⟩

end Profile

end Intake.Path
