import Intake.Proofs.Value.Alike

/-!
# Equality is an equivalence

A map holds each key once, a set each item and a record each name, and a clock shows a time of the
day; a value of which this holds at every depth is well formed (`Value.WellFormed`). Equality of well
formed values is transitive (`WellFormed.equals_trans`) and symmetric (`WellFormed.equals_comm`).

The parts of a collection are looked for in the other collection only. That they are also found the
other way takes counting: the parts of the first have partners of their own in the second, and the
second has no more parts than the first (`exists_partner`).
-/

namespace Intake

/-- Where each item has a partner, no two of them the same one, and there are as many partners as
    items, each of these is the partner of an item. -/
theorem exists_partner {α β : Type} {R : α → β → Prop} {as : List α} {bs : List β}
    (hlength : as.length = bs.length) (h : ∀ a ∈ as, ∃ b ∈ bs, R a b)
    (hown : as.Pairwise fun a a' => ∀ b, R a b → ¬ R a' b) : ∀ b ∈ bs, ∃ a ∈ as, R a b := by
  induction as generalizing bs with
  | nil =>
    rw [List.length_nil, eq_comm, List.length_eq_zero_iff] at hlength
    simp [hlength]
  | cons a as ih =>
    rw [List.pairwise_cons] at hown
    obtain ⟨b, hb, hab⟩ := h a List.mem_cons_self
    obtain ⟨before, behind, rfl⟩ := List.append_of_mem hb
    -- the other items have their partners among the other parts
    have hothers : ∀ a' ∈ as, ∃ b' ∈ before ++ behind, R a' b' := by
      intro a' ha'
      obtain ⟨b', hb', hab'⟩ := h a' (List.mem_cons_of_mem a ha')
      refine ⟨b', ?_, hab'⟩
      rw [List.mem_append, List.mem_cons] at hb'
      rw [List.mem_append]
      rcases hb' with hb' | rfl | hb'
      · exact .inl hb'
      · exact absurd hab' (hown.1 a' ha' _ hab)
      · exact .inr hb'
    have hlength' : as.length = (before ++ behind).length := by
      simp only [List.length_cons, List.length_append] at hlength ⊢
      omega
    have hrest := ih hlength' hothers hown.2
    intro b' hb'
    rw [List.mem_append, List.mem_cons] at hb'
    rcases hb' with hb' | rfl | hb'
    · obtain ⟨a', ha', hab'⟩ := hrest b' (List.mem_append_left _ hb')
      exact ⟨a', List.mem_cons_of_mem a ha', hab'⟩
    · exact ⟨a, List.mem_cons_self, hab⟩
    · obtain ⟨a', ha', hab'⟩ := hrest b' (List.mem_append_right _ hb')
      exact ⟨a', List.mem_cons_of_mem a ha', hab'⟩

namespace Number.Binary64

theorem one_pos : 0 < one := by
  decide +kernel

/-- The units of an integer. -/
def unitsOf (n : Int) : Int :=
  n * one

/-- Integers are equal when they have as many units. -/
@[simp, grind =]
theorem unitsOf_inj {m n : Int} : unitsOf m = unitsOf n ↔ m = n := by
  have hone : (one : Int) ≠ 0 := Int.natCast_ne_zero.mpr (Nat.ne_of_gt one_pos)
  exact Int.mul_eq_mul_right_iff hone

/-- What a number amounts to: an infinity by its sign, or the units of a finite number. -/
def amount? : Binary64 → Option (Bool ⊕ Int)
  | nan => none
  | infinite negative => some (.inl negative)
  | finite negative units => some (.inr (signedUnits negative units))

@[grind =]
theorem equals_iff {x y : Binary64} :
    x.equals y = true ↔ x.amount?.isSome = true ∧ x.amount? = y.amount? := by
  cases x <;> cases y <;> simp [equals, amount?]

@[grind =]
theorem equalsInt_iff {x : Binary64} {n : Int} :
    x.equalsInt n = true ↔ x.amount? = some (.inr (unitsOf n)) := by
  cases x with
  | finite negative units =>
    have hunits : (finite negative units).equalsInt n = (signedUnits negative units == unitsOf n) :=
      rfl
    rw [hunits, beq_iff_eq, amount?, Option.some.injEq, Sum.inr.injEq]
  | infinite negative => simp [equalsInt, amount?]
  | nan => simp [equalsInt, amount?]

@[grind =]
theorem isZero_iff {x : Binary64} : x.isZero = true ↔ x.amount? = some (.inr 0) := by
  cases x with
  | finite negative units => cases negative <;> simp [isZero, amount?, signedUnits]
  | _ => simp [isZero, amount?]

end Number.Binary64

namespace Calendar

/-- A valid clock is told by its second of the day and its microsecond. -/
theorem Clock.eq_of_seconds {c d : Clock} (hc : c.isValid = true) (hd : d.isValid = true)
    (hseconds : c.seconds = d.seconds) (hmicro : c.micro = d.micro) : c = d := by
  obtain ⟨hour, minute, second, micro⟩ := c
  obtain ⟨hour', minute', second', micro'⟩ := d
  simp only [isValid, seconds, Bool.and_eq_true, decide_eq_true_eq] at hc hd hseconds hmicro
  simp only [Clock.mk.injEq]
  omega

theorem Time.equals_symm {s t : Time} (h : s.equals t = true) : t.equals s = true := by
  obtain ⟨c, x⟩ := s
  obtain ⟨d, y⟩ := t
  cases x <;> cases y <;> simp only [equals, Bool.false_eq_true] at h ⊢
  · rw [eq_of_beq h]
    exact beq_self_eq_true d
  · split at h
    · next hxy =>
      rw [if_pos hxy.symm, eq_of_beq h]
      exact beq_self_eq_true d
    · next hxy =>
      rw [if_neg (Ne.symm hxy), Bool.and_eq_true, beq_iff_eq, beq_iff_eq]
      rw [Bool.and_eq_true, beq_iff_eq, beq_iff_eq] at h
      exact ⟨h.1.symm, h.2.symm⟩

/-- Equal times show the same second of the universal day and the same microsecond, or lack an
    offset both. -/
theorem Time.equals_trans {s t u : Time} (hs : s.clock.isValid = true)
    (hu : u.clock.isValid = true) (h : s.equals t = true) (h' : t.equals u = true) :
    s.equals u = true := by
  obtain ⟨c, x⟩ := s
  obtain ⟨d, y⟩ := t
  obtain ⟨e, z⟩ := u
  cases x <;> cases y <;> cases z <;> simp only [equals, Bool.false_eq_true] at h h' ⊢
  · rw [eq_of_beq h]
    exact h'
  · next x y z =>
    by_cases hxy : x = y
    · rw [if_pos hxy, beq_iff_eq] at h
      rw [hxy, h]
      exact h'
    by_cases hyz : y = z
    · rw [if_pos hyz, beq_iff_eq] at h'
      rw [← hyz, ← h']
      rwa [if_neg hxy] at h ⊢
    rw [if_neg hxy, Bool.and_eq_true, beq_iff_eq, beq_iff_eq] at h
    rw [if_neg hyz, Bool.and_eq_true, beq_iff_eq, beq_iff_eq] at h'
    by_cases hxz : x = z
    · -- Away from the offset in between, the clocks themselves agree.
      rw [if_pos hxz, beq_iff_eq]
      refine Clock.eq_of_seconds hs hu ?_ (h.2.trans h'.2)
      have := h.1.trans h'.1
      rw [hxz] at this
      omega
    · rw [if_neg hxz, Bool.and_eq_true, beq_iff_eq, beq_iff_eq]
      exact ⟨h.1.trans h'.1, h.2.trans h'.2⟩

theorem Moment.equals_symm {m n : Moment} (h : m.equals n = true) : n.equals m = true := by
  obtain ⟨date, clock, x⟩ := m
  obtain ⟨date', clock', y⟩ := n
  cases x <;> cases y <;> simp_all [equals]

theorem Moment.equals_trans {m n p : Moment} (h : m.equals n = true) (h' : n.equals p = true) :
    m.equals p = true := by
  obtain ⟨date, clock, x⟩ := m
  obtain ⟨date', clock', y⟩ := n
  obtain ⟨date'', clock'', z⟩ := p
  cases x <;> cases y <;> cases z <;> simp_all [equals]

end Calendar

namespace Value

/-! ### Scalars -/

/-- What the real and the imaginary part of a number of some type amount to. -/
def amounts : Value → Option (Bool ⊕ Int) × Option (Bool ⊕ Int)
  | bool b => (some (.inr (Number.Binary64.unitsOf (ofBool b))), some (.inr 0))
  | int n => (some (.inr (Number.Binary64.unitsOf n)), some (.inr 0))
  | float x => (x.amount?, some (.inr 0))
  | complex x y => (x.amount?, y.amount?)
  | _ => (none, none)

/-- A value is a number of some type. -/
def isNumber : Value → Bool
  | bool _ | int _ | float _ | complex _ _ => true
  | _ => false

theorem isNumber_of_amounts {v : Value} (h : v.amounts.1.isSome = true) : v.isNumber = true := by
  cases v <;> first | rfl | cases h

theorem ofBool_inj {a b : Bool} : ofBool a = ofBool b ↔ a = b := by
  cases a <;> cases b <;> decide

/-- Numbers of all types are compared by what their parts amount to. -/
theorem scalarEquals_iff_of_isNumber {v w : Value} (hv : v.isNumber = true) :
    v.scalarEquals w = true ↔
      (v.amounts.1.isSome = true ∧ v.amounts.2.isSome = true) ∧ v.amounts = w.amounts := by
  cases v with
  | bool a => cases w <;> simp only [scalarEquals, amounts] <;> grind [ofBool_inj]
  | int m => cases w <;> simp only [scalarEquals, amounts] <;> grind
  | float x => cases w <;> simp only [scalarEquals, amounts] <;> grind
  | complex x y => cases w <;> simp only [scalarEquals, amounts] <;> grind
  | _ => cases hv

/-- What is no number equals itself only, but for moments, times and members of enumerations. -/
theorem scalarEquals_cases {v w : Value} (hv : v.isNumber = false)
    (h : v.scalarEquals w = true) :
    v = w ∨ (∃ m n, v = .moment m ∧ w = .moment n ∧ m.equals n = true) ∨
      (∃ s t, v = .time s ∧ w = .time t ∧ s.equals t = true) ∨
      ∃ kind member x y, v = .symbol kind member x ∧ w = .symbol kind member y ∧
        x.form = y.form := by
  fun_cases scalarEquals v w <;> simp_all [scalarEquals, isNumber]

theorem symbol_scalarEquals {kind member : String} {x y : Value} (h : x.form = y.form) :
    (symbol kind member x).scalarEquals (symbol kind member y) = true := by
  simp [scalarEquals, h]

theorem scalarEquals_symm {v w : Value} (h : v.scalarEquals w = true) :
    w.scalarEquals v = true := by
  cases hv : v.isNumber with
  | true =>
    obtain ⟨hsome, heq⟩ := (scalarEquals_iff_of_isNumber hv).mp h
    rw [heq] at hsome
    exact (scalarEquals_iff_of_isNumber (isNumber_of_amounts hsome.1)).mpr ⟨hsome, heq.symm⟩
  | false =>
    rcases scalarEquals_cases hv h with
      rfl | ⟨m, n, rfl, rfl, hmn⟩ | ⟨s, t, rfl, rfl, hst⟩ | ⟨kind, member, x, y, rfl, rfl, hxy⟩
    · exact h
    · exact Calendar.Moment.equals_symm hmn
    · exact Calendar.Time.equals_symm hst
    · exact symbol_scalarEquals hxy.symm

/-- The clock of a time is valid. -/
def IsTimely (v : Value) : Prop :=
  ∀ t, v = .time t → t.clock.isValid = true

theorem scalarEquals_trans {u v w : Value} (hu : u.IsTimely) (hw : w.IsTimely)
    (h : u.scalarEquals v = true) (h' : v.scalarEquals w = true) : u.scalarEquals w = true := by
  cases hnumber : u.isNumber with
  | true =>
    obtain ⟨hsome, huv⟩ := (scalarEquals_iff_of_isNumber hnumber).mp h
    obtain ⟨-, hvw⟩ := (scalarEquals_iff_of_isNumber (isNumber_of_amounts (huv ▸ hsome.1))).mp h'
    exact (scalarEquals_iff_of_isNumber hnumber).mpr ⟨hsome, huv.trans hvw⟩
  | false =>
    rcases scalarEquals_cases hnumber h with
      rfl | ⟨m, n, rfl, rfl, hmn⟩ | ⟨s, t, rfl, rfl, hst⟩ | ⟨kind, member, x, y, rfl, rfl, hxy⟩
    · exact h'
    · cases w <;> first | cases h' | skip
      exact Calendar.Moment.equals_trans hmn h'
    · cases w <;> first | cases h' | skip
      exact Calendar.Time.equals_trans (hu _ rfl) (hw _ rfl) hst h'
    · cases w <;> first | cases h' | skip
      simp only [scalarEquals, Bool.and_eq_true, beq_iff_eq] at h'
      obtain ⟨⟨rfl, rfl⟩, hyz⟩ := h'
      exact symbol_scalarEquals (hxy.trans hyz)

/-! ### Collections -/

/-- The value has no parts. -/
def isScalar : Value → Bool
  | list _ | tuple _ | set _ _ | map _ | record _ _ => false
  | _ => true

/-- Keys, items and names occur once in their collections, and clocks are valid, at every depth. -/
inductive WellFormed : Value → Prop
  | scalar {v : Value} : v.isScalar = true → v.IsTimely → WellFormed v
  | list {vs : List Value} : (∀ v ∈ vs, WellFormed v) → WellFormed (.list vs)
  | tuple {vs : List Value} : (∀ v ∈ vs, WellFormed v) → WellFormed (.tuple vs)
  | set {frozen : Bool} {vs : List Value} : (∀ v ∈ vs, WellFormed v) →
    vs.Pairwise (fun v w => v.equals w = false) → WellFormed (.set frozen vs)
  | map {es : List (Value × Value)} : (∀ e ∈ es, WellFormed e.1) → (∀ e ∈ es, WellFormed e.2) →
    es.Pairwise (fun e f => e.1.equals f.1 = false) → WellFormed (.map es)
  | record {name : String} {fs : List (String × Value)} : (∀ f ∈ fs, WellFormed f.2) →
    (fs.map Prod.fst).Nodup → WellFormed (.record name fs)

theorem WellFormed.isTimely {v : Value} (h : v.WellFormed) : v.IsTimely := by
  cases h with
  | scalar _ htimely => exact htimely
  | _ => nofun

theorem equals_of_isScalar {v : Value} (h : v.isScalar = true) (w : Value) :
    v.equals w = v.scalarEquals w := by
  cases v <;> first | rfl | (cases w <;> rfl) | cases h

theorem isScalar_of_scalarEquals {v w : Value} (h : v.scalarEquals w = true) :
    w.isScalar = true := by
  fun_cases scalarEquals v w <;> first | rfl | simp_all [scalarEquals]

/-- Whatever equals a scalar, or is equalled by one, is a scalar. -/
theorem equals_comm_of_isScalar {w : Value} (hw : w.isScalar = true) (v : Value) :
    v.equals w = w.equals v := by
  rw [equals_of_isScalar hw]
  cases hv : v.isScalar with
  | true =>
    rw [equals_of_isScalar hv]
    exact Bool.eq_iff_iff.mpr ⟨scalarEquals_symm, scalarEquals_symm⟩
  | false =>
    have hnot : w.scalarEquals v = false := by
      cases hwv : w.scalarEquals v with
      | false => rfl
      | true =>
        rw [isScalar_of_scalarEquals hwv] at hv
        cases hv
    rw [hnot]
    cases v <;> cases w <;> first
      | rfl
      | exact absurd hw Bool.false_ne_true
      | exact absurd hv.symm Bool.false_ne_true

section Inversion

variable {w : Value}

theorem listEquals_iff {vs ws : List Value} :
    listEquals vs ws = true ↔ List.Forall₂ (fun v w => v.equals w = true) vs ws := by
  induction vs generalizing ws with
  | nil => cases ws <;> simp [listEquals]
  | cons v vs ih => cases ws <;> simp [listEquals, ih]

theorem allIn_iff {vs ws : List Value} :
    allIn vs ws = true ↔ ∀ v ∈ vs, ∃ w ∈ ws, v.equals w = true := by
  induction vs with
  | nil => simp [allIn]
  | cons v vs ih => simp [allIn, ih]

/-- What equals a list is a list of equal items, and so for tuples. -/
theorem sequence_equals_iff {make : List Value → Value} (hmake : make = list ∨ make = tuple)
    {vs : List Value} : (make vs).equals w = true ↔
      ∃ ws, w = make ws ∧ List.Forall₂ (fun v w => v.equals w = true) vs ws := by
  rcases hmake with rfl | rfl <;> cases w <;>
    first
    | exact iff_of_false Bool.false_ne_true (by rintro ⟨_, ⟨⟩, -⟩)
    | simp [equals, listEquals_iff]

/-- What equals a set is a set of the same size in which each item is found. -/
theorem set_equals_iff {frozen : Bool} {vs : List Value} : (set frozen vs).equals w = true ↔
    ∃ frozen' ws, w = .set frozen' ws ∧ vs.length = ws.length ∧
      ∀ v ∈ vs, ∃ w ∈ ws, v.equals w = true := by
  cases w with
  | set frozen' ws => simp [equals, allIn_iff]
  | _ => exact iff_of_false Bool.false_ne_true (by rintro ⟨_, _, ⟨⟩, -⟩)

/-- What equals a map is a map of the same size in which each entry is found. -/
theorem map_equals_iff {es : List (Value × Value)} : (map es).equals w = true ↔
    ∃ fs, w = .map fs ∧ es.length = fs.length ∧
      ∀ e ∈ es, ∃ f ∈ fs, e.1.equals f.1 = true ∧ e.2.equals f.2 = true := by
  cases w with
  | map fs => simp [equals, entriesIn_eq, keyedIn]
  | _ => exact iff_of_false Bool.false_ne_true (by rintro ⟨_, ⟨⟩, -⟩)

/-- What equals a record is a record of the same name and size in which each field is found. -/
theorem record_equals_iff {name : String} {fs : List (String × Value)} :
    (record name fs).equals w = true ↔ ∃ gs, w = .record name gs ∧ fs.length = gs.length ∧
      ∀ f ∈ fs, ∃ g ∈ gs, f.1 = g.1 ∧ f.2.equals g.2 = true := by
  cases w with
  | record name' gs =>
    simp [equals, fieldsIn_eq, keyedIn, and_assoc, @eq_comm _ name' name]
  | _ => exact iff_of_false Bool.false_ne_true (by rintro ⟨_, ⟨⟩, -⟩)

end Inversion

section Parts

variable {us vs ws : List Value}

theorem trans_items (ih : ∀ u ∈ us, ∀ {v w : Value}, w.WellFormed → u.equals v = true →
      v.equals w = true → u.equals w = true)
    (hws : ∀ w ∈ ws, w.WellFormed) (h : List.Forall₂ (fun u v => u.equals v = true) us vs)
    (h' : List.Forall₂ (fun v w => v.equals w = true) vs ws) :
    List.Forall₂ (fun u w => u.equals w = true) us ws := by
  induction h generalizing ws with
  | nil => exact h'
  | cons huv _ ihs =>
    cases h' with
    | cons hvw h' =>
      refine .cons (ih _ List.mem_cons_self (hws _ List.mem_cons_self) huv hvw) ?_
      exact ihs (fun u hu => ih u (List.mem_cons_of_mem _ hu))
        (fun w hw => hws w (List.mem_cons_of_mem _ hw)) h'

theorem symm_items (ih : ∀ v ∈ vs, ∀ {w : Value}, v.equals w = true → w.equals v = true)
    (h : List.Forall₂ (fun v w => v.equals w = true) vs ws) :
    List.Forall₂ (fun w v => w.equals v = true) ws vs := by
  induction h with
  | nil => exact .nil
  | cons hvw _ ihs =>
    exact .cons (ih _ List.mem_cons_self hvw) (ihs fun v hv => ih v (List.mem_cons_of_mem _ hv))

end Parts

/-- Equality is transitive. -/
theorem WellFormed.equals_trans {u v w : Value} (hu : u.WellFormed) (hw : w.WellFormed)
    (h : u.equals v = true) (h' : v.equals w = true) : u.equals w = true := by
  induction hu generalizing v w with
  | @scalar u hscalar htimely =>
    rw [equals_of_isScalar hscalar] at h ⊢
    rw [equals_of_isScalar (isScalar_of_scalarEquals h)] at h'
    exact scalarEquals_trans htimely hw.isTimely h h'
  | @list us _ ih =>
    obtain ⟨vs, rfl, hvs⟩ := (sequence_equals_iff (.inl rfl)).mp h
    obtain ⟨ws, rfl, hws⟩ := (sequence_equals_iff (.inl rfl)).mp h'
    cases hw with
    | scalar hscalar => cases hscalar
    | list hws' => exact (sequence_equals_iff (.inl rfl)).mpr ⟨ws, rfl, trans_items ih hws' hvs hws⟩
  | @tuple us _ ih =>
    obtain ⟨vs, rfl, hvs⟩ := (sequence_equals_iff (.inr rfl)).mp h
    obtain ⟨ws, rfl, hws⟩ := (sequence_equals_iff (.inr rfl)).mp h'
    cases hw with
    | scalar hscalar => cases hscalar
    | tuple hws' => exact (sequence_equals_iff (.inr rfl)).mpr ⟨ws, rfl, trans_items ih hws' hvs hws⟩
  | @set _ us _ _ ih =>
    obtain ⟨_, vs, rfl, hlength, hvs⟩ := set_equals_iff.mp h
    obtain ⟨_, ws, rfl, hlength', hws⟩ := set_equals_iff.mp h'
    cases hw with
    | scalar hscalar => cases hscalar
    | set hws' =>
      refine set_equals_iff.mpr ⟨_, ws, rfl, hlength.trans hlength', fun x hx => ?_⟩
      obtain ⟨y, hy, hxy⟩ := hvs x hx
      obtain ⟨z, hz, hyz⟩ := hws y hy
      exact ⟨z, hz, ih x hx (hws' z hz) hxy hyz⟩
  | @map es _ _ _ ihkey ihvalue =>
    obtain ⟨fs, rfl, hlength, hfs⟩ := map_equals_iff.mp h
    obtain ⟨gs, rfl, hlength', hgs⟩ := map_equals_iff.mp h'
    cases hw with
    | scalar hscalar => cases hscalar
    | map hkeys hvalues =>
      refine map_equals_iff.mpr ⟨gs, rfl, hlength.trans hlength', fun e he => ?_⟩
      obtain ⟨f, hf, hkey, hvalue⟩ := hfs e he
      obtain ⟨g, hg, hkey', hvalue'⟩ := hgs f hf
      exact ⟨g, hg, ihkey e he (hkeys g hg) hkey hkey', ihvalue e he (hvalues g hg) hvalue hvalue'⟩
  | @record name es _ _ ih =>
    obtain ⟨fs, rfl, hlength, hfs⟩ := record_equals_iff.mp h
    obtain ⟨gs, rfl, hlength', hgs⟩ := record_equals_iff.mp h'
    cases hw with
    | scalar hscalar => cases hscalar
    | record hvalues =>
      refine record_equals_iff.mpr ⟨gs, rfl, hlength.trans hlength', fun e he => ?_⟩
      obtain ⟨f, hf, hname, hvalue⟩ := hfs e he
      obtain ⟨g, hg, hname', hvalue'⟩ := hgs f hf
      exact ⟨g, hg, hname.trans hname', ih e he (hvalues g hg) hvalue hvalue'⟩

/-- Where keys are unequal and partners have equal keys, partners are found both ways. -/
theorem exists_partner_of_key {α β : Type} {R : α → β → Prop} (key : α → Value) (key' : β → Value)
    {as : List α} {bs : List β} (hlength : as.length = bs.length)
    (h : ∀ a ∈ as, ∃ b ∈ bs, R a b) (hR : ∀ a b, R a b → (key a).equals (key' b) = true)
    (hkeys : ∀ a ∈ as, (key a).WellFormed)
    (hdistinct : as.Pairwise fun a a' => (key a).equals (key a') = false)
    (hsymm : ∀ a ∈ as, ∀ {w : Value}, (key a).equals w = true → w.equals (key a) = true) :
    ∀ b ∈ bs, ∃ a ∈ as, R a b := by
  refine exists_partner hlength h (hdistinct.imp_of_mem fun {a a'} ha ha' hne b hab ha'b => ?_)
  have heq : (key a).equals (key a') = true :=
    (hkeys a ha).equals_trans (hkeys a' ha') (hR a b hab) (hsymm a' ha' (hR a' b ha'b))
  rw [hne] at heq
  cases heq

/-- What equals a well formed value is equalled by it. -/
theorem WellFormed.equals_symm {v w : Value} (hv : v.WellFormed) (h : v.equals w = true) :
    w.equals v = true := by
  induction hv generalizing w with
  | scalar hscalar =>
    rw [equals_of_isScalar hscalar] at h
    rw [equals_of_isScalar (isScalar_of_scalarEquals h)]
    exact scalarEquals_symm h
  | list _ ih =>
    obtain ⟨ws, rfl, hws⟩ := (sequence_equals_iff (.inl rfl)).mp h
    exact (sequence_equals_iff (.inl rfl)).mpr ⟨_, rfl, symm_items ih hws⟩
  | tuple _ ih =>
    obtain ⟨ws, rfl, hws⟩ := (sequence_equals_iff (.inr rfl)).mp h
    exact (sequence_equals_iff (.inr rfl)).mpr ⟨_, rfl, symm_items ih hws⟩
  | set hitems hdistinct ih =>
    obtain ⟨_, ws, rfl, hlength, hws⟩ := set_equals_iff.mp h
    refine set_equals_iff.mpr ⟨_, _, rfl, hlength.symm, fun y hy => ?_⟩
    obtain ⟨x, hx, hxy⟩ :=
      exists_partner_of_key id id hlength hws (fun _ _ hxy => hxy) hitems hdistinct ih y hy
    exact ⟨x, hx, ih x hx hxy⟩
  | map hkeys _ hdistinct ihkey ihvalue =>
    obtain ⟨fs, rfl, hlength, hfs⟩ := map_equals_iff.mp h
    refine map_equals_iff.mpr ⟨_, rfl, hlength.symm, fun f hf => ?_⟩
    obtain ⟨e, he, hkey, hvalue⟩ := exists_partner_of_key Prod.fst Prod.fst hlength hfs
      (fun _ _ hef => hef.1) hkeys hdistinct ihkey f hf
    exact ⟨e, he, ihkey e he hkey, ihvalue e he hvalue⟩
  | @record _ fs _ hnodup ih =>
    obtain ⟨gs, rfl, hlength, hgs⟩ := record_equals_iff.mp h
    refine record_equals_iff.mpr ⟨_, rfl, hlength.symm, fun g hg => ?_⟩
    have hown : fs.Pairwise fun f f' => ∀ g : String × Value,
        f.1 = g.1 ∧ f.2.equals g.2 = true → ¬ (f'.1 = g.1 ∧ f'.2.equals g.2 = true) :=
      (List.pairwise_map.mp hnodup).imp fun hne g hf hf' => hne (hf.1.trans hf'.1.symm)
    obtain ⟨f, hf, hname, hvalue⟩ := exists_partner hlength hgs hown g hg
    exact ⟨f, hf, hname.symm, ih f hf hvalue⟩

/-- Equality is symmetric. -/
theorem WellFormed.equals_comm {v w : Value} (hv : v.WellFormed) (hw : w.WellFormed) :
    v.equals w = w.equals v :=
  Bool.eq_iff_iff.mpr ⟨hv.equals_symm, hw.equals_symm⟩

end Value

end Intake
