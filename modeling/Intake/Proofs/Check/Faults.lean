import Intake.Proofs.Check.Standard

/-!
# Checks that end in a fault

A check answers about most values, but not about all: an address that has no parts, a pattern that
is read no further than a count, and a number that is too long for the message end it in a fault
(`standardFault`), and so a choice whose first directives reject the value does where the next one
ends in a fault (`Faults`). These are all the faults of directives that call no function of the
user, and no other directive of this kind fails to answer (`run_faults_iff`).

* `standard?_error_iff`: the faults of the standard checks;
* `anyPasses_result`: the directives of a choice are tried up to the first that passes or faults.
-/

namespace Intake.Check

open Intake.Rule

variable {functions : Functions} {name : String} {a : Argument} {v : Value} {e : Fault}

/-! ### Faults of the standard checks -/

/-- The text has no parts of a web address. -/
inductive UrlFault : Value → Fault → Prop
  | intro {s : String} {m : Net.UrlMisread} : Net.Url.read s.toList = .error m →
    UrlFault (.text s) (.url m)

/-- The pattern has a flaw that the message about patterns does not tell. -/
inductive RegexFault : Argument → Value → Fault → Prop
  | intro {p s : String} {m : Pattern.Flaw} : Pattern.Regex.read p.toList = .error m →
    (∀ cause position, m ≠ .malformed cause position) →
    RegexFault (.literal (.text p)) (.text s) (.pattern m)

/-- The size fails the bound, and one of the two is too long to be written. -/
inductive SizeFault (fails : Value → Int → Bool) : Argument → Value → Fault → Prop
  | intro {a : Argument} {v limit size : Value} {n : Int} : boundOf? a = some (limit, n) →
    measure? v = some size → fails size n = true →
    (size.isTooLong = true ∨ limit.isTooLong = true) → SizeFault fails a v .longInteger

/-- The value does not belong to the enumeration, and one of the two cannot be written. -/
inductive MemberFault : Argument → Value → Fault → Prop
  | intro {s : EnumSet} {v : Value} : s.contains v = false →
    (v.isTooLong = true ∨ Value.areTooLong s.items = true) →
    MemberFault (.members s) v .longInteger

/-- The value is not equal to what is expected, and one of the two cannot be written. -/
inductive EqualFault : Argument → Value → Fault → Prop
  | intro {a : Argument} {v : Value} : (equalsSymbol v a || equalsArgument v a) = false →
    (v.isTooLong = true ∨ a.isTooLong = true) → EqualFault a v .longInteger

/-- The faults of the standard check of a name. -/
def standardFault (name : String) : Argument → Value → Fault → Prop :=
  match name with
  | "url" => fun _ => UrlFault
  | "regex" => RegexFault
  | "max_len" => SizeFault isAbove
  | "min_len" => SizeFault isBelow
  | "enum" => MemberFault
  | "equal" => EqualFault
  | _ => fun _ _ _ => False

/-- A value is shown before the verdict, which is where a number that is too long ends the check. -/
theorem show_bind_error_iff {α : Type} {f : String → Except Fault α} :
    v.show >>= f = .error e ↔
      (v.isTooLong = true ∧ e = .longInteger) ∨ (v.isTooLong = false ∧ f v.form = .error e) := by
  rw [Value.show]
  cases v.isTooLong <;> simp [bind, Except.bind, eq_comm]

theorem show_pure_error_iff {α : Type} {f : String → α} :
    (do let shown ← v.show; return f shown) = .error e ↔
      v.isTooLong = true ∧ e = .longInteger := by
  rw [show_bind_error_iff]
  simp [pure, Except.pure]

/-- Of two values that a message writes, the first that is too long ends it. -/
theorem or_of_show_twice {first second : Bool} {p : Prop} :
    (first = true ∧ p ∨ first = false ∧ second = true ∧ p) ↔
      (first = true ∨ second = true) ∧ p := by
  cases first <;> simp

theorem throw_if_error_iff {tooLong : Bool} {x : Verdict} :
    (if tooLong = true then (do throw .longInteger; pure x) else pure x : Except Fault Verdict) =
      .error e ↔ tooLong = true ∧ e = .longInteger := by
  cases tooLong <;> simp [pure, Except.pure, bind, Except.bind, throw, throwThe,
    MonadExceptOf.throw, eq_comm]

theorem refusing_error_iff {tooLong : Bool} {f : String → Verdict} :
    (v.show >>= fun shown =>
      if tooLong = true then (do throw .longInteger; pure (f shown)) else pure (f shown)) =
        .error e ↔ (v.isTooLong = true ∨ tooLong = true) ∧ e = .longInteger := by
  rw [show_bind_error_iff, throw_if_error_iff, or_of_show_twice]

/-- The faults of the check of addresses. -/
theorem url_error_iff : url v = .error e ↔ UrlFault v e := by
  constructor
  · intro h
    unfold url at h
    split at h
    · split at h
      · next hread =>
        cases h
        exact .intro hread
      · dsimp only at h
        split at h
        · cases h
        · split at h <;> cases h
    · cases h
  · rintro ⟨hread⟩
    simp [url, hread]

/-- The faults of the check of patterns. -/
theorem regex_error_iff : regex a v = .error e ↔ RegexFault a v e := by
  constructor
  · intro h
    unfold regex at h
    split at h
    · split at h
      · split at h <;> cases h
      · cases h
      · next m hmalformed hread =>
        cases h
        exact .intro hread hmalformed
    · cases h
    · cases h
  · rintro @⟨p, s, m, hread, hmalformed⟩
    cases m with
    | malformed cause position => exact absurd rfl (hmalformed cause position)
    | _ => simp [regex, hread]

/-- The faults of the checks of sizes. -/
theorem sized_error_iff {relation sign : String} {fails : Value → Int → Bool} :
    sized name relation fails sign a v = .error e ↔ SizeFault fails a v e := by
  rw [sized]
  constructor
  · intro h
    split at h
    · cases h
    · next limit n hbound =>
      split at h
      · cases h
      · next size hsize =>
        split at h
        · next hfails =>
          rw [show_bind_error_iff, show_pure_error_iff, or_of_show_twice] at h
          obtain ⟨hlong, rfl⟩ := h
          exact .intro hbound hsize hfails hlong
        · cases h
  · rintro ⟨hbound, hsize, hfails, hlong⟩
    simp only [hbound, hsize]
    rw [if_pos hfails, show_bind_error_iff, show_pure_error_iff, or_of_show_twice]
    exact ⟨hlong, rfl⟩

theorem member_error_iff : member a v = .error e ↔ MemberFault a v e := by
  constructor
  · intro h
    unfold member at h
    split at h
    · split at h
      · cases h
      · next hnot =>
        rw [refusing_error_iff] at h
        obtain ⟨hlong, rfl⟩ := h
        exact .intro (by simpa using hnot) hlong
    · cases h
  · rintro ⟨hnot, hlong⟩
    rw [member, hnot, if_neg (by decide), refusing_error_iff]
    exact ⟨hlong, rfl⟩

theorem equal_error_iff : equal a v = .error e ↔ EqualFault a v e := by
  rw [equal]
  constructor
  · intro h
    split at h
    · cases h
    · next hnot =>
      rw [refusing_error_iff] at h
      obtain ⟨hlong, rfl⟩ := h
      exact .intro (by simpa using hnot) hlong
  · rintro ⟨hnot, hlong⟩
    rw [hnot, if_neg (by decide), refusing_error_iff]
    exact ⟨hlong, rfl⟩

/-- Only the checks that may end in a fault have one. -/
theorem mem_of_standardFault (h : standardFault name a v e) : name ∈ fullChecks.map (·.1) := by
  unfold standardFault at h
  split at h
  case h_7 => exact h.elim
  all_goals decide

/-- The standard checks end in their faults and in no other. -/
theorem standard?_error_iff {f : Argument → Value → Except Fault Verdict}
    (h : standard? name = some f) : f a v = .error e ↔ standardFault name a v e := by
  rw [standard?] at h
  split at h
  · next g hg =>
    cases h
    have hplain : name ∈ plainChecks.map (·.1) := List.mem_map_of_mem (mem_of_lookup hg)
    have hnames : ∀ name ∈ plainChecks.map (·.1), name ∉ fullChecks.map (·.1) := by decide
    constructor
    · intro hanswer
      cases hanswer
    · exact fun hfault => absurd (mem_of_standardFault hfault) (hnames name hplain)
  · have hmem : (name, f) ∈ fullChecks := mem_of_lookup h
    simp only [fullChecks, List.mem_cons, List.not_mem_nil, or_false, Prod.mk.injEq] at hmem
    rcases hmem with ⟨rfl, rfl⟩ | ⟨rfl, rfl⟩ | ⟨rfl, rfl⟩ | ⟨rfl, rfl⟩ | ⟨rfl, rfl⟩ | ⟨rfl, rfl⟩
    · exact url_error_iff
    · exact regex_error_iff
    · exact sized_error_iff
    · exact sized_error_iff
    · exact member_error_iff
    · exact equal_error_iff

theorem standard?_ne_none (h : standardFault name a v e) : standard? name ≠ none := by
  have hnames : ∀ name ∈ fullChecks.map (·.1), (standard? name).isSome = true := by decide
  exact Option.isSome_iff_ne_none.mp (hnames name (mem_of_standardFault h))

/-! ### Faults of directives -/

/-- The value is rejected by the directive, whatever has happened before, and nothing happens. -/
def Rejects (functions : Functions) (d : Directive) (v : Value) : Prop :=
  ∃ x, run functions d v = Run.ofExcept (.ok x) ∧ x.isPass = false

/-- A directive ends in a fault: its standard check does; it lets choose between values that are no
    directives; or those in front reject the value and the next one ends in a fault. -/
inductive Faults (functions : Functions) : Directive → Value → Fault → Prop
  | standard {name : String} {a : Argument} {v : Value} {e : Fault} : standardFault name a v e →
    Faults functions ⟨name, a⟩ v e
  | noDirective {w v : Value} {ws : List Value} :
    Faults functions ⟨"either", .literal (.tuple (w :: ws))⟩ v (.noAttribute w.fullTypeName "name")
  | choice {before after : List Directive} {d : Directive} {v : Value} {e : Fault} :
    (∀ b ∈ before, Rejects functions b v) → Faults functions d v e →
    Faults functions ⟨"either", .operations (before ++ d :: after)⟩ v e

/-- Directives tried one after the other end in a fault. -/
def FaultsAmong (functions : Functions) (ds : List Directive) (v : Value) (e : Fault) : Prop :=
  ∃ before d after, ds = before ++ d :: after ∧ (∀ b ∈ before, Rejects functions b v) ∧
    Faults functions d v e

variable {d : Directive} {ds : List Directive}

theorem not_faultsAmong_nil : ¬ FaultsAmong functions [] v e := by
  rintro ⟨before, d, after, h, -⟩
  simp at h

/-- A choice ends in a fault where its first directive does, or rejects the value and the others do.
    -/
theorem faultsAmong_cons_iff :
    FaultsAmong functions (d :: ds) v e ↔
      Faults functions d v e ∨ Rejects functions d v ∧ FaultsAmong functions ds v e := by
  constructor
  · rintro ⟨_ | ⟨b, before⟩, d', after, heq, hrejects, hfaults⟩
    · obtain ⟨rfl, rfl⟩ := List.cons.inj heq
      exact .inl hfaults
    · obtain ⟨rfl, rfl⟩ := List.cons.inj heq
      exact .inr ⟨hrejects _ List.mem_cons_self, before, d', after, rfl,
        fun b hb => hrejects b (List.mem_cons_of_mem _ hb), hfaults⟩
  · rintro (hfaults | ⟨hrejects, before, d', after, rfl, hall, hfaults⟩)
    · exact ⟨[], d, ds, rfl, by simp, hfaults⟩
    · refine ⟨d :: before, d', after, rfl, fun b hb => ?_, hfaults⟩
      rcases List.mem_cons.mp hb with rfl | hb
      · exact hrejects
      · exact hall b hb

theorem faults_iff_standardFault (hname : name ≠ "either") :
    Faults functions ⟨name, a⟩ v e ↔ standardFault name a v e := by
  constructor
  · intro h
    cases h with
    | standard h => exact h
    | noDirective => exact absurd rfl hname
    | choice => exact absurd rfl hname
  · exact .standard

theorem faults_choice_iff :
    Faults functions ⟨"either", .operations ds⟩ v e ↔ FaultsAmong functions ds v e := by
  constructor
  · intro h
    cases h with
    | standard h => exact h.elim
    | choice hrejects hfaults => exact ⟨_, _, _, rfl, hrejects, hfaults⟩
  · rintro ⟨before, d, after, rfl, hrejects, hfaults⟩
    exact .choice hrejects hfaults

theorem not_faults_either (hchoice : ∀ ds, a ≠ .operations ds)
    (hvalues : ∀ w ws, a ≠ .literal (.tuple (w :: ws))) : ¬ Faults functions ⟨"either", a⟩ v e := by
  rintro (h | _ | _)
  · exact h
  · exact hvalues _ _ rfl
  · exact hchoice _ rfl

/-- What is no choice is rejected. -/
theorem result_of_because
    (h : either functions a v = pure (.because "either requires a list of validations"))
    (hchoice : ∀ ds, a ≠ .operations ds) (hvalues : ∀ w ws, a ≠ .literal (.tuple (w :: ws))) :
    ∃ r, either functions a v = Run.ofExcept r ∧
      ∀ e, r = .error e ↔ Faults functions ⟨"either", a⟩ v e :=
  ⟨.ok _, h, fun _ => ⟨nofun, fun hfaults => absurd hfaults (not_faults_either hchoice hvalues)⟩⟩

theorem rejects_iff {r : Except Fault Verdict} (hr : run functions d v = Run.ofExcept r) :
    Rejects functions d v ↔ ∃ x, r = .ok x ∧ x.isPass = false := by
  constructor
  · rintro ⟨x, hx, hpass⟩
    exact ⟨x, Run.ofExcept_injective (hr.symm.trans hx), hpass⟩
  · rintro ⟨x, rfl, hpass⟩
    exact ⟨x, hr, hpass⟩

mutual
/-- A directive that calls no function of the user has a result: one of its faults, or a verdict if
    it has none. -/
theorem run_result (d : Directive) (hd : isClosed d = true) (v : Value) :
    ∃ r, run functions d v = Run.ofExcept r ∧ ∀ e, r = .error e ↔ Faults functions d v e := by
  match d with
  | ⟨name, a⟩ =>
    rw [isClosed, Bool.and_eq_true, bne_iff_ne] at hd
    rw [run, if_neg (by simpa using hd.1)]
    split
    · next heither =>
      obtain rfl : name = "either" := by simpa using heither
      exact either_result a hd.2 v
    · next hneither =>
      have hname : name ≠ "either" := by simpa using hneither
      simp only [faults_iff_standardFault hname]
      cases hf : standard? name with
      | some f => exact ⟨f a v, rfl, fun e => standard?_error_iff hf⟩
      | none => exact ⟨.ok _, rfl, fun e => ⟨nofun, fun h => absurd hf (standard?_ne_none h)⟩⟩
termination_by structural d

theorem either_result (a : Argument) (ha : isClosedArgument a = true) (v : Value) :
    ∃ r, either functions a v = Run.ofExcept r ∧
      ∀ e, r = .error e ↔ Faults functions ⟨"either", a⟩ v e := by
  match a with
  | .operations ds =>
    rw [isClosedArgument] at ha
    obtain ⟨r, hr, hfaults⟩ := anyPasses_result ds ha v
    simp only [faults_choice_iff]
    rw [either, hr]
    split
    · next hempty =>
      obtain rfl := List.isEmpty_iff.mp hempty
      exact ⟨.ok _, rfl, fun e => ⟨nofun, fun h => absurd h not_faultsAmong_nil⟩⟩
    · cases r with
      | error m => exact ⟨.error m, rfl, fun e => by simp [← hfaults]⟩
      | ok b => cases b <;> exact ⟨.ok _, rfl, fun e => by simp [← hfaults]⟩
  | .literal u =>
    cases u with
    | tuple us =>
      cases us with
      | nil => exact result_of_because rfl (fun _ => nofun) (fun _ _ => nofun)
      | cons w ws =>
        refine ⟨.error (.noAttribute w.fullTypeName "name"), rfl, fun e => ⟨?_, ?_⟩⟩
        · rintro ⟨⟩
          exact .noDirective
        · rintro (h | _ | _)
          · exact h.elim
          · rfl
    | _ => exact result_of_because rfl (fun _ => nofun) (fun _ _ => nofun)
  | .none => exact result_of_because rfl (fun _ => nofun) (fun _ _ => nofun)
  | .changeable _ => exact result_of_because rfl (fun _ => nofun) (fun _ _ => nofun)
  | .members _ => exact result_of_because rfl (fun _ => nofun) (fun _ _ => nofun)
  | .function _ => exact result_of_because rfl (fun _ => nofun) (fun _ _ => nofun)
termination_by structural a

theorem anyPasses_result (ds : List Directive) (hds : areClosed ds = true) (v : Value) :
    ∃ r, anyPasses functions ds v = Run.ofExcept r ∧
      ∀ e, r = .error e ↔ FaultsAmong functions ds v e := by
  match ds with
  | [] => exact ⟨.ok false, rfl, fun e => by simp [not_faultsAmong_nil]⟩
  | d :: rest =>
    rw [areClosed, Bool.and_eq_true] at hds
    obtain ⟨r, hr, hfaults⟩ := run_result d hds.1 v
    obtain ⟨rs, hrs, hamong⟩ := anyPasses_result rest hds.2 v
    simp only [faultsAmong_cons_iff, ← hfaults, ← hamong, rejects_iff hr]
    rw [anyPasses, hr, hrs]
    rcases r with m | x
    · exact ⟨.error m, rfl, fun e => by simp⟩
    · cases hx : x.isPass with
      | true => exact ⟨.ok true, by simp [Run.ofExcept, hx], fun e => by simp [hx]⟩
      | false => exact ⟨rs, by simp [Run.ofExcept, hx], fun e => by simp [hx]⟩
termination_by structural ds
end

end Intake.Check
