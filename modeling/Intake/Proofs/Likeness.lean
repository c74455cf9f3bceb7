import Intake.Check.Stage
import Intake.Proofs.Run

/-!
# Likeness

Two builds are compared step by step. What is compared are values and failures, and how closely
depends on the question: of two builds that see the same they have to be equal, of two builds that
differ in the order of their entries they may differ in order as well. A `Likeness` says which values
and failures count as alike; it is lawful when the operations of a build cannot tell alike values
apart but by giving alike results. `Likeness.same` is equality.

The functions supplied by the user have to answer alike values alike (`Likeness.Respects`), up to the
messages of their refusals.
-/

namespace Intake

open Intake.Failure

namespace Value

/-- The value may hold maps at some depth: it is a list, a tuple, a map or a record. -/
def isCompound : Value → Bool
  | list _ => true
  | tuple _ => true
  | map _ => true
  | record _ _ => true
  | _ => false

/-- The items of a list or a tuple. -/
def items? : Value → Option (List Value)
  | list vs => some vs
  | tuple vs => some vs
  | _ => none

end Value

/-- Which values, messages, failures and payloads of two builds count as alike. -/
structure Likeness where
  value : Value → Value → Prop
  message : String → String → Prop
  failures : List Entry → List Entry → Prop
  payload : Payload → Payload → Prop

namespace Likeness

/-- Replies of one kind with alike contents. -/
inductive Reply (L : Likeness) : Intake.Reply → Intake.Reply → Prop
  | plain {v w : Value} : L.value v w → L.Reply (.plain v) (.plain w)
  | ok {v w : Value} : L.value v w → L.Reply (.ok v) (.ok w)
  | err {v w : Value} : L.value v w → L.Reply (.err v) (.err w)
  | message {s t : String} : L.message s t → L.Reply (.err (.text s)) (.err (.text t))
  | refused {p q : Payload} : L.payload p q → L.Reply (.refused p) (.refused q)

/-- Verdicts that leave alike values alike, and that amount to alike failures. -/
structure Verdict (L : Likeness) (x y : Check.Verdict) : Prop where
  isPass : x.isPass = y.isPass
  after : ∀ v w, L.value v w → L.value (x.valueAfter v) (y.valueAfter w)
  entries : ∀ field d, L.failures (Check.entriesOf field d x) (Check.entriesOf field d y)

/-- Alike values with alike failures. -/
def Checked (L : Likeness) (p q : Value × List Entry) : Prop :=
  L.value p.1 q.1 ∧ L.failures p.2 q.2

/-- A function answers alike values alike. -/
def Respects (L : Likeness) (f : Function) : Prop :=
  ∀ v w, L.value v w → Run.Matched L.Reply (f v) (f w)

/-- Every function of a table answers alike values alike. -/
def RespectsAll (L : Likeness) (functions : Functions) : Prop :=
  ∀ key f, (key, .call f) ∈ functions → L.Respects f

/-- The operations of a build give alike results for alike values. -/
structure Lawful (L : Likeness) : Prop where
  refl : ∀ v, L.value v v
  eq_or_compound : ∀ v w, L.value v w → v = w ∨ v.isCompound = true ∧ w.isCompound = true
  isEmpty : ∀ v w, L.value v w → v.isEmpty = w.isEmpty
  typeName : ∀ v w, L.value v w → v.typeName = w.typeName
  isMap : ∀ v w, L.value v w → v.isMap = w.isMap
  items : ∀ v w, L.value v w → Option.Rel (List.Forall₂ L.value) v.items? w.items?
  list : ∀ vs ws, List.Forall₂ L.value vs ws → L.value (.list vs) (.list ws)
  equals : ∀ v w v' w', L.value v w → L.value v' w' → v.equals v' = w.equals w'
  contains : ∀ (s : Rule.EnumSet) v w, L.value v w → s.contains v = s.contains w
  standard : ∀ name f, Check.standard? name = some f → ∀ a v w, L.value v w →
    Run.Matched L.Verdict (f a v) (f a w)
  failures_refl : ∀ es, L.failures es es
  failures_append : ∀ es fs es' fs', L.failures es fs → L.failures es' fs' →
    L.failures (es ++ es') (fs ++ fs')
  failures_isEmpty : ∀ es fs, L.failures es fs → es.isEmpty = fs.isEmpty
  aggregate : ∀ es fs, L.failures es fs → Option.Rel L.payload (Failure.aggregate es)
    (Failure.aggregate fs)
  payload_refl : ∀ p, L.payload p p
  payload_entries : ∀ p q, L.payload p q → L.failures p.entries q.entries
  nested : ∀ p q, L.payload p q → ∀ field index,
    L.failures [.nested field p index] [.nested field q index]
  message_refl : ∀ s, L.message s s
  entry : ∀ s t, L.message s t → ∀ field action,
    L.failures [.field field action s] [.field field action t]
  rejection : ∀ s t, L.message s t → ∀ field d constraint expected expected' v w,
    L.failures (Check.entriesOf field d (.reject s constraint expected v none))
      (Check.entriesOf field d (.reject t constraint expected' w none))

variable {L : Likeness}

/-- A verdict is like itself where values and failures are. -/
theorem verdict_same (hvalue : ∀ v, L.value v v) (hfailures : ∀ es, L.failures es es)
    (x : Check.Verdict) : L.Verdict x x := by
  refine ⟨rfl, fun v w hvw => ?_, fun _ _ => hfailures _⟩
  rcases x with ⟨_ | u⟩ | _
  · exact hvw
  · exact hvalue u
  · exact hvw

namespace Lawful

/-- Payloads of one entry with alike messages are alike. -/
theorem payload_entry (h : L.Lawful) {s t : String} (hst : L.message s t) (field action : String) :
    L.payload (.bad [.field field action s]) (.bad [.field field action t]) := by
  have haggregate := h.aggregate _ _ (h.entry s t hst field action)
  simpa [Failure.aggregate, Entry.isBad] using haggregate

/-- Rejections with alike messages are alike, whatever value they tell. -/
theorem verdict_reject (h : L.Lawful) {s t : String} (hst : L.message s t)
    (constraint : Option String) (expected expected' : Rule.Argument) (v w : Value) :
    L.Verdict (.reject s constraint expected v none) (.reject t constraint expected' w none) :=
  ⟨rfl, fun _ _ hvw => hvw, fun field d => h.rejection s t hst field d ..⟩

theorem verdict_refl (h : L.Lawful) (x : Check.Verdict) : L.Verdict x x :=
  verdict_same h.refl h.failures_refl x

/-- Compounds are no texts, so that they are cleaned to themselves. -/
theorem apply_of_compound {v : Value} (hv : v.isCompound = true) (d : Rule.Directive) :
    Sanitize.apply d v = .ok v := by
  have hfilter : ∀ f, Sanitize.filter f v = .ok v := by
    intro f
    cases v <;> first | rfl | cases hv
  simp only [Sanitize.apply]
  split
  · split
    · cases hv
    · exact hfilter _
    · rfl
  · split
    · split
      · exact hfilter _
      · rfl
    · rfl

/-- Alike values are cleaned to alike values. -/
theorem sanitize (h : L.Lawful) (ds : List Rule.Directive) {v w : Value} (hvw : L.value v w) :
    Run.Matched L.value (Sanitize.run ds v) (Sanitize.run ds w) := by
  rw [Sanitize.run, Sanitize.run]
  rcases h.eq_or_compound v w hvw with rfl | ⟨hv, hw⟩
  · exact .refl h.refl _
  · -- No compound is changed by any directive.
    have hkeep : ∀ (u : Value), u.isCompound = true →
        ds.foldlM (fun v d => Sanitize.apply d v) u = .ok u := by
      intro u hu
      induction ds with
      | nil => rfl
      | cons d ds ih => rw [List.foldlM_cons, apply_of_compound hu d]; exact ih
    rw [hkeep v hv, hkeep w hw]
    exact hvw

end Lawful

/-! ### Equality -/

/-- Only equal values, failures and payloads are alike. -/
def same : Likeness := ⟨Eq, Eq, Eq, Eq⟩

theorem same_reply_refl (r : Intake.Reply) : same.Reply r r := by
  cases r with
  | plain v => exact .plain rfl
  | ok v => exact .ok rfl
  | err v => exact .err rfl
  | refused p => exact .refused rfl

/-- Equal values get equal answers. -/
theorem same_respects (f : Function) : same.Respects f := by
  rintro v _ rfl
  exact .refl same_reply_refl _

theorem same_respectsAll (functions : Functions) : same.RespectsAll functions :=
  fun _ f _ => same_respects f

theorem same_rel (v? : Option Value) : Option.Rel same.value v? v? := by
  cases v? with
  | none => exact .none
  | some v => exact .some rfl

theorem same_lawful : same.Lawful where
  refl _ := rfl
  eq_or_compound _ _ h := .inl h
  isEmpty _ _ h := congrArg Value.isEmpty h
  typeName _ _ h := congrArg Value.typeName h
  isMap _ _ h := congrArg Value.isMap h
  items := by
    rintro v _ rfl
    cases v.items? with
    | none => exact .none
    | some vs => exact .some (List.forall₂_same.2 fun _ _ => rfl)
  list vs ws h := by
    have h : List.Forall₂ (· = ·) vs ws := h
    rw [List.forall₂_eq_eq_eq] at h
    exact congrArg Value.list h
  equals _ _ _ _ h h' := congrArg₂ Value.equals h h'
  contains s _ _ h := congrArg s.contains h
  standard := by
    rintro name f - a v _ rfl
    refine .refl (fun x => ⟨rfl, fun v w h => ?_, fun _ _ => rfl⟩) _
    exact congrArg x.valueAfter h
  failures_refl _ := rfl
  failures_append _ _ _ _ h h' := congrArg₂ List.append h h'
  failures_isEmpty _ _ h := congrArg List.isEmpty h
  aggregate := by
    rintro es _ rfl
    cases Failure.aggregate es with
    | none => exact .none
    | some p => exact .some rfl
  payload_refl _ := rfl
  payload_entries _ _ h := congrArg Payload.entries h
  nested := by
    rintro p _ rfl field index
    rfl
  message_refl _ := rfl
  entry := by
    rintro s _ rfl field action
    rfl
  rejection := by
    rintro s _ rfl field d constraint expected expected' v w
    rfl

end Likeness

end Intake
