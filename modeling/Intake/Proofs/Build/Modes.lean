import Mathlib.Data.List.TakeWhile
import Intake.Proofs.Build.Supplied
import Intake.Proofs.Build.Watch

/-!
# Creating and editing

Editing a record differs from creating it in what is required, and in nothing else. Where a record is
edited, the build does not end with a payload in which names are missing, unless a callable replied
with that before (`supplied_of_edited`). And what is created without stopping anywhere for a missing
name is edited alike (`edited_eq_created`), whatever it comes to: a record, a payload, or a fault.
-/

namespace Intake.Build

open Intake.Schema Intake.Failure

/-! ### What happens until a failure is raised -/

/-- The events before the first node to fail among those that raise is finished. -/
def untilRaised (es : List Event) : List Event :=
  es.takeWhile (·.raising?.isNone)

theorem untilRaised_eq_self {es : List Event} (h : firstRaising? es = none) :
    untilRaised es = es := by
  refine List.takeWhile_eq_self_iff.2 fun e he => ?_
  rw [List.findSome?_eq_none_iff.1 h e he]
  rfl

theorem split_of_firstRaising? {es : List Event} {m : Node} {q : Payload}
    (h : firstRaising? es = some (m, q)) :
    ∃ post, es = untilRaised es ++ .finished m (.error q) :: post := by
  obtain ⟨pre, e, post, rfl, he, hpre⟩ := List.findSome?_eq_some_iff.1 h
  have hraising : e = .finished m (.error q) := by
    have hfirst : firstRaising? [e] = some (m, q) := by
      rwa [firstRaising?, List.findSome?_singleton]
    exact (List.mem_singleton.1 (mem_of_firstRaising? hfirst).1).symm
  have hself : untilRaised pre = pre :=
    untilRaised_eq_self (List.findSome?_eq_none_iff.2 hpre)
  refine ⟨post, ?_⟩
  rw [untilRaised, List.takeWhile_append_of_pos fun e' he' => by rw [hpre e' he']; rfl,
    List.takeWhile_cons_of_neg (by rw [he]; exact Bool.false_ne_true), List.append_nil, hraising]

/-- The payload that a build ends with: that of its result, or one that was raised. -/
def payloadOf? {α : Type} : Except Fault (Result × α) → Option Payload
  | .ok (.error p, _) => some p
  | .error (.build p _) => some p
  | _ => none

/-- Where a record is edited, the names that are missing in the payload of the build are told by
    callables that have replied with them. -/
theorem supplied_of_edited {n : Node} {c : Context} (hc : c.mode = .edit) {input : Value}
    {j : Journal} {p : Payload} (h : payloadOf? ((build n c input).start j).1 = some p) :
    Supplied (untilRaised ((buildCourse n c input).events j)) p := by
  have hcovers := covers_build n c input
  have hfounded := founded_build hc n input
  have hheeds := hcovers.heeds j
  rw [Heeds] at hheeds
  cases hfirst : firstRaising? ((buildCourse n c input).events j) with
  | some mq =>
    obtain ⟨m, q⟩ := mq
    rw [hfirst] at hheeds
    dsimp only at hheeds
    rw [hheeds] at h
    obtain rfl : q = p := Option.some.inj h
    obtain ⟨post, hsplit⟩ := split_of_firstRaising? hfirst
    exact hfounded.finished j _ m q post hsplit
  | none =>
    rw [hfirst] at hheeds
    dsimp only at hheeds
    rw [untilRaised_eq_self hfirst]
    rw [hheeds] at h
    -- The muted build raises no payload, so that this one is its result.
    have hunraised := (build_local (fun m hm => by
      obtain ⟨k, -, rfl⟩ := Node.spans_of_muted hm
      exact k.muted_raises) c input : Run.Local (build n.muted c input)).unraised j
    rcases hrun : (build n.muted c input).start j with ⟨e | ⟨result, tree⟩, k⟩
    · rw [hrun] at h hunraised
      cases e <;> cases h
      exact absurd rfl (hunraised _ _)
    · rw [hrun] at h
      rw [← hcovers.quiet] at hrun
      have hanswer := hfounded.answer j _ k _ (Course.ends_of_start hrun)
      cases result with
      | ok v => cases h
      | error q =>
        cases h
        exact hanswer p rfl

/-! ### What is created and edited alike -/

/-- Looked out for: a node that stops because required names are missing. -/
def missingWatch : Watch where
  node n mode t := (unknownNames n t).isEmpty && !(missingNames n mode t).isEmpty

/-- A node is admitted in one of the modes and not in the other only if it stops for missing
    names. -/
theorem missingWatch_admits (traced : Bool) (n : Node) :
    missingWatch.Admits ⟨.create, traced⟩ ⟨.edit, traced⟩ n := by
  intro t
  change refusal? n .create t = refusal? n .edit t ∨ missingWatch.node n .create t = true
  rw [refusal?, refusal?]
  cases hunknown : unknownNames n t with
  | cons name names => exact .inl rfl
  | nil =>
    cases hmissing : missingNames n .create t with
    | nil => exact .inl rfl
    | cons name names =>
      exact .inr (by simp [missingWatch, hunknown, hmissing])

/-- Where a record is edited, each payload of missing names that occurs in the payload of the build,
    or in the one that is raised, occurs in a payload that a callable of the user replied with before.
    And if no node stops for missing names where the record is created, then editing it ends alike,
    with the same record and the same resolved tree, the same payload or the same fault, after the
    same calls. -/
theorem edited_eq_created (n : Node) (traced : Bool) (input : Value) (j : Journal) :
    (∀ p, payloadOf? ((build n ⟨.edit, traced⟩ input).start j).1 = some p →
      Supplied (untilRaised ((buildCourse n ⟨.edit, traced⟩ input).events j)) p) ∧
    (missingWatch.Quiet n ⟨.create, traced⟩ input j →
      ((build n ⟨.edit, traced⟩ input).start j).1 =
          ((build n ⟨.create, traced⟩ input).start j).1 ∧
        ((build n ⟨.edit, traced⟩ input).start j).2.calls =
          ((build n ⟨.create, traced⟩ input).start j).2.calls) :=
  ⟨fun _ h => supplied_of_edited rfl h,
    fun h => h.same_end (fun m _ => missingWatch_admits traced m) rfl⟩

/-- A login that is always refused, as if a second factor were missing. -/
def guardedLogin : Node :=
  { login with main := some (.call fun _ => .ok (.refused (.required ["otp"]))) }

/-- What is needed to log in. -/
def guardedInput : Value :=
  .map [(.text "auth", .map [(.text "action", .text "read")])]

/-- What is needed to log in is there, so that nothing but the main validator is left to say that a
    name is missing. -/
theorem guardedLogin_edited_eq_created :
    payloadOf? ((build guardedLogin ⟨.edit, false⟩ guardedInput).start .empty).1 =
        some (.required ["otp"]) ∧
      Supplied (untilRaised ((buildCourse guardedLogin ⟨.edit, false⟩ guardedInput).events .empty))
        (.required ["otp"]) ∧
      missingWatch.Quiet guardedLogin ⟨.create, false⟩ guardedInput .empty ∧
      ((build guardedLogin ⟨.edit, false⟩ guardedInput).start .empty).1 =
        ((build guardedLogin ⟨.create, false⟩ guardedInput).start .empty).1 := by
  have hpayload : payloadOf? ((build guardedLogin ⟨.edit, false⟩ guardedInput).start .empty).1 =
      some (.required ["otp"]) := rfl
  have hquiet : missingWatch.Quiet guardedLogin ⟨.create, false⟩ guardedInput .empty := by
    refine ⟨.longInteger, fun h => ?_⟩
    have hok : ((watchedBuild missingWatch .longInteger guardedLogin ⟨.create, false⟩
      guardedInput).start .empty).1.isOk = true := by decide +kernel
    rw [h] at hok
    cases hok
  obtain ⟨hsupplied, hsame⟩ := edited_eq_created guardedLogin false guardedInput .empty
  exact ⟨hpayload, hsupplied _ hpayload, hquiet, (hsame hquiet).1⟩

end Intake.Build
