import Intake.Proofs.Likeness

/-!
# Checks of alike values

Directives, stages and rules give alike answers about alike values, from whatever journals they
start: `run_agree`, `runStage_agree`, `runRule_agree`.

A likeness is lawful if no standard check and no cleaning tells alike values apart
(`Likeness.Lawful`), which leaves the functions of the user. These are asked for their reply to the
value, and have to respect the likeness (`Likeness.RespectsAll`): alike replies are read as alike
verdicts (`ofReply_matched`). Directives and their choices call each other, so that what is said of
them is proved by structural recursion. A stage hands the value on that its directives have left, so
that the directives of the two stages go on with alike values, which are again alike at the end.
-/

namespace Intake.Check

open Intake.Rule Intake.Failure

variable {L : Likeness} {functions : Functions}

theorem mem_of_lookup {α : Type} {l : List (String × α)} {key : String} {a : α}
    (h : l.lookup key = some a) : (key, a) ∈ l := by
  obtain ⟨pre, post, hsplit, -⟩ := List.lookup_eq_some_iff.1 h
  simp [hsplit]

/-- A reference stands for an entry of the table. -/
theorem mem_of_resolve? {f : FunctionRef} {h : Hook Function}
    (hf : resolve? functions f = some h) : ∃ key, (key, h) ∈ functions := by
  rw [resolve?] at hf
  split at hf
  · next hfound =>
    cases hf
    exact ⟨_, mem_of_lookup hfound⟩
  · next hfound =>
    split at hf
    · exact ⟨_, mem_of_lookup hf⟩
    · cases hf
      exact ⟨_, mem_of_lookup hfound⟩
  · exact ⟨_, mem_of_lookup hf⟩

theorem applyRef_agree (hfunctions : L.RespectsAll functions) (f : FunctionRef) {v w : Value}
    (hvw : L.value v w) : Run.Agree L.Reply (applyRef functions f v) (applyRef functions f w) := by
  rw [applyRef, applyRef]
  cases hf : (resolve? functions f).filter (!·.isMissing) with
  | none => exact .throw _ _
  | some h =>
    obtain ⟨key, hkey⟩ := mem_of_resolve? (Option.filter_eq_some_iff.1 hf).1
    cases h with
    | inert u => exact .throw _ _
    | call g =>
      refine (Run.Agree.call (R := Eq) rfl _ _).bind fun _ _ _ => ?_
      exact .reply (hfunctions key g hkey v w hvw)

/-- Alike replies amount to alike verdicts. -/
theorem ofReply_matched (hL : L.Lawful) (f : FunctionRef) {r r' : Reply} (hr : L.Reply r r')
    (v w : Value) : Run.Matched L.Verdict (ofReply f r v) (ofReply f r' w) := by
  cases hr with
  | ok h => exact ⟨rfl, fun _ _ _ => h, fun _ _ => hL.failures_refl []⟩
  | @plain u u' h =>
    rcases hL.eq_or_compound u u' h with rfl | ⟨hu, hu'⟩
    · cases u with
      | bool b =>
        cases b
        · exact hL.verdict_reject (hL.message_refl _) ..
        · exact hL.verdict_refl _
      | _ => exact trivial
    · cases u <;> cases hu <;> cases u' <;> cases hu' <;> exact trivial
  | @err u u' h =>
    rcases hL.eq_or_compound u u' h with rfl | ⟨hu, hu'⟩
    · cases u with
      | text s => exact hL.verdict_reject (hL.message_refl s) ..
      | _ => exact trivial
    · cases u <;> cases hu <;> cases u' <;> cases hu' <;> exact trivial
  | message h => exact hL.verdict_reject h ..
  | @refused p q h =>
    -- A payload without entries is told as a whole.
    refine ⟨rfl, fun _ _ hvw => hvw, fun field d => ?_⟩
    have hentries := hL.payload_entries p q h
    simp only [entriesOf, hL.failures_isEmpty _ _ hentries]
    split
    · exact hL.nested p q h field none
    · exact hentries

theorem custom_agree (hL : L.Lawful) (hfunctions : L.RespectsAll functions) (a : Argument)
    {v w : Value} (hvw : L.value v w) :
    Run.Agree L.Verdict (custom functions a v) (custom functions a w) := by
  simp only [custom]
  split
  · refine (applyRef_agree hfunctions _ hvw).bind fun r r' hr => ?_
    exact .ofExcept (ofReply_matched hL _ hr v w)
  · exact .pure (hL.verdict_refl _)

mutual
/-- A directive gives alike verdicts about alike values. -/
theorem run_agree (hL : L.Lawful) (hfunctions : L.RespectsAll functions) (d : Directive)
    {v w : Value} (hvw : L.value v w) :
    Run.Agree L.Verdict (run functions d v) (run functions d w) := by
  match d with
  | ⟨name, a⟩ =>
    rw [run, run]
    split
    · exact custom_agree hL hfunctions a hvw
    split
    · exact either_agree hL hfunctions a hvw
    cases hname : standard? name with
    | none => exact .pure (hL.verdict_refl _)
    | some f => exact .ofExcept (hL.standard name f hname a v w hvw)
termination_by structural d

theorem either_agree (hL : L.Lawful) (hfunctions : L.RespectsAll functions) (a : Argument)
    {v w : Value} (hvw : L.value v w) :
    Run.Agree L.Verdict (either functions a v) (either functions a w) := by
  match a with
  | .operations ds =>
    rw [either, either]
    split
    · exact .pure (hL.verdict_refl _)
    · refine (anyPasses_agree hL hfunctions ds hvw).bind fun b b' hb => ?_
      subst hb
      cases b
      · exact .pure (hL.verdict_reject (hL.message_refl _) ..)
      · exact .pure (hL.verdict_refl _)
  | .literal u =>
    cases u with
    | tuple us =>
      cases us with
      | nil => exact .pure (hL.verdict_refl _)
      | cons => exact .throw _ _
    | _ => exact .pure (hL.verdict_refl _)
  | .none => exact .pure (hL.verdict_refl _)
  | .changeable _ => exact .pure (hL.verdict_refl _)
  | .members _ => exact .pure (hL.verdict_refl _)
  | .function _ => exact .pure (hL.verdict_refl _)
termination_by structural a

theorem anyPasses_agree (hL : L.Lawful) (hfunctions : L.RespectsAll functions)
    (ds : List Directive) {v w : Value} (hvw : L.value v w) :
    Run.Agree Eq (anyPasses functions ds v) (anyPasses functions ds w) := by
  match ds with
  | [] => exact .pure rfl
  | d :: rest =>
    rw [anyPasses, anyPasses]
    refine (run_agree hL hfunctions d hvw).bind fun x y hxy => ?_
    rw [hxy.isPass]
    split
    · exact .pure rfl
    · exact anyPasses_agree hL hfunctions rest hvw
termination_by structural ds
end

/-- A stage leaves alike values alike, with alike failures. -/
theorem runStage_agree (hL : L.Lawful) (hfunctions : L.RespectsAll functions) (field : String)
    (ds : List Directive) {v w : Value} (hvw : L.value v w) :
    Run.Agree L.Checked (runStage functions field ds v) (runStage functions field ds w) := by
  induction ds generalizing v w with
  | nil => exact .pure ⟨hvw, hL.failures_refl []⟩
  | cons d ds ih =>
    refine (run_agree hL hfunctions d hvw).bind fun x y hxy => ?_
    refine (ih (hxy.after v w hvw)).bind fun p q hpq => ?_
    exact .pure ⟨hpq.1, hL.failures_append _ _ _ _ (hxy.entries field d) hpq.2⟩

theorem runRule_agree (hL : L.Lawful) (hfunctions : L.RespectsAll functions) (field : String)
    (stages : Stages) {v w : Value} (hvw : L.value v w) :
    Run.Agree L.Checked (runRule functions field stages v) (runRule functions field stages w) :=
  (Run.Agree.ofExcept (hL.sanitize _ hvw)).bind fun _ _ h =>
    runStage_agree hL hfunctions field _ h

end Intake.Check
