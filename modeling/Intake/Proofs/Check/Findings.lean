import Intake.Proofs.Check.Course
import Intake.Proofs.Check.Standard

/-!
# The findings of a stage

A stage asks its directives one after the other, each about the value that the one in front of it
has left. The runs of a stage are the inspections of the value by its directives, and what it
collects are the blocks of their findings, in order (`start_runStage_iff`). No finding is lost: a
block is empty exactly if the value passes (`Finding.block_eq_nil_iff`), so that a stage collects
nothing exactly if the value passes every directive. That holds of a function that refuses a value
with a payload without entries as well: its block is the payload as a whole.

* `Finding.block_of_refuses`, `Finding.block_of_fails`: what the block of a failing directive is;
* `runStage_append`: directives behind others are asked about the value that those leave;
* `start_custom`: a function that keeps to its contract lets a value pass if it says so, or gives
  another value in its place.
-/

namespace Intake.Check

open Intake.Rule Intake.Failure

variable {functions : Functions} {field : String}

/-! ### Functions of the user -/

/-- A function that the directive calls refuses the value with a payload. -/
def Refuses (functions : Functions) (d : Directive) (v : Value) (p : Payload) : Prop :=
  ∃ f g, d = ⟨"custom", .function f⟩ ∧ resolve? functions f = some (.call g) ∧
    g v = .ok (.refused p)

/-- The reply of a function is read, whatever has happened before. -/
theorem start_custom {f : FunctionRef} {g : Function} {v : Value} {r : Reply}
    (hresolve : resolve? functions f = some (.call g)) (hreply : g v = .ok r) (j : Journal) :
    ∃ k, (run functions ⟨"custom", .function f⟩ v).start j = (ofReply f r v, k) := by
  refine ⟨{ j with calls := j.calls ++ [.function (applyRef.hookKey functions f) v] }, ?_⟩
  have hcall : applyRef functions f v =
      Run.applyHook (applyRef.hookKey functions f) (.call g) v := by
    rw [applyRef, hresolve]
    rfl
  rw [run, if_pos (by rfl), custom, hcall, Run.applyHook, bind_assoc, hreply]
  exact Run.start_ofExcept (ofReply f r v) _

/-- A directive finds a payload exactly if a function that it calls refuses the value with it. -/
theorem payload?_eq_some_iff {d : Directive} {v : Value} {x : Verdict} {j k : Journal}
    (h : (run functions d v).start j = (.ok x, k)) {p : Payload} :
    x.payload? = some p ↔ Refuses functions d v p := by
  constructor
  · intro hp
    cases judgement_of_run h with
    | bare _ hbare =>
      rw [hbare.isStandard.payload?] at hp
      cases hp
    | given => cases hp
    | refused hresolve hreply =>
      cases hp
      exact ⟨_, _, rfl, hresolve, hreply⟩
    | unsupported => cases hp
  · rintro ⟨f, g, rfl, hresolve, hreply⟩
    obtain ⟨l, hl⟩ := start_custom hresolve hreply j
    rw [h] at hl
    cases hl
    rfl

/-- A reply lets a value pass: it says so, or it gives a value in its place. -/
inductive Passing : Reply → Prop
  | plain : Passing (.plain (.bool true))
  | ok (v : Value) : Passing (.ok v)

/-- A function that keeps to its contract is never at a loss: the value passes exactly if the reply
    says so, and what the reply gives in its place is left. -/
theorem exists_start_custom {f : FunctionRef} {g : Function} {v : Value} {r : Reply}
    (hresolve : resolve? functions f = some (.call g)) (hreply : g v = .ok r)
    (hr : Role.function.accepts r = true) (j : Journal) :
    ∃ x k, (run functions ⟨"custom", .function f⟩ v).start j = (.ok x, k) ∧
      (x.isPass = true ↔ Passing r) ∧ x.valueAfter v = r.getOr v := by
  obtain ⟨k, hk⟩ := start_custom hresolve hreply j
  suffices h : ∃ x, ofReply f r v = .ok x ∧ (x.isPass = true ↔ Passing r) ∧
      x.valueAfter v = r.getOr v by
    obtain ⟨x, hx, hpass, hafter⟩ := h
    exact ⟨x, k, by rw [hk, hx], hpass, hafter⟩
  -- One case for each form of a reply that the contract has.
  cases r with
  | plain w =>
    cases w with
    | bool b =>
      cases b
      · exact ⟨_, rfl, ⟨nofun, nofun⟩, rfl⟩
      · exact ⟨_, rfl, ⟨fun _ => .plain, fun _ => rfl⟩, rfl⟩
    | _ => cases hr
  | ok u => exact ⟨_, rfl, ⟨fun _ => .ok u, fun _ => rfl⟩, rfl⟩
  | err w =>
    cases w with
    | text s => exact ⟨_, rfl, ⟨nofun, nofun⟩, rfl⟩
    | _ => cases hr
  | refused p => exact ⟨_, rfl, ⟨nofun, nofun⟩, rfl⟩

/-! ### Findings -/

/-- What a directive finds about a value that it is asked about. -/
structure Finding where
  directive : Directive
  value : Value
  verdict : Verdict

namespace Finding

/-- The value that is left to the directives behind. -/
def after (s : Finding) : Value :=
  s.verdict.valueAfter s.value

/-- The failures that the finding amounts to. -/
def block (field : String) (s : Finding) : List Entry :=
  entriesOf field s.directive s.verdict

/-- The finding comes about from one journal to another. -/
def Arises (functions : Functions) (s : Finding) (j k : Journal) : Prop :=
  (run functions s.directive s.value).start j = (.ok s.verdict, k)

/-- The action that a failure of the field is told under: the name of the operation, if there is
    one of that name. -/
def action (s : Finding) : String :=
  if s.directive.name ∈ operations then s.directive.name else "type"

variable {s : Finding} {j k : Journal} {p : Payload}

/-- The block is empty exactly if the value passes. -/
theorem block_eq_nil_iff : s.block field = [] ↔ s.verdict.isPass = true := by
  refine ⟨isPass_of_entriesOf, fun hpass => ?_⟩
  obtain ⟨d, v, x⟩ := s
  cases x with
  | pass normalized => rfl
  | reject => cases hpass

/-- The block of a payload is its entries, or the payload as a whole if it has none. -/
theorem block_of_refuses (h : s.Arises functions j k)
    (hp : Refuses functions s.directive s.value p) :
    s.verdict.isPass = false ∧
      s.block field = if p.entries.isEmpty then [.nested field p none] else p.entries := by
  obtain ⟨d, v, x⟩ := s
  have hpayload := (payload?_eq_some_iff h).2 hp
  cases x with
  | pass normalized => cases hpayload
  | reject message constraint expected actual payload =>
    obtain rfl : payload = some p := hpayload
    exact ⟨rfl, rfl⟩

/-- Where no function refuses the value with a payload, the block is one failure of the field. -/
theorem block_of_fails (h : s.Arises functions j k) (hfails : s.verdict.isPass = false)
    (hp : ∀ p, ¬ Refuses functions s.directive s.value p) :
    ∃ message constraint expected actual,
      s.verdict = .reject message constraint expected actual none ∧
      s.block field =
        [.field field s.action (if message.isEmpty then "Invalid value" else message)] := by
  obtain ⟨d, v, x⟩ := s
  cases judgement_of_run h with
  | bare hname hbare =>
    cases hbare with
    | valid => cases hfails
    | reject message expected actual =>
      refine ⟨message, none, expected, actual, rfl, ?_⟩
      rw [action, if_pos hname]
      rfl
  | given => cases hfails
  | refused hresolve hreply => exact absurd ⟨_, _, rfl, hresolve, hreply⟩ (hp _)
  | unsupported hname =>
    refine ⟨_, _, _, _, rfl, ?_⟩
    rw [action, if_neg hname]
    rfl

/-- The block of a finding tells what there is to tell: nothing if the value passes; what the
    payload holds that a function refuses the value with; else one failure of the field. -/
structure IsTold (functions : Functions) (field : String) (s : Finding) : Prop where
  pass : s.block field = [] ↔ s.verdict.isPass = true
  refusal : ∀ p, Refuses functions s.directive s.value p → s.verdict.isPass = false ∧
    s.block field = if p.entries.isEmpty then [.nested field p none] else p.entries
  failure : s.verdict.isPass = false → (∀ p, ¬ Refuses functions s.directive s.value p) →
    ∃ message constraint expected actual,
      s.verdict = .reject message constraint expected actual none ∧
      s.block field =
        [.field field s.action (if message.isEmpty then "Invalid value" else message)]

theorem isTold (h : s.Arises functions j k) (field : String) : s.IsTold functions field where
  pass := block_eq_nil_iff
  refusal _ := block_of_refuses h
  failure := block_of_fails h

end Finding

/-! ### Inspections -/

/-- The directives of findings inspect a value, each the value that the one in front of it has left,
    from one journal to another; the last value is what is left in the end. -/
inductive Inspection (functions : Functions) :
    Value → Journal → List Finding → Value → Journal → Prop
  | nil (v : Value) (j : Journal) : Inspection functions v j [] v j
  | cons {s : Finding} {findings : List Finding} {w : Value} {i j k : Journal} :
    s.Arises functions i j → Inspection functions s.after j findings w k →
    Inspection functions s.value i (s :: findings) w k

variable {ds before behind : List Directive} {findings : List Finding} {es : List Entry}
  {u v w : Value} {i j k : Journal}

/-- A stage leaves a value with some failures exactly if its directives inspect the value that way,
    and the failures are the blocks of what they find. -/
theorem start_runStage_iff :
    (runStage functions field ds v).start j = (.ok (w, es), k) ↔
      ∃ findings, Inspection functions v j findings w k ∧ findings.map (·.directive) = ds ∧
        findings.flatMap (·.block field) = es := by
  constructor
  · intro h
    induction ds generalizing v j es with
    | nil =>
      cases h
      exact ⟨[], .nil .., rfl, rfl⟩
    | cons d ds ih =>
      simp only [runStage, Run.start_bind_eq_ok, Run.start_pure] at h
      obtain ⟨x, i, hx, ⟨w', rest⟩, _, hrest, heq⟩ := h
      cases heq
      obtain ⟨findings, hinspection, rfl, rfl⟩ := ih hrest
      exact ⟨⟨d, v, x⟩ :: findings, .cons (s := ⟨d, v, x⟩) hx hinspection, rfl, rfl⟩
  · rintro ⟨findings, hinspection, rfl, rfl⟩
    induction hinspection with
    | nil v j => rfl
    | @cons s findings w i j k hs _ ih =>
      simp only [List.map_cons, List.flatMap_cons, runStage, Run.start_bind_eq_ok, Run.start_pure]
      exact ⟨s.verdict, j, hs, (w, _), k, ih, rfl⟩

/-- Each finding of an inspection comes about. -/
theorem Inspection.arises (h : Inspection functions v j findings w k) :
    ∀ s ∈ findings, ∃ i l, s.Arises functions i l := by
  induction h with
  | nil => exact fun s hs => absurd hs List.not_mem_nil
  | cons hs _ ih => exact List.forall_mem_cons.2 ⟨⟨_, _, hs⟩, ih⟩

/-- A stage answers exactly if each of its directives does, about the value that it comes to be
    asked about. -/
theorem exists_start_runStage_iff :
    (∃ w es k, (runStage functions field ds v).start j = (.ok (w, es), k)) ↔
      ∀ findings d behind u i, ds = findings.map (·.directive) ++ d :: behind →
        Inspection functions v j findings u i →
          ∃ x k, (run functions d u).start i = (.ok x, k) := by
  induction ds generalizing v j with
  | nil => simp [runStage]
  | cons d ds ih =>
    constructor
    · rintro ⟨w, es, k, h⟩ findings d' behind u i hds hinspection
      simp only [runStage, Run.start_bind_eq_ok] at h
      obtain ⟨x, l, hx, ⟨w', rest⟩, _, hrest, -⟩ := h
      cases hinspection with
      | nil =>
        cases hds
        exact ⟨x, l, hx⟩
      | @cons s findings _ _ j' _ hs hinspection =>
        simp only [List.map_cons, List.cons_append, List.cons.injEq] at hds
        obtain ⟨rfl, hds⟩ := hds
        -- The first directive has found what it finds in the run of the stage.
        cases hx.symm.trans hs
        exact ih.1 ⟨w', rest, _, hrest⟩ findings d' behind u i hds hinspection
    · intro h
      obtain ⟨x, l, hx⟩ := h [] d ds v j rfl (.nil v j)
      obtain ⟨w, es, k, hrest⟩ := ih.2 fun findings d' behind u i hds hinspection =>
        h (⟨d, v, x⟩ :: findings) d' behind u i (by rw [hds]; rfl)
          (.cons (s := ⟨d, v, x⟩) hx hinspection)
      simp only [runStage, Run.start_bind_eq_ok]
      exact ⟨w, _, k, x, l, hx, (w, es), k, hrest, rfl⟩

/-- Directives behind others are asked about the value that those leave. -/
theorem runStage_append (functions : Functions) (field : String) (before behind : List Directive)
    (v : Value) :
    runStage functions field (before ++ behind) v = (do
      let (u, es) ← runStage functions field before v
      let (w, fs) ← runStage functions field behind u
      return (w, es ++ fs)) := by
  induction before generalizing v with
  | nil => simp [runStage]
  | cons d before ih => simp [runStage, ih]

/-- No failures are collected exactly if each directive lets the value pass that it is asked
    about. -/
theorem blocks_eq_nil_iff :
    findings.flatMap (·.block field) = [] ↔ ∀ s ∈ findings, s.verdict.isPass = true := by
  rw [List.flatMap_eq_nil_iff]
  exact forall₂_congr fun s _ => Finding.block_eq_nil_iff

/-- A rule accepts a value exactly if the value is cleaned and then passes every directive. -/
theorem start_runRule_nil_iff {stages : Stages} :
    (runRule functions field stages v).start j = (.ok (w, []), k) ↔
      ∃ cleaned findings, Sanitize.run (stages.directives "sanitize") v = .ok cleaned ∧
        Inspection functions cleaned j findings w k ∧
        findings.map (·.directive) = stages.directives "validate" ∧
        ∀ s ∈ findings, s.verdict.isPass = true := by
  simp only [runRule, Run.start_bind_eq_ok, Run.start_ofExcept_eq_ok, start_runStage_iff,
    blocks_eq_nil_iff]
  constructor
  · rintro ⟨cleaned, _, ⟨hcleaned, rfl⟩, findings, h⟩
    exact ⟨cleaned, findings, hcleaned, h⟩
  · rintro ⟨cleaned, findings, hcleaned, h⟩
    exact ⟨cleaned, j, ⟨hcleaned, rfl⟩, findings, h⟩

/-- A stage loses no failure. It answers exactly if the directives do that come to be asked, and
    then it leaves what these leave, with the blocks of their findings in order; each block tells
    what there is to tell, and the blocks are all empty exactly if every directive lets the value
    pass. So a rule accepts a value exactly if every directive lets it pass. Directives behind
    others are asked about what those leave. A function that keeps to its contract is never at a
    loss. -/
theorem runStage_lossless (functions : Functions) (field : String) :
    (∀ ds v j, (∃ w es k, (runStage functions field ds v).start j = (.ok (w, es), k)) ↔
      ∀ findings d behind u i, ds = findings.map (·.directive) ++ d :: behind →
        Inspection functions v j findings u i →
          ∃ x k, (run functions d u).start i = (.ok x, k)) ∧
    (∀ ds v w es j k, (runStage functions field ds v).start j = (.ok (w, es), k) ↔
      ∃ findings, Inspection functions v j findings w k ∧ findings.map (·.directive) = ds ∧
        findings.flatMap (·.block field) = es) ∧
    (∀ v j findings w k, Inspection functions v j findings w k →
      (∀ s ∈ findings, s.IsTold functions field) ∧
      (findings.flatMap (·.block field) = [] ↔ ∀ s ∈ findings, s.verdict.isPass = true)) ∧
    (∀ stages v w j k, (runRule functions field stages v).start j = (.ok (w, []), k) ↔
      ∃ cleaned findings, Sanitize.run (stages.directives "sanitize") v = .ok cleaned ∧
        Inspection functions cleaned j findings w k ∧
        findings.map (·.directive) = stages.directives "validate" ∧
        ∀ s ∈ findings, s.verdict.isPass = true) ∧
    (∀ before behind v, runStage functions field (before ++ behind) v = (do
      let (u, es) ← runStage functions field before v
      let (w, fs) ← runStage functions field behind u
      return (w, es ++ fs))) ∧
    ∀ f g v r j, resolve? functions f = some (.call g) → g v = .ok r →
      Role.function.accepts r = true →
        ∃ x k, (run functions ⟨"custom", .function f⟩ v).start j = (.ok x, k) ∧
          (x.isPass = true ↔ Passing r) ∧ x.valueAfter v = r.getOr v := by
  refine ⟨fun _ _ _ => exists_start_runStage_iff, fun _ _ _ _ _ _ => start_runStage_iff, ?_,
    fun _ _ _ _ _ => start_runRule_nil_iff, runStage_append functions field, ?_⟩
  · intro v j findings w k h
    refine ⟨fun s hs => ?_, blocks_eq_nil_iff⟩
    obtain ⟨i, l, hs⟩ := h.arises s hs
    exact Finding.isTold hs field
  · exact fun f g v r j hresolve hreply hr => exists_start_custom hresolve hreply hr j

namespace Screening

/-- A function that gives a tidy name in place of any other. -/
def tidy : FunctionRef := ⟨"tidy", none⟩

/-- A function that refuses every name, and tells nothing about it. -/
def ban : FunctionRef := ⟨"ban", none⟩

/-- The functions of the screening of names. -/
def hooks : Functions :=
  [("tidy", .call fun _ => .ok (.ok (.text "bob"))),
   ("ban", .call fun _ => .ok (.refused (.bad [])))]

/-- A name is tidied. -/
def tidied : Finding :=
  ⟨⟨"custom", .function tidy⟩, .text " Bob ", .pass (some (.text "bob"))⟩

/-- The tidy name is a text. -/
def typed : Finding :=
  ⟨⟨"string", .none⟩, .text "bob", .valid⟩

/-- The tidy name is refused. -/
def banned : Finding :=
  ⟨⟨"custom", .function ban⟩, .text "bob",
    .reject "bad_parameters: []" none .none .null (some (.bad []))⟩

/-- There is no way to find out whether the name shines. -/
def unfounded : Finding :=
  ⟨⟨"shiny", .none⟩, .text "bob",
    .reject "Unsupported validation 'shiny'" (some "type") .none .null none⟩

/-- The calls of the functions. -/
def calls : List Call :=
  [.function "tidy" (.text " Bob "), .function "ban" (.text "bob")]

/-- A refusal that tells nothing is not lost. -/
theorem ban_told :
    Inspection hooks (.text " Bob ") .empty [tidied, typed, banned, unfounded] (.text "bob")
        ⟨calls, []⟩ ∧
      Refuses hooks banned.directive (.text "bob") (.bad []) ∧
      (runStage hooks "name" [tidied.directive, typed.directive, banned.directive,
          unfounded.directive] (.text " Bob ")).start .empty =
        (.ok (.text "bob", [.nested "name" (.bad []) none,
          .field "name" "type" "Unsupported validation 'shiny'"]), ⟨calls, []⟩) ∧
      banned.verdict.isPass = false ∧
      ∃ x k, (run hooks tidied.directive (.text " Bob ")).start .empty = (.ok x, k) ∧
        x.isPass = true ∧ x.valueAfter (.text " Bob ") = .text "bob" := by
  have hinspection : Inspection hooks (.text " Bob ") .empty [tidied, typed, banned, unfounded]
      (.text "bob") ⟨calls, []⟩ :=
    .cons (s := tidied) (j := ⟨calls.take 1, []⟩) rfl <|
      .cons (s := typed) (j := ⟨calls.take 1, []⟩) rfl <|
        .cons (s := banned) (j := ⟨calls, []⟩) rfl <|
          .cons (s := unfounded) (j := ⟨calls, []⟩) rfl <| .nil _ _
  have hrefuses : Refuses hooks banned.directive (.text "bob") (.bad []) :=
    ⟨ban, fun _ => .ok (.refused (.bad [])), rfl, rfl, rfl⟩
  obtain ⟨-, hruns, htold, -, -, hcustom⟩ := runStage_lossless hooks "name"
  have hbanned := (htold _ _ _ _ _ hinspection).1 banned (by simp)
  obtain ⟨x, k, htidy, hpass, hafter⟩ :=
    hcustom tidy _ (.text " Bob ") (.ok (.text "bob")) .empty rfl rfl rfl
  exact ⟨hinspection, hrefuses, (hruns _ _ _ _ _ _).2 ⟨_, hinspection, rfl, rfl⟩,
    (hbanned.refusal _ hrefuses).1, x, k, htidy, hpass.2 (.ok _), hafter⟩

end Screening

end Intake.Check
