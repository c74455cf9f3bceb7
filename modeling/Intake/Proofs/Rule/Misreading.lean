import Intake.Domain.Clause
import Intake.Proofs.Number
import Intake.Proofs.Rule.Split
import Intake.Proofs.Run
import Intake.Schema.Authoring

/-!
# What ends the reading of a rule

A text that is no rule is malformed, and the readers say so. Three things can end them otherwise
(`Misread.Escapes`): a run of more decimal digits than are read as an integer, and in an enumeration
of maps a literal with a key that can change, or with a sum of an integer that is beyond the
binary64 numbers. Each is found in the text itself, so that a text without them is read or malformed.

What a literal is does not matter for this. The readers call some `Literal.Reader` for it, and all
that is said here holds for any of them (`rule_texts_end`).

`Reads t x` says of a reading `x` of some part of the text `t` that it ends in no other way. It is
shown for each reader from those that it calls, and for the nested readers by induction on their
fuel.
-/

namespace Intake.Rule

open Intake.Text

/-! ### Parts of a text -/

/-- The pieces of a text stand in it. -/
theorem infix_of_mem_trimmedPieces {separators : List (List Char)} {s : List Char}
    {pieces : List (List Char)} (h : trimmedPieces separators s = .ok pieces) {p : List Char}
    (hp : p ∈ pieces) : p <:+: s := by
  obtain ⟨parts, hparts, rfl⟩ := map_eq_ok.mp h
  obtain ⟨part, hpart, rfl⟩ := List.mem_map.mp hp
  exact (isInfix_trim part).trans (infix_of_mem_split (mapError_eq_ok.mp hparts) hpart)

theorem isInfix_inner (s : List Char) : inner s <:+: s :=
  (List.dropLast_prefix _).isInfix.trans (List.drop_suffix 1 s).isInfix

/-- What a character cuts a text into stands in the text. -/
theorem infix_of_cutAt {mark : Char} {s before behind : List Char}
    (h : cutAt mark s = (before, some behind)) : before <:+: s ∧ behind <:+: s := by
  obtain ⟨rfl, -⟩ := cutAt_eq_some h
  exact ⟨(List.prefix_append before _).isInfix,
    ((List.suffix_cons mark behind).trans (List.suffix_append before _)).isInfix⟩

theorem infix_of_enumShape? {s : List Char} {kind : String} {body : List Char}
    (h : enumShape? s = some (kind, body)) : kind.toList <:+: s ∧ body <:+: s := by
  rw [enumShape?] at h
  split at h
  · next before behind hcut =>
    obtain ⟨hbefore, hbehind⟩ := infix_of_cutAt hcut
    dsimp only at h
    split at h
    · cases h
      rw [String.toList_ofList]
      exact ⟨hbefore, (List.dropLast_prefix _).isInfix.trans hbehind⟩
    · cases h
  · cases h

/-! ### Ends of a reading -/

/-- The misreading that a reading ends with. -/
def misread? {α : Type} (x : Except Misread α) : Option Misread :=
  match x with
  | .ok _ => none
  | .error e => some e

theorem eq_error_of_misread? {α : Type} {x : Except Misread α} {e : Misread}
    (h : misread? x = some e) : x = .error e := by
  cases x with
  | ok a => cases h
  | error e' => rw [Option.some.inj h]

variable [Literal.Reader]

/-- The misreading is not about the form of the text, and the part of the text `t` that it comes
    from. -/
inductive Misread.Escapes (t : List Char) : Misread → Prop
  | integer {digits : List Char} : digits <:+: t → digits.all isDecimalDigit = true →
      Number.digitLimit < digits.length → Escapes t (.integer (.tooManyDigits digits.length))
  | unhashable {item : List Char} {typeName : String} : "Map".toList <:+: t → item <:+: t →
      Literal.Reader.read item = .error (.unhashable typeName) → Escapes t (.unhashable typeName)
  | overflow {item : List Char} : "Map".toList <:+: t → item <:+: t →
      Literal.Reader.read item = .error .overflow → Escapes t .overflow

/-- The reading ends with a value, with a malformed text, or with what escapes from the text `t`. -/
def Reads {α : Type} (t : List Char) (x : Except Misread α) : Prop :=
  ∀ e, x = .error e → (∃ m, e = .malformed m) ∨ e.Escapes t

namespace Reads

variable {α β : Type} {t : List Char}

theorem ok (a : α) : Reads t (.ok a) :=
  fun _ h => nomatch h

theorem malformed (m : Malformed) : Reads t (.error (.malformed m) : Except Misread α) := by
  rintro e ⟨⟩
  exact .inl ⟨m, rfl⟩

theorem escaped {e : Misread} (h : e.Escapes t) : Reads t (.error e : Except Misread α) := by
  rintro e ⟨⟩
  exact .inr h

theorem mapError (x : Except Malformed α) : Reads t (x.mapError .malformed) := by
  cases x with
  | error m => exact malformed m
  | ok a => exact ok a

theorem map {x : Except Misread α} (f : α → β) (hx : Reads t x) : Reads t (x.map f) := by
  cases x with
  | error e =>
    rintro e ⟨⟩
    exact hx e rfl
  | ok a => exact ok (f a)

/-- A reading of two parts. The second part may rely on what the first has found. -/
theorem bind {x : Except Misread α} {f : α → Except Misread β} (hx : Reads t x)
    (hf : ∀ a, x = .ok a → Reads t (f a)) : Reads t (x >>= f) := by
  cases x with
  | error e =>
    rintro e ⟨⟩
    exact hx e rfl
  | ok a => exact hf a rfl

theorem mapM {f : α → Except Misread β} {as : List α} (h : ∀ a ∈ as, Reads t (f a)) :
    Reads t (as.mapM f) := by
  induction as with
  | nil => exact ok []
  | cons a as ih =>
    rw [List.mapM_cons]
    refine bind (h a List.mem_cons_self) fun b _ => ?_
    exact bind (ih fun a ha => h a (List.mem_cons_of_mem _ ha)) fun bs _ => ok (b :: bs)

end Reads

variable {t : List Char}

/-! ### Scalars and enumerations -/

/-- The integer of a numeral is read, unless the numeral has too many digits. -/
theorem reads_integer {s : List Char} (hs : s <:+: t) (h : isInteger s = true) :
    Reads t (readInteger s) := by
  simp only [isInteger, Bool.and_eq_true, Bool.not_eq_true', List.isEmpty_eq_false_iff] at h
  obtain ⟨hne, hdigits⟩ := h
  rw [readInteger, Number.readInt_numeral hne hdigits]
  split
  · next hlimit =>
    have hin : (Number.takeSign s).2 <:+: t := (Number.isSuffix_takeSign s).isInfix.trans hs
    exact .escaped (.integer hin hdigits hlimit)
  · exact .ok _

/-- An item of an enumeration is read or malformed, but for long integers and, among maps, literals.
    -/
theorem reads_item {kind : String} {s : List Char} (hkind : kind.toList <:+: t) (hs : s <:+: t) :
    Reads t (readItem kind s) := by
  unfold readItem
  split
  · exact .ok _
  · exact .ok _
  · split
    · next h => exact (reads_integer hs h).map _
    · exact .malformed _
  · split
    · exact .ok _
    · exact .malformed _
  · split
    · split
      · exact .ok _
      · exact .malformed _
    · exact .malformed _
    · next h => exact .escaped (.unhashable hkind hs h)
    · next h => exact .escaped (.overflow hkind hs h)
  · exact .ok _

theorem reads_items {kind : String} {pieces : List (List Char)} (hkind : kind.toList <:+: t)
    (h : ∀ p ∈ pieces, p <:+: t) : Reads t (readItems kind pieces) := by
  induction pieces with
  | nil => exact .ok _
  | cons s rest ih =>
    have hrest := ih fun p hp => h p (List.mem_cons_of_mem s hp)
    rw [readItems]
    split
    · exact .malformed _
    · refine .bind (reads_item hkind (h s List.mem_cons_self)) fun item _ => ?_
      exact .bind hrest fun items _ => .ok _

theorem reads_trimmedPieces (separators : List (List Char)) (s : List Char) :
    Reads t (trimmedPieces separators s) :=
  (Reads.mapError _).map _

theorem reads_enumSet {kind : String} {body : List Char} (hkind : kind.toList <:+: t)
    (hbody : body <:+: t) : Reads t (readEnumSet kind body) := by
  refine .bind (reads_trimmedPieces _ _) fun pieces hpieces => ?_
  split
  · exact .malformed _
  · refine .bind (reads_items hkind fun p hp => ?_) fun items _ => .ok _
    exact (infix_of_mem_trimmedPieces hpieces hp).trans hbody

/-- The reference to a function is malformed or read. -/
theorem reads_functionRef (s : List Char) : Reads t (readFunctionRef s) := by
  unfold readFunctionRef
  split
  · refine .bind (reads_trimmedPieces _ _) fun parts _ => ?_
    dsimp only
    split
    · exact .ok _
    · exact .ok _
    · exact .malformed _
  · refine .bind (.ok [s]) fun parts _ => ?_
    dsimp only
    split
    · exact .ok _
    · exact .ok _
    · exact .malformed _

/-! ### Directives and stages -/

/-- The readers of arguments and directives end in no other way with some fuel. -/
structure ReadsWithin (t : List Char) (fuel : Nat) : Prop where
  argument (name : String) (text : List Char) : text <:+: t →
    Reads t (readArgumentWithin fuel name text)
  directive (separator text : List Char) : text <:+: t →
    Reads t (readDirectiveWithin fuel separator text)
  directives (separator : List Char) (texts : List (List Char)) : (∀ x ∈ texts, x <:+: t) →
    Reads t (readDirectivesWithin fuel separator texts)

namespace ReadsWithin

variable {fuel : Nat}

theorem zero : ReadsWithin t 0 :=
  ⟨fun _ _ _ => .malformed _, fun _ _ _ => .malformed _, fun _ _ _ => .ok _⟩

variable (ih : ReadsWithin t fuel)
include ih

theorem argument_succ (name : String) (text : List Char) (htext : text <:+: t) :
    Reads t (readArgumentWithin (fuel + 1) name text) := by
  have hs : trim text <:+: t := (isInfix_trim text).trans htext
  rw [readArgumentWithin]
  split
  · exact .malformed _
  · split
    · exact .bind (reads_functionRef _) fun f _ => .ok _
    split
    · split
      · exact .malformed _
      · exact .ok _
    split
    · next h => exact .bind (reads_integer hs h) fun n _ => .ok _
    split
    · -- A list of directives
      refine .bind (reads_trimmedPieces _ _) fun pieces hpieces => ?_
      refine .bind (ih.directives _ _ fun x hx => ?_) fun ds _ => .ok _
      have hx := infix_of_mem_trimmedPieces hpieces (List.mem_of_mem_filter hx)
      exact hx.trans ((isInfix_inner _).trans hs)
    split
    · -- An enumeration
      next hshape =>
      obtain ⟨hkind, hbody⟩ := infix_of_enumShape? hshape
      exact .bind (reads_enumSet (hkind.trans hs) (hbody.trans hs)) fun s _ => .ok _
    · split
      · exact .ok _
      · exact .malformed _

theorem directive_succ (separator text : List Char) (htext : text <:+: t) :
    Reads t (readDirectiveWithin (fuel + 1) separator text) := by
  have hs : trim text <:+: t := (isInfix_trim text).trans htext
  rw [readDirectiveWithin]
  refine .bind (.mapError _) fun pieces _ => ?_
  dsimp only
  split
  · exact .malformed _
  split
  · exact .ok _
  · refine .bind (ih.argument _ _ ?_) fun a _ => .ok _
    exact (List.drop_suffix _ _).isInfix.trans hs

theorem directives_succ (separator : List Char) (texts : List (List Char))
    (htexts : ∀ x ∈ texts, x <:+: t) :
    Reads t (readDirectivesWithin (fuel + 1) separator texts) := by
  rw [readDirectivesWithin.eq_def]
  dsimp only
  split
  · exact .ok _
  · next x rest =>
    refine .bind (ih.directive _ _ (htexts x List.mem_cons_self)) fun d _ => ?_
    refine .bind (ih.directives _ _ fun y hy => ?_) fun ds _ => .ok _
    exact htexts y (List.mem_cons_of_mem x hy)

end ReadsWithin

theorem reads_within (fuel : Nat) : ReadsWithin t fuel := by
  induction fuel with
  | zero => exact .zero
  | succ fuel ih => exact ⟨ih.argument_succ, ih.directive_succ, ih.directives_succ⟩

theorem reads_directives {separator s : List Char} (hs : s <:+: t) :
    Reads t (readDirectives separator s) := by
  refine .bind (.mapError _) fun pieces hpieces => ?_
  refine .mapM fun p hp => ?_
  have hp := infix_of_mem_split (mapError_eq_ok.mp hpieces) (List.mem_of_mem_filter hp)
  exact (reads_within _).directive _ _ (hp.trans hs)

/-- What a text is cut into at its head stands in the text. -/
theorem reads_stagesFrom (text : List Char) (fuel : Nat) (stages : Stages) {rest : List Char}
    (h : rest <:+: t) : Reads t (readStagesFrom text fuel stages rest) := by
  induction fuel generalizing stages rest with
  | zero => exact .ok _
  | succ fuel ih =>
    rw [readStagesFrom.eq_def]
    dsimp only
    split
    · exact .ok _
    · next c behind =>
      split
      · exact ih stages ((List.suffix_cons c behind).isInfix.trans h)
      · split
        · next opened _ hopened =>
          have hin : opened <:+: t := by
            have hsuffix := (List.dropWhile_suffix isBlank).trans
              (List.drop_suffix ((c :: behind).takeWhile isNameTail).length (c :: behind))
            rw [hopened] at hsuffix
            exact ((List.suffix_cons '(' opened).trans hsuffix).isInfix.trans h
          refine .bind (.mapError _) fun ⟨body, after⟩ hgroup => ?_
          have heq := groupFrom_eq (mapError_eq_ok.mp hgroup)
          refine .bind (reads_directives ?_) fun ds _ => ?_
          · exact (List.prefix_append body _).isInfix.trans (heq ▸ hin)
          split
          · exact .malformed _
          · refine ih _ (List.IsInfix.trans ?_ hin)
            rw [heq]
            exact ((List.suffix_cons ')' after).trans (List.suffix_append body _)).isInfix
        · exact .malformed _

/-- The stages of a text are read, or the text is malformed, or something in it escapes. -/
theorem reads_stages (s : List Char) : Reads s (readStages s) := by
  rw [readStages]
  split
  · exact .malformed _
  · exact reads_stagesFrom _ _ _ (isInfix_trim s)

end Intake.Rule

namespace Intake.Domain

open Rule Text

/-! ### Clauses -/

theorem infix_of_clauseParts? {s : List Char} {mark : Char} {path : List Char}
    {combinator : String} {body : List Char}
    (h : clauseParts? s = some (mark, path, combinator, body)) :
    combinator.toList <:+: s ∧ body <:+: s := by
  unfold clauseParts? at h
  split at h
  · next c rest =>
    split at h
    · next before behind hcut =>
      split at h
      · next word after hopen =>
        have hbehind := (infix_of_cutAt hcut).2
        obtain ⟨hword, hafter⟩ := infix_of_cutAt hopen
        have hrest := (List.suffix_cons c rest).isInfix
        split at h
        · cases h
          rw [String.toList_ofList]
          exact ⟨hword.trans (hbehind.trans hrest),
            (List.dropLast_prefix _).isInfix.trans (hafter.trans (hbehind.trans hrest))⟩
        · cases h
      · cases h
    · cases h
  · cases h

variable [Literal.Reader] {t : List Char}

theorem reads_equal {body : List Char} (hbody : body <:+: t) : Reads t (readEqual body) := by
  refine .bind (reads_trimmedPieces _ _) fun pieces hpieces => ?_
  split
  · next kind text =>
    have hkind : (String.ofList kind).toList <:+: t := by
      rw [String.toList_ofList]
      exact (infix_of_mem_trimmedPieces hpieces List.mem_cons_self).trans hbody
    have htext : text <:+: t :=
      (infix_of_mem_trimmedPieces hpieces (List.mem_cons_of_mem _ List.mem_cons_self)).trans hbody
    dsimp only
    split
    · exact .ok _
    split
    · exact .malformed _
    · refine .bind (reads_enumSet hkind htext) fun s _ => ?_
      split
      · exact .ok _
      · exact .malformed _
  · exact .malformed _

theorem reads_demand {combinator : String} {body : List Char}
    (hcombinator : combinator.toList <:+: t) (hbody : body <:+: t) :
    Reads t (readDemand combinator body) := by
  unfold readDemand
  split
  · exact .bind (reads_enumSet hcombinator hbody) fun s _ => .ok _
  split
  · exact reads_equal hbody
  split
  · refine .bind (reads_directives hbody) fun ds _ => ?_
    split
    · exact .malformed _
    · exact .ok _
  split
  · exact .bind (reads_functionRef _) fun f _ => .ok _
  · exact .malformed _

theorem reads_clause {s : List Char} (hs : s <:+: t) : Reads t (readClause s) := by
  unfold readClause
  split
  · exact .malformed _
  · next hparts =>
    obtain ⟨hcombinator, hbody⟩ := infix_of_clauseParts? hparts
    have hin := (isInfix_trim s).trans hs
    exact .bind (reads_demand (hcombinator.trans hin) (hbody.trans hin)) fun d _ => .ok _

/-- The clauses of a text are read, or the text is malformed, or something in it escapes. -/
theorem reads_clauses (s : List Char) : Reads s (readClauses s) := by
  refine .bind (.mapError _) fun pieces hpieces => ?_
  refine .mapM fun p hp => reads_clause ?_
  exact infix_of_mem_split (mapError_eq_ok.mp hpieces) (List.mem_of_mem_filter hp)

end Intake.Domain

namespace Intake.Schema

open Rule

/-! ### Declarations -/

/-- The record of a malformed rule; an empty text leaves none. -/
def malformedRecords (s : String) (m : Malformed) : List Record :=
  if s.isEmpty then []
  else [⟨"derive_malformed", [("derive", .text s), ("reason", .text m.message)]⟩]

/-- How the declaration of a rule ends: with the stages of the text; where the text is malformed,
    with no stages and a record; and else with what escapes from the text. -/
theorem declaredRule_ends [Literal.Reader] (s : String) (j : Journal) :
    (∃ stages, readStages s.toList = .ok stages ∧
      (declaredRule (some s)).start j = (.ok stages, j)) ∨
    (∃ m, readStages s.toList = .error (.malformed m) ∧
      (declaredRule (some s)).start j =
        (.ok [], { j with records := j.records ++ malformedRecords s m })) ∨
    ∃ e, e.Escapes s.toList ∧ readStages s.toList = .error e ∧
      (declaredRule (some s)).start j = (.error (.rule e), j) := by
  by_cases hempty : s.isEmpty = true
  · right; left
    have hs : s = "" := String.isEmpty_iff.mp hempty
    subst hs
    refine ⟨.emptyText, rfl, ?_⟩
    simp [declaredRule, malformedRecords, Option.filter]
  · have hsome : (some s).filter (!·.isEmpty) = some s := by simp [Option.filter, hempty]
    rw [declaredRule, hsome]
    dsimp only
    cases hread : readStages s.toList with
    | ok stages => exact .inl ⟨stages, rfl, rfl⟩
    | error e =>
      rcases reads_stages s.toList e hread with ⟨m, rfl⟩ | he
      · right; left
        refine ⟨m, rfl, ?_⟩
        rw [malformedRecords, if_neg hempty]
        rfl
      · right; right
        refine ⟨e, he, rfl, ?_⟩
        cases he <;> rfl

/-- How the declaration of clauses ends: with the clauses of the text, with the flaw of a malformed
    text, and else with what escapes from the text. -/
theorem declaredClauses_ends [Literal.Reader] (s : String) :
    (∃ clauses, declaredClauses (some s) = .ok clauses) ∨
    (∃ m, declaredClauses (some s) = .error (.schema (.domain s.toList m))) ∨
    ∃ e, e.Escapes s.toList ∧ declaredClauses (some s) = .error (.rule e) := by
  unfold declaredClauses
  split
  · exact .inl ⟨[], rfl⟩
  · next s' hs =>
    obtain rfl : s = s' := by
      exact Option.some.inj (Option.eq_some_of_filter_eq_some hs)
    cases hread : Domain.readClauses s.toList with
    | ok clauses => exact .inl ⟨clauses, rfl⟩
    | error e =>
      rcases Domain.reads_clauses s.toList e hread with ⟨m, rfl⟩ | he
      · exact .inr (.inl ⟨m, rfl⟩)
      · right; right
        refine ⟨e, he, ?_⟩
        cases he <;> rfl

/-- How the texts of rules and clauses are read. A text is read strictly as stages, or it is
    malformed; the declaration of a rule has the same stages, or none and a record. A text of
    clauses is read, or its malformed form is a flaw of the schema. Whatever ends these readings
    otherwise comes from a part of the text that escapes. This is so for every reader of literals. -/
theorem rule_texts_end [Literal.Reader] (s : String) (j : Journal) :
    ((∃ stages, readStages s.toList = .ok stages ∧
        (declaredRule (some s)).start j = (.ok stages, j)) ∨
      (∃ m, readStages s.toList = .error (.malformed m) ∧
        (declaredRule (some s)).start j =
          (.ok [], { j with records := j.records ++ malformedRecords s m })) ∨
      ∃ e, e.Escapes s.toList ∧ readStages s.toList = .error e ∧
        (declaredRule (some s)).start j = (.error (.rule e), j)) ∧
    ((∃ clauses, declaredClauses (some s) = .ok clauses) ∨
      (∃ m, declaredClauses (some s) = .error (.schema (.domain s.toList m))) ∨
      ∃ e, e.Escapes s.toList ∧ declaredClauses (some s) = .error (.rule e)) :=
  ⟨declaredRule_ends s j, declaredClauses_ends s⟩

/-- A list as the key of a map ends all three readings, the one of malformed rules included, as if
    it were no part of the notation. -/
theorem list_key_escapes :
    readStages "validate(enum=Map[{[]: 1}])".toList = .error (.unhashable "list") ∧
      ((declaredRule (some "validate(enum=Map[{[]: 1}])")).start .empty).1 =
        .error (.rule (.unhashable "list")) ∧
      declaredClauses (some "!a=Map[{[]: 1}]") = .error (.rule (.unhashable "list")) := by
  have hstages : readStages "validate(enum=Map[{[]: 1}])".toList = .error (.unhashable "list") :=
    eq_error_of_misread? (by decide +kernel)
  have hclauses : Domain.readClauses "!a=Map[{[]: 1}]".toList = .error (.unhashable "list") :=
    eq_error_of_misread? (by decide +kernel)
  refine ⟨hstages, ?_, ?_⟩
  · rw [declaredRule, show (some "validate(enum=Map[{[]: 1}])").filter (!·.isEmpty) =
      some "validate(enum=Map[{[]: 1}])" from rfl]
    dsimp only
    rw [hstages]
    rfl
  · rw [declaredClauses, show (some "!a=Map[{[]: 1}]").filter (!·.isEmpty) =
      some "!a=Map[{[]: 1}]" from rfl]
    dsimp only
    rw [hclauses]

end Intake.Schema
