import Mathlib.Data.List.Basic
import Intake.Failure.Basic
import Intake.Proofs.Rule.Enumerations
import Intake.Proofs.Rule.Stages

/-!
# Reading what was written

The text of a tree is read as what the tree stands for. Values, operations and lists of operations
are read by induction over the trees (`Val.reads`, `Operation.reads`, `reads_operationTexts`), with
enough fuel for the length of their texts; each form of a value has a lemma that says why the
readers of the other forms, which come first, pass it over. Stages are read one after the other, and
the stages of one name become one (`RuleForm.readStages_text`).

The texts of all parts are solid: no separator of the parts around them stands in them outside of
quotes and brackets (`Val.solid`, `Operation.solid`), so that a text is divided just where it was
put together. Blanks are allowed wherever the forms have a gap. The fuel of the readers is the
length of the text; `weight` bounds what a list of texts needs of it.
-/

namespace Intake.Rule.Form

open Intake.Text

/-! ### Values and operations are solid -/

theorem isDivider_of_comma (c : Char) (h : (c == ',') = true) : isDivider c = true := by
  rw [isDivider, h, Bool.true_or]

theorem FunctionForm.solid (f : FunctionForm) : Solid isDivider f.text := by
  have hname (p : Padded DottedName) : Solid (fun _ => false) (p.text DottedName.text) :=
    (DottedName.solid_pad p).mono (by simp)
  cases f with
  | plain name => exact name.solid
  | bracketed name => exact solid_bracketText (by simpa using hname name)
  | qualified scope name => exact solid_bracketText (by simpa using ⟨hname scope, hname name⟩)

theorem solid_enumText {kind : String} {parts : List (List Char)}
    (hkind : isIdentifier kind.toList = true) (h : ∀ s ∈ parts, Solid (fun _ => false) s) :
    Solid isDivider (enumText kind parts) :=
  (Name.solid ⟨kind.toList, hkind⟩).append (solid_bracketText h)

/-- The name of a call. -/
def custom : Name :=
  ⟨customName, by decide⟩

/-- A name, an equals sign and a value. -/
theorem solid_assign {name value : List Char} (hname : Solid isDivider name)
    (hvalue : Solid isDivider value) (behind lead : Gap) :
    Solid (· == ',') (name ++ behind.text ++ '=' :: (lead.text ++ value)) := by
  have hbehind := (hname.append behind.solid).mono isDivider_of_comma
  have hlead := (lead.solid.append hvalue).mono isDivider_of_comma
  exact hbehind.append (.plain (by decide) hlead)

mutual
/-- Commas do not divide an operation. -/
theorem Operation.solid (o : Operation) : Solid (· == ',') o.text := by
  cases o with
  | bare before name after =>
    exact solid_pad isDivider_of_comma before (name.solid.mono isDivider_of_comma) after
  | custom before behind lead f after =>
    exact solid_pad isDivider_of_comma before (solid_assign custom.solid f.solid behind lead) after
  | assign before name _ behind lead v after =>
    exact solid_pad isDivider_of_comma before (solid_assign name.solid v.solid behind lead) after
termination_by structural o

/-- Commas and equals signs do not divide a value. -/
theorem Val.solid (v : Val) : Solid isDivider v.text := by
  have hnone {s : List Char} (hs : Solid (· == ',') s) : Solid (fun _ => false) s :=
    hs.mono (by simp)
  cases v with
  | integer n => exact n.solid
  | quotation q => exact q.solid
  | symbol name => exact name.solid
  | operations first rest =>
    refine solid_bracketText fun s hs => hnone ?_
    rcases List.mem_cons.mp hs with rfl | hs
    · exact first.solid
    · exact solid_operationTexts rest s hs
  | texts kind first rest =>
    refine solid_enumText (by cases kind <;> decide) fun s hs => ?_
    obtain ⟨p, -, rfl⟩ := List.mem_map.mp hs
    exact solid_pad (by simp) _ p.content.solid _
  | integers first rest =>
    refine solid_enumText (by decide) fun s hs => ?_
    obtain ⟨p, -, rfl⟩ := List.mem_map.mp hs
    exact solid_pad (by simp) _ (p.content.solid.mono (by simp)) _
termination_by structural v

theorem solid_operationTexts (os : List Operation) :
    ∀ s ∈ operationTexts os, Solid (· == ',') s := by
  cases os with
  | nil => simp [operationTexts]
  | cons o rest =>
    intro s hs
    rcases List.mem_cons.mp hs with rfl | hs
    · exact o.solid
    · exact solid_operationTexts rest s hs
termination_by structural os
end

/-! ### Values and operations are read -/

theorem trim_bracketText (parts : List (List Char)) :
    trim (bracketText parts) = bracketText parts := by
  refine trim_eq_self (fun c hc => ?_) fun c hc => ?_
  · obtain rfl : '[' = c := Option.some.inj hc
    decide
  · rw [getLast?_bracketText] at hc
    obtain rfl : ']' = c := Option.some.inj hc
    decide

theorem FunctionForm.trim_text (f : FunctionForm) : trim f.text = f.text := by
  cases f with
  | plain name => exact name.trim_text
  | bracketed name => exact trim_bracketText _
  | qualified scope name => exact trim_bracketText _

theorem getLast?_enumText (kind : String) (parts : List (List Char)) :
    (enumText kind parts).getLast? = some ']' := by
  rw [enumText, List.getLast?_append, getLast?_bracketText, Option.some_or]

/-- The kind of an enumeration is the text in front of the bracket. -/
theorem enumShape?_enumText {kind : String} (hkind : EnumSet.kinds.contains kind = true)
    (hopen : '[' ∉ kind.toList) (parts : List (List Char)) :
    enumShape? (enumText kind parts) = some (kind, commaText parts) := by
  have hcut : cutAt '[' (enumText kind parts) = (kind.toList, some (commaText parts ++ [']'])) := by
    have hpos : ∀ c ∈ kind.toList, (c != '[') = true := by
      intro c hc
      exact bne_iff_ne.mpr fun h => hopen (h ▸ hc)
    rw [cutAt, enumText, bracketText, List.dropWhile_append_of_pos hpos,
      List.takeWhile_append_of_pos hpos]
    simp
  rw [enumShape?, hcut]
  simp only [String.ofList_toList, hkind, List.getLast?_concat, List.dropLast_concat]
  rfl

/-- The names of the kinds, as a reader of values meets them. -/
theorem kind_cases {kind : String} (h : kind = "String" ∨ kind = "Atom" ∨ kind = "Integer") :
    EnumSet.kinds.contains kind = true ∧ '[' ∉ kind.toList ∧
      ∃ c s, kind.toList = c :: s ∧ isNameHead c = true := by
  rcases h with rfl | rfl | rfl
  · exact ⟨by decide, by decide, _, _, rfl, by decide⟩
  · exact ⟨by decide, by decide, _, _, rfl, by decide⟩
  · exact ⟨by decide, by decide, _, _, rfl, by decide⟩

theorem TextKind.name_cases (kind : TextKind) :
    kind.name = "String" ∨ kind.name = "Atom" ∨ kind.name = "Integer" := by
  cases kind
  · exact .inl rfl
  · exact .inr (.inl rfl)

/-- What a reader of values finds at the head of a name. -/
theorem not_quote_of_isNameHead {c : Char} (h : isNameHead c = true) : isQuote c = false := by
  have hplain := (of_isNameTail (isNameTail_of_isNameHead h)).1
  simp only [isPlain, Bool.and_eq_true, Bool.not_eq_true'] at hplain
  exact hplain.1.1.1

theorem not_integer_of_isNameHead {c : Char} (h : isNameHead c = true) (s : List Char) :
    isInteger (c :: s) = false := by
  obtain ⟨hdigit, hminus, hplus, -⟩ := of_isNameHead h
  have hsign : Number.takeSign (c :: s) = (false, c :: s) :=
    Number.takeSign.eq_3 _ (fun rest h => hminus (List.cons.inj h).1)
      (fun rest h => hplus (List.cons.inj h).1)
  simp [isInteger, hsign, hdigit]

theorem Val.trim_text (v : Val) : trim v.text = v.text := by
  have henum {kind : String} (h : kind = "String" ∨ kind = "Atom" ∨ kind = "Integer")
      (parts : List (List Char)) : trim (enumText kind parts) = enumText kind parts := by
    obtain ⟨-, -, d, s, hs, hd⟩ := kind_cases h
    refine trim_eq_self (fun c hc => ?_) fun c hc => ?_
    · rw [enumText, hs] at hc
      obtain rfl : d = c := Option.some.inj hc
      exact (of_isNameTail (isNameTail_of_isNameHead hd)).2.1
    · rw [getLast?_enumText] at hc
      obtain rfl : ']' = c := Option.some.inj hc
      decide
  cases v with
  | integer n => exact n.trim_text
  | quotation q => exact q.trim_text
  | symbol name => exact name.trim_text
  | operations first rest => exact trim_bracketText _
  | texts kind first rest => exact henum kind.name_cases _
  | integers first rest => exact henum (.inr (.inr rfl)) _

section Values

variable {fuel : Nat} {name : String} {t : List Char}

theorem readArgumentWithin_integer (hname : (name == "custom") = false) (n : Numeral)
    (ht : trim t = n.text) :
    readArgumentWithin (fuel + 1) name t = .ok (.literal (.int n.value)) := by
  obtain ⟨c, s, hs⟩ := List.exists_cons_of_ne_nil n.text_ne_nil
  have hplain := (n.plain c (hs ▸ List.mem_cons_self)).1
  simp only [isPlain, Bool.and_eq_true, Bool.not_eq_true'] at hplain
  have hinteger := n.isInteger_text
  have hread := n.readInteger_text
  rw [hs] at ht hinteger hread
  rw [readArgumentWithin, ht]
  simp only [hname, hplain.1.1.1, hinteger, hread]
  rfl

theorem readArgumentWithin_quotation (hname : (name == "custom") = false) (q : Quotation)
    (ht : trim t = q.text) :
    readArgumentWithin (fuel + 1) name t = .ok (.literal (.text (String.ofList q.content))) := by
  have hlast := q.getLast?_text
  have hinner := q.inner_text
  rw [Quotation.text] at ht hlast hinner
  rw [readArgumentWithin, ht]
  simp [hname, q.isQuote, hlast, hinner]
  rfl

theorem readArgumentWithin_symbol (hname : (name == "custom") = false) (n : DottedName)
    (ht : trim t = n.text) :
    readArgumentWithin (fuel + 1) name t = .ok (.literal (.text (String.ofList n.text))) := by
  obtain ⟨c, s, hs, hc, hall⟩ := n.cases
  have hshape : enumShape? n.text = none := by
    have hcut : cutAt '[' n.text = (n.text, none) := by
      rw [cutAt, List.dropWhile_eq_nil_iff.mpr]
      intro d hd
      refine bne_iff_ne.mpr ?_
      rintro rfl
      rcases hall '[' hd with h | h
      · exact absurd h (by decide)
      · cases h
    rw [enumShape?, hcut]
  have hdotted := n.dotted
  rw [hs] at ht hshape hdotted ⊢
  rw [readArgumentWithin, ht]
  simp [hname, not_quote_of_isNameHead hc, not_integer_of_isNameHead hc, (of_isNameHead hc).2.2.2,
    hshape, hdotted]
  rfl

theorem readArgumentWithin_enum (hname : (name == "custom") = false) {kind : String}
    (hkind : kind = "String" ∨ kind = "Atom" ∨ kind = "Integer") {parts : List (List Char)}
    {s : EnumSet} (hread : readEnumSet kind (commaText parts) = .ok s)
    (ht : trim t = enumText kind parts) :
    readArgumentWithin (fuel + 1) name t = .ok (.members s) := by
  obtain ⟨hmem, hopen, c, r, hc, hhead⟩ := kind_cases hkind
  have hshape := enumShape?_enumText hmem hopen parts
  obtain ⟨r', hr'⟩ : ∃ r', enumText kind parts = c :: r' :=
    ⟨_, by rw [enumText, hc, List.cons_append]⟩
  rw [hr'] at ht hshape
  rw [readArgumentWithin, ht]
  simp [hname, not_quote_of_isNameHead hhead, not_integer_of_isNameHead hhead,
    (of_isNameHead hhead).2.2.2, hshape, hread]

theorem readArgumentWithin_operations (hname : (name == "custom") = false)
    {parts : List (List Char)} (hsplit : split [",".toList] (commaText parts) = .ok parts)
    {ds : List Directive}
    (hread : readDirectivesWithin fuel "=".toList ((parts.map trim).filter (!·.isEmpty)) = .ok ds)
    (ht : trim t = bracketText parts) :
    readArgumentWithin (fuel + 1) name t = .ok (.operations ds) := by
  have hlast := getLast?_bracketText parts
  have hinner := inner_bracketText parts
  have hdigit : isDecimalDigit '[' = false := by decide
  have hinteger : isInteger (bracketText parts) = false := by
    simp [isInteger, bracketText, Number.takeSign, hdigit]
  have hquote : isQuote '[' = false := rfl
  rw [bracketText] at ht hlast hinner hinteger
  rw [readArgumentWithin, ht]
  simp only [hname, hquote, hinteger, hlast, hinner, trimmedPieces_eq hsplit, bind, Except.bind,
    hread]
  rfl

theorem readArgumentWithin_custom (f : FunctionForm) (ht : trim t = f.text) :
    readArgumentWithin (fuel + 1) "custom" t = .ok (.function f.reference) := by
  obtain ⟨c, s, hs⟩ : ∃ c s, f.text = c :: s := by
    cases f with
    | plain name =>
      obtain ⟨c, s, hs, -⟩ := name.cases
      exact ⟨c, s, hs⟩
    | bracketed name => exact ⟨_, _, rfl⟩
    | qualified scope name => exact ⟨_, _, rfl⟩
  have hread := readFunctionRef_text f
  rw [hs] at ht hread
  rw [readArgumentWithin, ht]
  simp [hread]

end Values

/-! ### Operations -/

theorem equals_isMark : IsMark ["=".toList] '=' :=
  ⟨rfl, fun rest => by simp [separatorAt?]⟩

/-- Solid parts with equals signs between them are found again. -/
theorem split_equals {parts : List (List Char)} (hne : parts ≠ [])
    (h : ∀ s ∈ parts, Solid isDivider s) :
    split ["=".toList] (List.intercalate ['='] parts) = .ok parts := by
  refine split_intercalate equals_isMark hne fun s hs => (h s hs).passes fun c hc rest => ?_
  have hc : c ≠ '=' := by
    rintro rfl
    exact absurd hc (by decide)
  simp [separatorAt?, hc.symm]

/-- A name without a value is read as a bare directive. -/
theorem readDirectiveWithin_bare {fuel : Nat} {t : List Char} (n : Name) (ht : trim t = n.text) :
    readDirectiveWithin (fuel + 1) "=".toList t = .ok ⟨String.ofList n.text, .none⟩ := by
  have hsplit := split_equals (List.cons_ne_nil n.text []) (by simpa using n.solid)
  rw [List.intercalate_singleton] at hsplit
  rw [readDirectiveWithin, ht, hsplit]
  simp [Except.mapError, bind, Except.bind, n.trim_text, n.identifier]
  rfl

/-- A name, an equals sign and a value are read as a directive with an argument. -/
theorem readDirectiveWithin_assign {fuel : Nat} {t value : List Char} (n : Name)
    (behind lead : Gap) (hvalue : Solid isDivider value) {a : Argument}
    (hread : readArgumentWithin fuel (String.ofList n.text) (lead.text ++ value) = .ok a)
    (ht : trim t = n.text ++ behind.text ++ '=' :: (lead.text ++ value)) :
    readDirectiveWithin (fuel + 1) "=".toList t = .ok ⟨String.ofList n.text, a⟩ := by
  have hsplit : split ["=".toList] (n.text ++ behind.text ++ '=' :: (lead.text ++ value)) =
      .ok [n.text ++ behind.text, lead.text ++ value] := by
    have hsolid : ∀ s ∈ [n.text ++ behind.text, lead.text ++ value], Solid isDivider s := by
      simpa using ⟨n.solid.append behind.solid, lead.solid.append hvalue⟩
    have hparts := split_equals (List.cons_ne_nil _ _) hsolid
    rwa [List.intercalate_cons_cons, List.intercalate_singleton, List.append_assoc,
      List.singleton_append] at hparts
  have htrim : trim (n.text ++ behind.text) = n.text :=
    (trim_pad (a := []) rfl behind.blank n.text).trans n.trim_text
  have hdrop : (n.text ++ behind.text ++ '=' :: (lead.text ++ value)).drop
      ((n.text ++ behind.text).length + "=".toList.length) = lead.text ++ value := by
    rw [← List.drop_drop, List.drop_left]
    rfl
  rw [readDirectiveWithin, ht, hsplit]
  simp only [Except.mapError, bind, Except.bind, List.headD_cons, htrim, n.identifier, hdrop, hread]
  rfl

/-- A name, an equals sign and a value have no blanks around them. -/
theorem trim_assign {name value : List Char} (hhead : ∃ c s, name = c :: s ∧ isNameHead c = true)
    (hvalue : trim value = value) (hne : value ≠ []) (behind lead : Gap) :
    trim (name ++ behind.text ++ '=' :: (lead.text ++ value)) =
      name ++ behind.text ++ '=' :: (lead.text ++ value) := by
  obtain ⟨d, s, rfl, hd⟩ := hhead
  refine trim_eq_self (fun c hc => ?_) fun c hc => ?_
  · obtain rfl : d = c := Option.some.inj hc
    exact (of_isNameTail (isNameTail_of_isNameHead hd)).2.1
  · have hlast : (d :: s ++ behind.text ++ '=' :: (lead.text ++ value)).getLast? =
        value.getLast? := by
      rw [← List.cons_append, ← List.append_assoc]
      exact List.getLast?_append_of_ne_nil _ hne
    rw [hlast, ← hvalue] at hc
    exact isBlank_of_getLast?_trim hc

theorem Val.text_ne_nil (v : Val) : v.text ≠ [] := by
  cases v with
  | integer n => exact n.text_ne_nil
  | quotation q => exact List.cons_ne_nil _ _
  | symbol name =>
    obtain ⟨c, s, hs, -⟩ := name.cases
    rw [Val.text, hs]
    exact List.cons_ne_nil _ _
  | operations first rest => exact List.cons_ne_nil _ _
  | texts kind first rest => exact List.append_ne_nil_of_right_ne_nil _ (List.cons_ne_nil _ _)
  | integers first rest => exact List.append_ne_nil_of_right_ne_nil _ (List.cons_ne_nil _ _)

theorem FunctionForm.text_ne_nil (f : FunctionForm) : f.text ≠ [] := by
  cases f with
  | plain name =>
    obtain ⟨c, s, hs, -⟩ := name.cases
    rw [text, hs]
    exact List.cons_ne_nil _ _
  | bracketed name => exact List.cons_ne_nil _ _
  | qualified scope name => exact List.cons_ne_nil _ _

/-- The fuel that reading a list of texts takes. -/
def weight : List (List Char) → Nat
  | [] => 0
  | t :: texts => 3 * t.length + 1 + weight texts

/-- The text of a list is long enough to read its parts. -/
theorem weight_trim_le (parts : List (List Char)) :
    weight (parts.map trim) ≤ 3 * (commaText parts).length + 3 := by
  induction parts with
  | nil => simp [weight]
  | cons s parts ih =>
    have hs := (isInfix_trim s).length_le
    rw [List.map_cons, weight]
    cases parts with
    | nil =>
      rw [commaText, List.intercalate_singleton]
      simp only [List.map_nil, weight]
      omega
    | cons s' parts =>
      rw [commaText, List.intercalate_cons_cons]
      simp only [List.length_append, List.length_cons, List.length_nil]
      rw [commaText] at ih
      omega

/-- The first of several directives is read, then the others. -/
theorem readDirectivesWithin_cons {fuel : Nat} {t : List Char} {texts : List (List Char)}
    {d : Directive} {ds : List Directive}
    (h : readDirectiveWithin fuel "=".toList t = .ok d)
    (hrest : readDirectivesWithin fuel "=".toList texts = .ok ds) :
    readDirectivesWithin (fuel + 1) "=".toList (t :: texts) = .ok (d :: ds) := by
  simp only [readDirectivesWithin, h, hrest]
  rfl

theorem Gap.trim_append (g : Gap) (s : List Char) : trim (g.text ++ s) = trim s := by
  have h := trim_pad g.blank (b := []) rfl s
  rwa [List.append_nil] at h

/-- An operation is not blank. -/
theorem Operation.trim_text_ne_nil (o : Operation) : trim o.text ≠ [] := by
  cases o with
  | bare before name after =>
    obtain ⟨c, s, hs, -⟩ := name.cases
    rw [text, trim_padText, name.trim_text, hs]
    exact List.cons_ne_nil _ _
  | custom before behind lead f after =>
    have hhead : ∃ c s, customName = c :: s ∧ isNameHead c = true := ⟨_, _, rfl, by decide⟩
    have hcore := trim_assign hhead f.trim_text f.text_ne_nil behind lead
    rw [text, trim_padText, hcore]
    exact List.append_ne_nil_of_right_ne_nil _ (List.cons_ne_nil _ _)
  | assign before name _ behind lead v after =>
    obtain ⟨c, s, hs, hc, -⟩ := name.cases
    rw [text, trim_padText, trim_assign ⟨c, s, hs, hc⟩ v.trim_text v.text_ne_nil behind lead]
    exact List.append_ne_nil_of_right_ne_nil _ (List.cons_ne_nil _ _)

theorem mem_operationTexts {os : List Operation} {s : List Char} (h : s ∈ operationTexts os) :
    ∃ o ∈ os, o.text = s := by
  induction os with
  | nil => exact absurd h List.not_mem_nil
  | cons o rest ih =>
    rcases List.mem_cons.mp h with rfl | h
    · exact ⟨o, List.mem_cons_self, rfl⟩
    · obtain ⟨o', ho', hs⟩ := ih h
      exact ⟨o', List.mem_cons_of_mem o ho', hs⟩

/-- No operation is passed over as empty. -/
theorem filter_operationTexts (os : List Operation) :
    ((operationTexts os).map trim).filter (!·.isEmpty) = (operationTexts os).map trim := by
  refine List.filter_eq_self.mpr fun s hs => ?_
  obtain ⟨t, ht, rfl⟩ := List.mem_map.mp hs
  obtain ⟨o, -, rfl⟩ := mem_operationTexts ht
  simpa using o.trim_text_ne_nil

mutual
/-- An operation is read as the directive it stands for. -/
theorem Operation.reads (o : Operation) {fuel : Nat} {t : List Char}
    (ht : trim t = trim o.text) (hfuel : 3 * (trim t).length + 4 ≤ fuel) :
    readDirectiveWithin fuel "=".toList t = .ok o.directive := by
  obtain ⟨fuel, rfl⟩ : ∃ n, fuel = n + 1 := ⟨fuel - 1, by omega⟩
  cases o with
  | bare before name after =>
    exact readDirectiveWithin_bare name (ht.trans ((trim_padText _ _ _).trans name.trim_text))
  | custom before behind lead f after =>
    obtain ⟨fuel, rfl⟩ : ∃ n, fuel = n + 1 := ⟨fuel - 1, by omega⟩
    have hhead : ∃ c s, customName = c :: s ∧ isNameHead c = true := ⟨_, _, rfl, by decide⟩
    have hcore := trim_assign hhead f.trim_text f.text_ne_nil behind lead
    have hread : readArgumentWithin (fuel + 1) "custom" (lead.text ++ f.text) =
        .ok (.function f.reference) :=
      readArgumentWithin_custom f ((lead.trim_append f.text).trans f.trim_text)
    exact readDirectiveWithin_assign custom behind lead f.solid hread
      (ht.trans ((trim_padText _ _ _).trans hcore))
  | assign before name hname behind lead v after =>
    obtain ⟨c, s, hs, hc, -⟩ := name.cases
    have hcore := trim_assign ⟨c, s, hs, hc⟩ v.trim_text v.text_ne_nil behind lead
    have htext := ht.trans ((trim_padText _ _ _).trans hcore)
    have hlength : (trim t).length = (name.text ++ behind.text).length + 1 +
        (lead.text ++ v.text).length := by
      rw [htext]
      simp only [List.length_append, List.length_cons]
      omega
    have hword : (String.ofList name.text == "custom") = false := by
      refine beq_eq_false_iff_ne.mpr fun h => hname ?_
      rw [← String.toList_ofList (l := name.text), h, customName]
    have hread : readArgumentWithin fuel (String.ofList name.text) (lead.text ++ v.text) =
        .ok v.argument :=
      v.reads hword ((lead.trim_append v.text).trans v.trim_text)
        (by simp only [List.length_append] at hlength; omega)
    exact readDirectiveWithin_assign name behind lead v.solid hread htext
termination_by structural o

/-- A value is read as the argument it stands for. -/
theorem Val.reads (v : Val) {fuel : Nat} {name : String} {t : List Char}
    (hname : (name == "custom") = false) (ht : trim t = v.text)
    (hfuel : 3 * v.text.length + 3 ≤ fuel) :
    readArgumentWithin fuel name t = .ok v.argument := by
  obtain ⟨fuel, rfl⟩ : ∃ n, fuel = n + 1 := ⟨fuel - 1, by omega⟩
  cases v with
  | integer n => exact readArgumentWithin_integer hname n ht
  | quotation q => exact readArgumentWithin_quotation hname q ht
  | symbol n => exact readArgumentWithin_symbol hname n ht
  | operations first rest =>
    have hsplit : split [",".toList] (commaText (first.text :: operationTexts rest)) =
        .ok (first.text :: operationTexts rest) := by
      refine split_commaText (List.cons_ne_nil _ _) fun s hs => ?_
      rcases List.mem_cons.mp hs with rfl | hs
      · exact first.solid
      · exact solid_operationTexts rest s hs
    refine readArgumentWithin_operations hname hsplit ?_ ht
    have hweight := weight_trim_le (first.text :: operationTexts rest)
    have hlength : (Val.operations first rest).text.length =
        (commaText (first.text :: operationTexts rest)).length + 2 := by
      simp [Val.text, bracketText]
    rw [List.map_cons, weight] at hweight
    obtain ⟨fuel, rfl⟩ : ∃ n, fuel = n + 1 := ⟨fuel - 1, by omega⟩
    have hfirst : readDirectiveWithin fuel "=".toList (trim first.text) = .ok first.directive :=
      first.reads (trim_trim _) (by rw [trim_trim]; omega)
    have hrest : readDirectivesWithin fuel "=".toList ((operationTexts rest).map trim) =
        .ok (directivesOf rest) := reads_operationTexts rest (by omega)
    have hfilter : ((first.text :: operationTexts rest).map trim).filter (!·.isEmpty) =
        trim first.text :: (operationTexts rest).map trim := filter_operationTexts (first :: rest)
    rw [hfilter]
    exact readDirectivesWithin_cons hfirst hrest
  | texts kind first rest =>
    have hread := readEnumSet_commaText Item.trim_text Item.text_ne_nil (readItem_text kind)
      Item.passes first rest
    exact readArgumentWithin_enum hname kind.name_cases hread ht
  | integers first rest =>
    have hread := readEnumSet_commaText Numeral.trim_text Numeral.text_ne_nil readItem_numeral
      Numeral.passes first rest
    exact readArgumentWithin_enum hname (.inr (.inr rfl)) hread ht
termination_by structural v

/-- Operations are read as the directives they stand for. -/
theorem reads_operationTexts (os : List Operation) {fuel : Nat}
    (hfuel : 4 + weight ((operationTexts os).map trim) ≤ fuel) :
    readDirectivesWithin fuel "=".toList ((operationTexts os).map trim) =
      .ok (directivesOf os) := by
  obtain ⟨fuel, rfl⟩ : ∃ n, fuel = n + 1 := ⟨fuel - 1, by omega⟩
  cases os with
  | nil => rfl
  | cons o rest =>
    rw [operationTexts, List.map_cons, weight] at hfuel
    have ho : readDirectiveWithin fuel "=".toList (trim o.text) = .ok o.directive :=
      o.reads (trim_trim _) (by rw [trim_trim]; omega)
    exact readDirectivesWithin_cons ho (reads_operationTexts rest (by omega))
termination_by structural os
end

/-! ### Stages -/

namespace StageForm

variable (s : StageForm)

/-- The operations between the parentheses of the stage. -/
def body : List Char :=
  commaText (s.first.text :: operationTexts s.rest)

theorem solid_parts : ∀ t ∈ s.first.text :: operationTexts s.rest, Solid (· == ',') t :=
  solid_operationTexts (s.first :: s.rest)

theorem body_solid : Solid (fun _ => false) s.body :=
  solid_commaText fun t ht => (s.solid_parts t ht).mono (by simp)

/-- The operations of a stage are read as its directives. -/
theorem readDirectives_body : readDirectives "=".toList s.body = .ok s.directives := by
  have hblank (o : Operation) : allBlank o.text = false :=
    Bool.eq_false_iff.mpr fun h => o.trim_text_ne_nil (trim_eq_nil h)
  have hread (o : Operation) : readDirective "=".toList o.text = .ok o.directive :=
    o.reads rfl (by have := (isInfix_trim o.text).length_le; omega)
  have hall (os : List Operation) :
      ((operationTexts os).filter fun p => !allBlank p).mapM (readDirective "=".toList) =
        .ok (directivesOf os) := by
    induction os with
    | nil => rfl
    | cons o rest ih =>
      rw [operationTexts, List.filter_cons_of_pos (by simp [hblank o]), List.mapM_cons, hread, ih]
      rfl
  rw [readDirectives, body, split_commaText (List.cons_ne_nil _ _) s.solid_parts]
  exact hall (s.first :: s.rest)

theorem core_append (rest : List Char) :
    s.core ++ rest = s.name.text ++ (s.behind.text ++ '(' :: (s.body ++ ')' :: rest)) := by
  rw [core, List.append_assoc, List.append_assoc, List.cons_append, List.append_assoc]
  rfl

/-- A stage is read and added to those before it. -/
theorem readStagesFrom_core (text : List Char) (fuel : Nat) (stages : Stages) (rest : List Char) :
    readStagesFrom text (fuel + 1) stages (s.core ++ rest) =
      readStagesFrom text fuel (stages.add s.title s.directives) rest := by
  rw [core_append]
  exact readStagesFrom_stage s.name.identifier s.behind.blank (s.body_solid.group text rest)
    s.readDirectives_body rfl fuel stages

end StageForm

/-- The stages with those of a rule added one after the other. -/
def addAll (stages : Stages) (ss : List StageForm) : Stages :=
  ss.foldl (fun stages s => stages.add s.title s.directives) stages

theorem addAll_eq (stages : Stages) (ss : List StageForm) :
    addAll stages ss = stages.addAll (ss.map fun s => (s.title, s.directives)) := by
  rw [addAll, Stages.addAll, List.foldl_map]

/-- The text of stages is a sequence of these stages. -/
theorem staged_stages (ss : List StageForm) :
    Staged (ss.flatMap StageForm.text) (ss.map fun s => (s.title, s.directives)) := by
  induction ss with
  | nil => exact .nil
  | cons s ss ih =>
    have hcore := Staged.stage s.name.identifier s.behind.blank
      (fun text rest => s.body_solid.group text rest) s.readDirectives_body rfl ih
    rw [List.flatMap_cons, StageForm.text, List.append_assoc, s.core_append]
    exact (Staged.of_blank s.before.blank).append hcore

/-- The stages of a rule are read one after the other. -/
theorem readStagesFrom_stages (text : List Char) (ss : List StageForm) {fuel : Nat}
    (stages : Stages) (hfuel : (ss.flatMap StageForm.text).length ≤ fuel) :
    readStagesFrom text fuel stages (ss.flatMap StageForm.text) = .ok (addAll stages ss) := by
  rw [addAll_eq]
  exact (staged_stages ss).reads text hfuel stages

/-! ### What the stages hold -/

theorem directives_addAll (stages : Stages) (ss : List StageForm) (name : String) :
    (addAll stages ss).directives name =
      stages.directives name ++
        (ss.filter (·.title == name)).flatMap StageForm.directives := by
  induction ss generalizing stages with
  | nil => exact (List.append_nil _).symm
  | cons s ss ih =>
    rw [addAll, List.foldl_cons, ← addAll, ih, Stages.directives_add, List.filter_cons]
    split <;> simp

/-- The new names stand behind the old ones, each where it comes first. -/
theorem map_fst_addAll (stages : Stages) (ss : List StageForm) :
    (addAll stages ss).map Prod.fst = stages.map Prod.fst ++
      ((ss.map StageForm.title).filter fun n => !(stages.map Prod.fst).contains n).eraseDups := by
  induction ss generalizing stages with
  | nil => exact (List.append_nil _).symm
  | cons s ss ih =>
    rw [addAll, List.foldl_cons, ← addAll, ih, Stages.map_fst_add, List.map_cons, List.filter_cons]
    cases hold : (stages.map Prod.fst).contains s.title with
    | true => rfl
    | false =>
      -- A new name is not counted as new again.
      rw [if_neg Bool.false_ne_true, Bool.not_false, if_pos rfl, List.eraseDups_cons,
        List.filter_filter, List.append_assoc, List.singleton_append]
      congr 3
      refine List.filter_congr fun n _ => ?_
      rw [List.contains_append, Bool.not_or, Bool.and_comm, List.contains_cons, List.contains_nil,
        Bool.or_false]

/-! ### Rules -/

namespace StageForm

variable (s : StageForm)

theorem head?_core : ∀ c ∈ s.core.head?, isBlank c = false := by
  obtain ⟨d, n, hname, hd, -⟩ := s.name.cases
  intro c hc
  rw [core, hname] at hc
  obtain rfl : d = c := Option.some.inj hc
  exact (of_isNameTail (isNameTail_of_isNameHead hd)).2.1

theorem getLast?_core : s.core.getLast? = some ')' := by
  rw [core, ← List.cons_append, ← List.append_assoc, List.getLast?_concat]

end StageForm

namespace RuleForm

variable (r : RuleForm)

/-- The last stage of several closes with a parenthesis. -/
theorem getLast?_stages (s : StageForm) (ss : List StageForm) :
    (s.core ++ ss.flatMap StageForm.text).getLast? = some ')' := by
  induction ss generalizing s with
  | nil => rw [List.flatMap_nil, List.append_nil, s.getLast?_core]
  | cons s' ss ih =>
    rw [List.flatMap_cons, StageForm.text, List.append_assoc, List.getLast?_append,
      List.getLast?_append, ih s']
    rfl

/-- Without the blanks around it, a rule begins with its first stage. -/
theorem trim_text :
    trim r.text = r.first.core ++ r.rest.flatMap StageForm.text := by
  have htext : r.text =
      r.first.before.text ++ (r.first.core ++ r.rest.flatMap StageForm.text) ++ r.after.text := by
    rw [text, stages, List.flatMap_cons, StageForm.text, List.append_assoc r.first.before.text]
  have hparen : isBlank ')' = false := by decide
  rw [htext, trim_pad r.first.before.blank r.after.blank]
  refine trim_eq_self (fun c hc => ?_) fun c hc => ?_
  · obtain ⟨d, n, hname, -⟩ := r.first.name.cases
    refine r.first.head?_core c ?_
    rw [StageForm.core, hname] at hc ⊢
    exact hc
  · rw [getLast?_stages] at hc
    exact Option.some.inj hc ▸ hparen

/-- A rule is read as its stages: each name once, in the order in which the names first occur, and
    with the directives of all stages of the name, in order. -/
theorem readStages_text :
    ∃ stages, readStages r.text = .ok stages ∧
      stages.map Prod.fst = (r.stages.map StageForm.title).eraseDups ∧
      ∀ name, stages.directives name =
        (r.stages.filter (·.title == name)).flatMap StageForm.directives := by
  refine ⟨addAll [] r.stages, ?_, ?_, fun name => ?_⟩
  · have htrim := r.trim_text
    have hne : (trim r.text).isEmpty = false := by
      rw [htrim, StageForm.core]
      simp
    rw [readStages, hne, if_neg Bool.false_ne_true, htrim, StageForm.readStagesFrom_core]
    exact readStagesFrom_stages _ r.rest _ (by simp)
  · rw [map_fst_addAll]
    simp
  · rw [directives_addAll]
    rfl

/-- The trees stand for texts such as this one. -/
example :
    let none : Gap := ⟨[], rfl⟩
    let space : Gap := ⟨[' '], by decide⟩
    let twenty : Numeral := ⟨.none, ['2', '0'], by decide, by decide, by decide⟩
    RuleForm.text
      { first := ⟨none, ⟨"sanitize".toList, by decide⟩, none,
          .bare none ⟨"trim".toList, by decide⟩ none, []⟩
        rest := [⟨space, ⟨"validate".toList, by decide⟩, none,
          .assign none ⟨"max_len".toList, by decide⟩ (by decide) space space (.integer twenty) none,
          []⟩]
        after := none } = "sanitize(trim) validate(max_len = 20)".toList := by
  decide

end RuleForm

end Intake.Rule.Form
