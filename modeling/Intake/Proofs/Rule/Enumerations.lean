import Intake.Proofs.Rule.Words

/-!
# Parts between commas

Solid parts with commas between them are found again, and so are the items of enumerations, where
further separators count: a word holds none of them, and blanks or a comma behind a word do not make
one with its end. Enumerations of texts and of integers are read item by item, and references to
functions name by name.

* `split_commaText`: solid parts between commas are the pieces of their text;
* `Item.passes`, `Numeral.passes`: items and integers, with blanks around them, pass the separators
  of enumerations;
* `readEnumSet_commaText`: an enumeration is read if each of its items is;
* `readFunctionRef_text`: a reference to a function is read, with its modules and its name.
-/

namespace Intake.Rule.Form

open Intake.Text

/-! ### Parts between commas -/

theorem comma_isMark : IsMark [",".toList] ',' :=
  ⟨rfl, fun rest => by simp [separatorAt?]⟩

/-- Solid parts with commas between them are found again. -/
theorem split_commaText {parts : List (List Char)} (hne : parts ≠ [])
    (h : ∀ s ∈ parts, Solid (· == ',') s) : split [",".toList] (commaText parts) = .ok parts := by
  refine split_intercalate comma_isMark hne fun s hs => (h s hs).passes fun c hc rest => ?_
  have hc : c ≠ ',' := by simpa using hc
  simp [separatorAt?, hc.symm]

/-- Solid parts are solid together where commas do not count. -/
theorem solid_commaText {parts : List (List Char)}
    (h : ∀ s ∈ parts, Solid (fun _ => false) s) : Solid (fun _ => false) (commaText parts) := by
  have hcomma : Solid (fun _ => false) [','] := .plain (by decide) .nil
  induction parts with
  | nil => exact .nil
  | cons s parts ih =>
    have hs := h s List.mem_cons_self
    cases parts with
    | nil =>
      rw [commaText, List.intercalate_singleton]
      exact hs
    | cons s' parts =>
      rw [commaText, List.intercalate_cons_cons]
      exact (hs.append hcomma).append (ih fun x hx => h x (List.mem_cons_of_mem s hx))

theorem solid_bracketText {mark : Char → Bool} {parts : List (List Char)}
    (h : ∀ s ∈ parts, Solid (fun _ => false) s) : Solid mark (bracketText parts) :=
  .bracketed (by decide) (by decide) (solid_commaText h) .nil

theorem getLast?_bracketText (parts : List (List Char)) :
    (bracketText parts).getLast? = some ']' := by
  rw [bracketText, ← List.cons_append, List.getLast?_concat]

theorem inner_bracketText (parts : List (List Char)) :
    inner (bracketText parts) = commaText parts := by
  rw [inner, bracketText, List.drop_one, List.tail_cons, List.dropLast_concat]

/-! ### Enumerations -/

/-- The characters that the separators of items begin with. -/
def isItemMark (c : Char) : Bool :=
  c == ',' || c == ':' || c == '>'

/-- No separator of items begins where no comma stands and no mark is doubled. -/
theorem separatorAt?_item {c : Char} {rest : List Char} (hcomma : c ≠ ',')
    (hcolon : c = ':' → rest.head? ≠ some ':') (harrow : c = '>' → rest.head? ≠ some '>') :
    separatorAt? enumSeparators (c :: rest) = none := by
  have hpair {m : Char} (h : c = m → rest.head? ≠ some m) :
      [m, m].isPrefixOf (c :: rest) = false := by
    rw [Bool.eq_false_iff]
    intro hprefix
    obtain ⟨more, hmore⟩ := List.isPrefixOf_iff_prefix.mp hprefix
    obtain ⟨rfl, rfl⟩ := List.cons.inj hmore
    exact h rfl rfl
  have hcolons : "::".toList.isPrefixOf (c :: rest) = false := hpair hcolon
  have harrows : ">>".toList.isPrefixOf (c :: rest) = false := hpair harrow
  have hcommas : ",".toList.isPrefixOf (c :: rest) = false := by
    rw [Bool.eq_false_iff]
    intro hprefix
    obtain ⟨more, hmore⟩ := List.isPrefixOf_iff_prefix.mp hprefix
    exact hcomma (List.cons.inj hmore).1.symm
  simp only [separatorAt?, enumSeparators, List.find?_cons, hcolons, hcommas, harrows,
    List.find?_nil]
  rfl

theorem item_isMark : IsMark enumSeparators ',' :=
  ⟨rfl, fun rest => by simp [separatorAt?, enumSeparators, List.find?]⟩

theorem solid_item {s : List Char} (h : ∀ c ∈ s, isPlain isDivider c = true ∧ c ≠ ':' ∧ c ≠ '>') :
    Solid isItemMark s := by
  refine .of_plain fun c hc => ?_
  obtain ⟨hplain, hcolon, harrow⟩ := h c hc
  simp only [isPlain, isDivider, isItemMark, Bool.and_eq_true, Bool.not_eq_true',
    Bool.or_eq_false_iff, beq_eq_false_iff_ne] at hplain ⊢
  exact ⟨hplain.1, ⟨hplain.2.1, hcolon⟩, harrow⟩

theorem Gap.solid_item (g : Gap) : Solid isItemMark g.text := by
  have hmarks : isBlank ':' = false ∧ isBlank '>' = false := by decide
  refine Form.solid_item fun c hc => ?_
  have hblank := List.all_eq_true.mp g.blank c hc
  refine ⟨plain_of_isBlank hblank, ?_, ?_⟩
  · rintro rfl
    exact Bool.false_ne_true (hmarks.1.symm.trans hblank)
  · rintro rfl
    exact Bool.false_ne_true (hmarks.2.symm.trans hblank)

/-- What begins behind a word does not lengthen a mark at its end. -/
def Fresh (rest : List Char) : Prop :=
  rest.head? ≠ some ':' ∧ rest.head? ≠ some '>'

/-- A word is read on up to its end. -/
theorem splitFrom_word {text s rest p : List Char} {ps : List (List Char)}
    (hplain : ∀ c ∈ s, isQuote c = false ∧ isOpening c = false ∧ isClosing c = false ∧ c ≠ ',')
    (hcolons : ¬ [':', ':'] <:+: s) (harrows : ¬ ['>', '>'] <:+: s) (hrest : Fresh rest)
    (h : splitFrom text enumSeparators .outside 0 rest = .ok (p :: ps)) :
    splitFrom text enumSeparators .outside 0 (s ++ rest) = .ok ((s ++ p) :: ps) := by
  induction s with
  | nil => exact h
  | cons c s ih =>
    have hs (m : Char) (hm : ¬ [m, m] <:+: c :: s) (hfresh : rest.head? ≠ some m) :
        c = m → (s ++ rest).head? ≠ some m := by
      rintro rfl hhead
      cases s with
      | nil => exact hfresh hhead
      | cons d s =>
        obtain rfl : d = c := Option.some.inj hhead
        exact hm (List.prefix_append [d, d] s).isInfix
    have htail {m : Char} (hm : ¬ [m, m] <:+: c :: s) : ¬ [m, m] <:+: s :=
      fun h => hm (h.trans (List.suffix_cons c s).isInfix)
    obtain ⟨hquote, hopen, hclose, hcomma⟩ := hplain c List.mem_cons_self
    have hstep : Scan.outside.step c = some .outside := by
      simp [Scan.step, Scan.outside, hquote, hopen, hclose]
    refine splitFrom_step hstep
      (.inr (separatorAt?_item hcomma (hs ':' hcolons hrest.1) (hs '>' harrows hrest.2))) ?_
    exact ih (fun d hd => hplain d (List.mem_cons_of_mem c hd)) (htail hcolons) (htail harrows)

/-- A text that is solid for the marks of items is read on. -/
theorem splitFrom_solid_item {text s rest p : List Char} {ps : List (List Char)}
    (hs : Solid isItemMark s)
    (h : splitFrom text enumSeparators .outside 0 rest = .ok (p :: ps)) :
    splitFrom text enumSeparators .outside 0 (s ++ rest) = .ok ((s ++ p) :: ps) := by
  refine hs.splitFrom (.inr fun c hc rest => ?_) h
  simp only [isItemMark, Bool.or_eq_false_iff, beq_eq_false_iff_ne] at hc
  exact separatorAt?_item hc.1.1 (fun h => absurd h hc.1.2) (fun h => absurd h hc.2)

theorem Gap.fresh (g : Gap) {rest : List Char} (h : Fresh rest) : Fresh (g.text ++ rest) := by
  have hmarks : isBlank ':' = false ∧ isBlank '>' = false := by decide
  cases htext : g.text with
  | nil => exact h
  | cons c s =>
    have hblank : isBlank c = true :=
      List.all_eq_true.mp g.blank c (htext ▸ List.mem_cons_self)
    constructor
    · rintro ⟨⟩
      exact Bool.false_ne_true (hmarks.1.symm.trans hblank)
    · rintro ⟨⟩
      exact Bool.false_ne_true (hmarks.2.symm.trans hblank)

theorem Item.trim_text (i : Item) : trim i.text = i.text := by
  cases i with
  | word w => exact w.trimmed
  | quotation q => exact q.trim_text

theorem Item.solid (i : Item) : Solid (fun _ => false) i.text := by
  cases i with
  | word w =>
    refine .of_plain fun c hc => ?_
    obtain ⟨hquote, hopen, hclose, -⟩ := w.plain c hc
    simp [isPlain, hquote, hopen, hclose]
  | quotation q => exact q.solid

/-- An item with its blanks is read up to its end. -/
theorem Item.passes (p : Padded Item) : Passes enumSeparators ',' (p.text Item.text) := by
  rintro text rest piece pieces hrest h
  have hfresh : Fresh rest := by
    rcases hrest with rfl | ⟨r, rfl⟩ <;> exact ⟨by simp, by simp⟩
  obtain ⟨before, item, after⟩ := p
  rw [Padded.text, pad, List.append_assoc, List.append_assoc, List.append_assoc, List.append_assoc]
  refine splitFrom_solid_item before.solid_item ?_
  have hafter : splitFrom text enumSeparators .outside 0 (after.text ++ rest) =
      .ok ((after.text ++ piece) :: pieces) := splitFrom_solid_item after.solid_item h
  cases item with
  | word w => exact splitFrom_word w.plain w.noColons w.noArrows (after.fresh hfresh) hafter
  | quotation q => exact splitFrom_solid_item q.solid hafter

theorem Numeral.passes (p : Padded Numeral) : Passes enumSeparators ',' (p.text Numeral.text) := by
  rintro text rest piece pieces - h
  obtain ⟨before, n, after⟩ := p
  have hn : Solid isItemMark n.text := by
    refine solid_item fun c hc => ⟨(n.plain c hc).1, ?_, ?_⟩
    · rintro rfl
      rcases n.mem_text hc with h | h | h
      · have := toNat_of_isDecimalDigit h
        simp at this
      · cases h
      · cases h
    · rintro rfl
      rcases n.mem_text hc with h | h | h
      · have := toNat_of_isDecimalDigit h
        simp at this
      · cases h
      · cases h
  exact splitFrom_solid_item ((before.solid_item.append hn).append after.solid_item) h

theorem trimmedPieces_eq {separators : List (List Char)} {s : List Char}
    {parts : List (List Char)} (h : split separators s = .ok parts) :
    trimmedPieces separators s = .ok (parts.map trim) := by
  rw [trimmedPieces, h]
  rfl

section Enumerations

variable {α : Type} {kind : String} {text : α → List Char} {value : α → Value}

/-- Items that are read one by one are read together. -/
theorem readItems_map (hne : ∀ a, text a ≠ [])
    (hread : ∀ a, readItem kind (text a) = .ok [value a]) (as : List α) :
    readItems kind (as.map text) = .ok (as.map value) := by
  induction as with
  | nil => rfl
  | cons a as ih =>
    have hempty : (text a).isEmpty = false := List.isEmpty_eq_false_iff.mpr (hne a)
    rw [List.map_cons, readItems, hempty, hread, ih]
    rfl

/-- Items with blanks around them and commas between them are read as an enumeration. -/
theorem readEnumSet_commaText (htrim : ∀ a, trim (text a) = text a) (hne : ∀ a, text a ≠ [])
    (hread : ∀ a, readItem kind (text a) = .ok [value a])
    (hpasses : ∀ p : Padded α, Passes enumSeparators ',' (p.text text)) (first : Padded α)
    (rest : List (Padded α)) :
    readEnumSet kind (commaText ((first :: rest).map (Padded.text text))) =
      .ok ⟨kind, (first :: rest).map fun p => value p.content⟩ := by
  have hsplit : split enumSeparators (commaText ((first :: rest).map (Padded.text text))) =
      .ok ((first :: rest).map (Padded.text text)) := by
    refine split_intercalate item_isMark (by simp) fun s hs => ?_
    obtain ⟨p, -, rfl⟩ := List.mem_map.mp hs
    exact hpasses p
  have htexts : ((first :: rest).map (Padded.text text)).map trim =
      ((first :: rest).map Padded.content).map text := by
    rw [List.map_map, List.map_map]
    exact List.map_congr_left fun p _ => (trim_padText p.before _ p.after).trans (htrim p.content)
  have hall : (((first :: rest).map Padded.content).map text).all (·.isEmpty) = false := by
    simp [hne first.content]
  rw [readEnumSet, trimmedPieces_eq hsplit, htexts]
  simp only [bind, Except.bind, hall, readItems_map hne hread]
  rw [List.map_map]
  rfl

end Enumerations

/-- A word stands for itself. -/
theorem Word.unquote_text (w : Word) : unquote w.text = w.text := by
  unfold unquote
  split
  · next c d s heq =>
    have hquote := (w.plain c (heq ▸ List.mem_cons_self)).1
    simp [hquote]
  · rfl

theorem Item.text_ne_nil (i : Item) : i.text ≠ [] := by
  cases i with
  | word w => exact w.nonempty
  | quotation q => exact List.cons_ne_nil _ _

theorem readItem_text (kind : TextKind) (i : Item) :
    readItem kind.name i.text = .ok [i.value] := by
  have hunquote : Value.text (String.ofList (unquote i.text)) = i.value := by
    cases i with
    | word w => rw [Item.text, w.unquote_text, Item.value]
    | quotation q => rw [Item.text, q.unquote_text, Item.value]
  rw [← hunquote]
  cases kind <;> rfl

theorem Numeral.text_ne_nil (n : Numeral) : n.text ≠ [] := by
  simp [text, n.nonempty]

theorem readItem_numeral (n : Numeral) : readItem "Integer" n.text = .ok [.int n.value] := by
  have hread : readItem "Integer" n.text =
      if isInteger n.text then (readInteger n.text).map fun m => [.int m]
      else .error (.malformed (.notInteger n.text)) := rfl
  rw [hread, n.isInteger_text, n.readInteger_text]
  rfl

/-! ### References to functions -/

theorem DottedName.solid_pad (p : Padded DottedName) :
    Solid (· == ',') (p.text DottedName.text) := by
  have hcomma (c : Char) (h : (c == ',') = true) : isDivider c = true := by
    rw [isDivider, h, Bool.true_or]
  exact Form.solid_pad hcomma _ (p.content.solid.mono hcomma) _

theorem DottedName.isDotted_text (n : DottedName) : isDotted (dropFinalBreak n.text) = true := by
  rw [n.dropFinalBreak_text]
  exact n.dotted

/-- Names in brackets are found again. -/
theorem trimmedPieces_names (ps : List (Padded DottedName)) (hne : ps ≠ []) :
    trimmedPieces [",".toList] (inner (bracketText (ps.map (Padded.text DottedName.text)))) =
      .ok (ps.map fun p => p.content.text) := by
  have hsolid : ∀ s ∈ ps.map (Padded.text DottedName.text), Solid (· == ',') s := by
    intro s hs
    obtain ⟨p, -, rfl⟩ := List.mem_map.mp hs
    exact DottedName.solid_pad p
  rw [inner_bracketText, trimmedPieces_eq (split_commaText (by simpa using hne) hsolid),
    List.map_map]
  congr 1
  exact List.map_congr_left fun p _ =>
    (trim_padText p.before _ p.after).trans p.content.trim_text

/-- A reference is read as the function it stands for. -/
theorem readFunctionRef_text (f : FunctionForm) : readFunctionRef f.text = .ok f.reference := by
  have hbracket (parts : List (List Char)) : ((bracketText parts).head? == some '[') = true := rfl
  cases f with
  | plain name =>
    obtain ⟨c, s, htext, hc, -⟩ := name.cases
    have hhead : (name.text.head? == some '[') = false := by
      rw [htext]
      simp [(of_isNameHead hc).2.2.2]
    simp only [readFunctionRef, FunctionForm.text, hhead, pure_bind, List.map_cons, List.map_nil,
      name.isDotted_text]
    rfl
  | bracketed name =>
    have hpieces := trimmedPieces_names [name] (List.cons_ne_nil _ _)
    simp only [List.map_cons, List.map_nil] at hpieces
    simp only [readFunctionRef, FunctionForm.text, hbracket, hpieces, bind, Except.bind,
      List.map_cons, List.map_nil, name.content.isDotted_text]
    rfl
  | qualified scope name =>
    have hpieces := trimmedPieces_names [scope, name] (List.cons_ne_nil _ _)
    simp only [List.map_cons, List.map_nil] at hpieces
    simp only [readFunctionRef, FunctionForm.text, hbracket, hpieces, bind, Except.bind,
      List.map_cons, List.map_nil, name.content.isDotted_text, scope.content.isDotted_text]
    rfl

end Intake.Rule.Form
