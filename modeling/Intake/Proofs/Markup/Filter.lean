import Intake.Markup.Filter
import Mathlib.Data.List.Induction

/-!
# What a markup filter lets through

The output of a filter that keeps some elements is a sequence of pieces, one for each event: escaped
text, end tags and start tags of elements that are kept, and nothing else (`IsPiece`). An attribute
of a start tag is one that the element may have, its value quoted and escaped (`IsAttribute`). While
more scripts and styles have been opened than closed (`openDropped`), all pieces are empty.

* `isEscaped_encode`, `not_mem_encode`: no character that opens a tag or ends a value is written as
  it is;
* `Filter.isPiece_step`, `Filter.step_of_pos`: the piece of one event;
* `Filter.output_concat`: a further event adds its piece at the end;
* `Filter.output_pieces`: the output for any sequence of events.

Nothing is assumed about the events: they need not be those of any text, so that this holds of
whatever a parser takes a text for.
-/

namespace Intake.Markup

open Intake.Text

/-! ### Pieces -/

/-- Escaped text has no angle brackets, and an ampersand in it begins one of three references. -/
structure IsEscaped (s : List Char) : Prop where
  not_less : '<' ∉ s
  not_greater : '>' ∉ s
  reference : ∀ before rest, s = before ++ '&' :: rest →
    ∃ name ∈ ["amp;", "lt;", "gt;"], name.toList <+: rest

/-- An attribute that an element may have: it is one of its own, no quote or bracket ends its value
    early, and an address in it begins, blanks and case aside, with a safe scheme. -/
inductive IsAttribute (element : String) : List Char → Prop
  | intro (name value : String) : name ∈ allowedAttributes element →
    (∀ c ∈ ['<', '>', '"'], c ∉ Entity.encode true value.toList) →
    (name = "href" ∨ name = "src" →
      ∃ scheme ∈ safeSchemes, scheme.toList <+: lower (trim value.toList)) →
    IsAttribute element
      (" ".toList ++ name.toList ++ "=\"".toList ++ Entity.encode true value.toList ++ "\"".toList)

/-- What a filter may write for an event. -/
inductive IsPiece (f : Filter) : List Char → Prop
  | text {s : List Char} : IsEscaped s → IsPiece f s
  | start {name : String} {attributes : List (List Char)} {closing : String} :
    name ∈ f.allowed → (∀ a ∈ attributes, IsAttribute name a) → closing ∈ ["", " /"] →
    IsPiece f
      ("<".toList ++ name.toList ++ attributes.flatten ++ closing.toList ++ ">".toList)
  | finish {name : String} : name ∈ f.allowed →
    IsPiece f ("</".toList ++ name.toList ++ ">".toList)

theorem isEscaped_nil : IsEscaped [] :=
  ⟨by simp, by simp, fun _ _ h => by simp at h⟩

theorem IsEscaped.append {s t : List Char} (hs : IsEscaped s) (ht : IsEscaped t) :
    IsEscaped (s ++ t) where
  not_less := by simp [hs.not_less, ht.not_less]
  not_greater := by simp [hs.not_greater, ht.not_greater]
  reference before rest h := by
    rcases List.append_eq_append_iff.1 h with ⟨gap, rfl, htail⟩ | ⟨gap, hhead, htail⟩
    · exact ht.reference gap rest htail
    · cases gap with
      | nil => exact ht.reference [] rest (by simpa using htail.symm)
      | cons c gap =>
        -- the ampersand is in the first text, and its reference ends there
        obtain ⟨rfl, rfl⟩ : '&' = c ∧ rest = gap ++ t := by simpa using htail
        obtain ⟨name, hname, hprefix⟩ := hs.reference before gap hhead
        exact ⟨name, hname, hprefix.trans (List.prefix_append gap t)⟩

namespace Entity

/-- The names of the references that are written; those for quotes where quotes count. -/
def references : Bool → List String
  | false => ["amp;", "lt;", "gt;"]
  | true => ["amp;", "lt;", "gt;", "quot;", "#x27;"]

/-- A character is written as itself, or as a reference. -/
theorem encodeChar_cases (quotes : Bool) (c : Char) :
    (encodeChar quotes c = [c] ∧ c ∉ ['&', '<', '>'] ∧ (quotes = true → c ≠ '"')) ∨
      ∃ name ∈ references quotes, encodeChar quotes c = '&' :: name.toList := by
  unfold encodeChar
  split
  · exact .inr ⟨"amp;", by cases quotes <;> decide, rfl⟩
  · exact .inr ⟨"lt;", by cases quotes <;> decide, rfl⟩
  · exact .inr ⟨"gt;", by cases quotes <;> decide, rfl⟩
  · cases quotes with
    | true => exact .inr ⟨"quot;", by decide, rfl⟩
    | false => exact .inl ⟨rfl, by decide, nofun⟩
  · cases quotes with
    | true => exact .inr ⟨"#x27;", by decide, rfl⟩
    | false => exact .inl ⟨rfl, by decide, nofun⟩
  · exact .inl ⟨rfl, by simp_all, fun _ => by simp_all⟩

theorem isEscaped_singleton {c : Char} (hc : c ∉ ['&', '<', '>']) : IsEscaped [c] := by
  simp only [List.mem_cons, List.not_mem_nil, or_false, not_or] at hc
  refine ⟨by simp [Ne.symm hc.2.1], by simp [Ne.symm hc.2.2], fun before rest heq => ?_⟩
  have hmem : '&' ∈ [c] := heq ▸ by simp
  exact absurd (List.mem_singleton.1 hmem).symm hc.1

theorem isEscaped_reference {name : String} (hname : name ∈ references false) :
    IsEscaped ('&' :: name.toList) := by
  have hplain : '<' ∉ name.toList ∧ '>' ∉ name.toList ∧ '&' ∉ name.toList := by
    revert name
    decide
  refine ⟨by simp [hplain], by simp [hplain], fun before rest heq => ⟨name, hname, ?_⟩⟩
  cases before with
  | nil => simp [(List.cons.inj heq).2]
  | cons d before =>
    have hmem : '&' ∈ name.toList := (List.cons.inj heq).2 ▸ by simp
    exact absurd hmem hplain.2.2

/-- Text that is written is escaped. -/
theorem isEscaped_encode (s : List Char) : IsEscaped (encode false s) := by
  induction s with
  | nil => exact isEscaped_nil
  | cons c s ih =>
    refine IsEscaped.append ?_ ih
    rcases encodeChar_cases false c with ⟨h, hc, -⟩ | ⟨name, hname, h⟩
    · exact h ▸ isEscaped_singleton hc
    · exact h ▸ isEscaped_reference hname

/-- Quoted text holds no quotes and no angle brackets. -/
theorem not_mem_encode {c : Char} (hc : c ∈ ['<', '>', '"']) (s : List Char) :
    c ∉ encode true s := by
  intro hmem
  obtain ⟨d, -, hd⟩ := List.mem_flatMap.1 hmem
  rcases encodeChar_cases true d with ⟨h, hplain, hquote⟩ | ⟨name, hname, h⟩
  · obtain rfl : c = d := by simpa [h] using hd
    have := hquote rfl
    simp_all
  · have hnone : ∀ name ∈ references true,
        ('&' :: name.toList).all (fun c => decide (c ∉ ['<', '>', '"'])) = true := by decide
    exact of_decide_eq_true (List.all_eq_true.mp (hnone name hname) c (h ▸ hd)) hc

end Entity

/-! ### The piece of one event -/

theorem isAttribute_writeAttribute {element : String} {a : Attribute}
    (h : keepsAttribute element a = true) : IsAttribute element (writeAttribute a) := by
  obtain ⟨name, _ | value⟩ := a
  · cases h
  · simp only [keepsAttribute, Bool.and_eq_true, Bool.or_eq_true, bne_iff_ne,
      List.contains_iff_mem] at h
    refine .intro name value h.1 (fun c hc => Entity.not_mem_encode hc _) fun haddress => ?_
    have hsafe : isSafeAddress value = true := by
      rcases h.2 with ⟨hhref, hsrc⟩ | hsafe
      · exact absurd haddress (by simp [hhref, hsrc])
      · exact hsafe
    simpa [isSafeAddress, List.isPrefixOf_iff_prefix] using hsafe

/-- The start tag of an element that is kept is a piece. -/
theorem isPiece_writeStart {f : Filter} {name : String} (hname : name ∈ f.allowed)
    (attributes : List Attribute) {closing : String} (hclosing : closing ∈ ["", " /"]) :
    IsPiece f (writeStart name attributes closing) := by
  rw [writeStart, List.flatMap_def]
  refine .start hname (fun a ha => ?_) hclosing
  obtain ⟨kept, hmem, rfl⟩ := List.mem_map.1 ha
  exact isAttribute_writeAttribute (List.mem_filter.1 hmem).2

/-- The number of dropped elements that are open behind an event. -/
def countDropped (n : Nat) : Event → Nat
  | .start name _ => if name ∈ droppedElements then n + 1 else n
  | .finish name => if name ∈ droppedElements then n - 1 else n
  | .closedStart _ _ => n
  | .text _ => n

/-- The number of dropped elements that are open behind events: by how many start tags of scripts
    and styles outnumber their end tags, where end tags in excess do not count. -/
def openDropped (events : List Event) : Nat :=
  events.foldl countDropped 0

namespace Filter

variable (f : Filter)

theorem step_fst (n : Nat) (e : Event) : (f.step n e).1 = countDropped n e := by
  cases e with
  | start name attributes | finish name =>
    simp only [step, countDropped, List.contains_iff_mem]
    split_ifs <;> rfl
  | closedStart name attributes | text s =>
    simp only [step, countDropped]
    split_ifs <;> rfl

/-- While a dropped element is open, nothing is written. -/
theorem step_of_pos {n : Nat} (h : 0 < n) (e : Event) : (f.step n e).2 = [] := by
  have hn : n ≠ 0 := by omega
  cases e <;> simp only [step] <;> split_ifs <;> simp_all

/-- What is written for one event is a piece, behind whatever events. -/
theorem isPiece_step {f : Filter} (hf : f.allowed ≠ []) (n : Nat) (e : Event) :
    IsPiece f (f.step n e).2 := by
  have hnil : IsPiece f [] := .text isEscaped_nil
  cases e with
  | start name attributes =>
    simp only [step, Bool.and_eq_true, List.contains_iff_mem]
    split_ifs with hdropped hkept
    · exact hnil
    · exact isPiece_writeStart hkept.1 attributes (by simp)
    · exact hnil
  | closedStart name attributes =>
    simp only [step, Bool.and_eq_true, List.contains_iff_mem]
    split_ifs with hkept
    · exact isPiece_writeStart hkept.1 attributes (by simp)
    · exact hnil
  | finish name =>
    simp only [step, Bool.and_eq_true, List.contains_iff_mem]
    split_ifs with hdropped hkept
    · exact hnil
    · exact .finish hkept.1
    · exact hnil
  | text s =>
    simp only [step]
    split_ifs with hsilent hplain
    · exact hnil
    · exact absurd (List.isEmpty_iff.1 hplain) hf
    · exact .text (Entity.isEscaped_encode s)

/-! ### The pieces of a run -/

/-- The output of events and then others, which begin where the first ones have left scripts and
    styles open. -/
theorem outputFrom_append (n : Nat) (before after : List Event) :
    f.outputFrom n (before ++ after) =
      f.outputFrom n before ++ f.outputFrom (before.foldl countDropped n) after := by
  induction before generalizing n with
  | nil => rfl
  | cons e before ih =>
    simp only [List.cons_append, outputFrom, List.foldl_cons]
    rw [ih, step_fst, List.append_assoc]

/-- A further event adds its piece at the end. -/
theorem output_concat (before : List Event) (e : Event) :
    f.output (before ++ [e]) = f.output before ++ (f.step (openDropped before) e).2 := by
  rw [output, outputFrom_append, output, openDropped]
  simp [outputFrom]

/-- The output of a filter that keeps some elements consists of pieces, one for each event in its
    order, and those of events behind an open dropped element are empty. -/
theorem output_pieces {f : Filter} (hf : f.allowed ≠ []) (events : List Event) :
    ∃ pieces : List (List Char), pieces.length = events.length ∧ f.output events = pieces.flatten ∧
      ∀ before e after, events = before ++ e :: after →
        ∃ piece, pieces[before.length]? = some piece ∧ IsPiece f piece ∧
          f.output (before ++ [e]) = f.output before ++ piece ∧
          (0 < openDropped before → piece = []) := by
  induction events using List.reverseRecOn with
  | nil => exact ⟨[], rfl, rfl, fun before e after h => by simp at h⟩
  | append_singleton events last ih =>
    obtain ⟨pieces, hlength, hflatten, hpieces⟩ := ih
    refine ⟨pieces ++ [(f.step (openDropped events) last).2], by simp [hlength],
      by simp [output_concat, hflatten], fun before e after hsplit => ?_⟩
    rcases List.eq_nil_or_concat after with rfl | ⟨middle, last', rfl⟩
    · -- the event is the last one
      obtain ⟨rfl, rfl⟩ : events = before ∧ last = e := by simpa using hsplit
      refine ⟨_, ?_, isPiece_step hf _ last, output_concat f events last,
        fun hopen => step_of_pos f hopen last⟩
      simp [← hlength]
    · rw [List.concat_eq_append, ← List.cons_append, ← List.append_assoc] at hsplit
      have hevents : events = before ++ e :: middle := (List.append_inj' hsplit rfl).1
      obtain ⟨piece, hpiece, hrest⟩ := hpieces before e middle hevents
      refine ⟨piece, ?_, hrest⟩
      rw [List.getElem?_append_left, hpiece]
      exact (List.getElem?_eq_some_iff.1 hpiece).1

/-- A link, an angle bracket and a script. -/
def linkAndScript : List Event :=
  [.start "a" [("href", some "/\"")], .text ['<'], .start "script" [], .text ['x']]

theorem basicHtml_output_pieces :
    basicHtml.allowed ≠ [] ∧
      ∃ pieces : List (List Char), pieces.length = linkAndScript.length ∧
        basicHtml.output linkAndScript = pieces.flatten ∧
        ∀ before e after, linkAndScript = before ++ e :: after →
          ∃ piece, pieces[before.length]? = some piece ∧ IsPiece basicHtml piece ∧
            basicHtml.output (before ++ [e]) = basicHtml.output before ++ piece ∧
            (0 < openDropped before → piece = []) :=
  have h : basicHtml.allowed ≠ [] := by decide
  ⟨h, output_pieces h linkAndScript⟩

/-- The quote in the address is written as a reference, the text of the script not at all. -/
example : basicHtml.output linkAndScript = "<a href=\"/&quot;\">&lt;".toList := by
  decide

end Filter

end Intake.Markup
