import Intake.Proofs.Number
import Intake.Proofs.Rule.Brackets
import Intake.Proofs.Rule.Rereading

/-!
# Brackets of accepted rules

The brackets of an accepted rule are balanced, and they are nested but for some values
(`nested_of_readStages`). The readers count brackets of all kinds alike, so that kinds are matched
only where a reader asks for a bracket of its own: the parentheses of a stage, the brackets of a
list of directives or of an enumeration. Nothing is asked of the items of an enumeration of texts or
maps, nor of a value between quotes that are not the only ones in it; and any closing bracket ends
the reference to a function (`LooseValue`).
-/

namespace Intake.Rule

open Intake.Text

/-! ### What is left out of account -/

/-- The value of a directive in which brackets are counted, whatever their kinds. -/
inductive LooseValue (name : List Char) : List Char → Prop
  | reference {content : List Char} {c : Char} :
    name = "custom".toList → (∀ d ∈ content, isBare d = true) → isClosing c = true →
    LooseValue name ('[' :: (content ++ [c]))
  | quotation {q : Char} {content : List Char} :
    isQuote q = true → Balanced (q :: (content ++ [q])) →
    LooseValue name (q :: (content ++ [q]))
  | enumeration {kind : String} {body : List Char} :
    kind ∈ ["String", "Atom", "Map"] → Balanced body →
    LooseValue name (kind.toList ++ '[' :: (body ++ [']']))

/-- A directive with such a value. -/
inductive Loose : List Char → Prop
  | assignment {name gap lead value : List Char} :
    isIdentifier name = true → allBlank gap = true → allBlank lead = true →
    LooseValue name value → Loose (name ++ (gap ++ '=' :: (lead ++ value)))

/-! ### Texts without brackets -/

theorem isBare_of_isIdentifier {s : List Char} (h : isIdentifier s = true) :
    ∀ c ∈ s, isBare c = true := by
  obtain ⟨-, -, -, -, hall⟩ := Form.Name.cases ⟨s, h⟩
  exact fun c hc => isBare_of_isPlain (Form.of_isNameTail (hall c hc)).1

theorem isBare_of_isDotted {s : List Char} (h : isDotted s = true) : ∀ c ∈ s, isBare c = true :=
  fun c hc => isBare_of_isPlain (Form.DottedName.plain ⟨s, h⟩ c hc).1

/-- A line break at the end is no bracket either. -/
theorem isBare_of_dropFinalBreak {s : List Char} (h : isDotted (dropFinalBreak s) = true) :
    ∀ c ∈ s, isBare c = true := by
  intro c hc
  have hdotted := isBare_of_isDotted h
  rw [dropFinalBreak] at hdotted
  split at hdotted
  · next hlast =>
    obtain ⟨t, rfl⟩ := List.getLast?_eq_some_iff.mp hlast
    rw [List.dropLast_concat] at hdotted
    rcases List.mem_append.mp hc with hc | hc
    · exact hdotted c hc
    · rw [List.mem_singleton.mp hc]
      decide
  · exact hdotted c hc

theorem isBare_of_isInteger {s : List Char} (h : isInteger s = true) :
    ∀ c ∈ s, isBare c = true := by
  intro c hc
  simp only [isInteger, Bool.and_eq_true, List.all_eq_true] at h
  rcases Number.mem_takeSign hc with rfl | rfl | hc
  · decide
  · decide
  · exact isBare_of_isPlain (Form.plain_of_isDecimalDigit (h.2 c hc))

/-- A text that is read as a binary64 number has no brackets. -/
theorem isBare_of_readBinary64? {s : List Char} {x : Number.Binary64}
    (h : Number.readBinary64? s = some x) : ∀ c ∈ s, isBare c = true := by
  intro c hc
  have hdecimal := Number.isDecimalChar_of_readBinary64? h c hc
  by_contra hbare
  have hmark : c ∈ ['\'', '"', '(', '[', '{', ')', ']', '}'] := by
    rw [Bool.not_eq_true, isBare, isQuote, isOpening, isClosing] at hbare
    simp only [List.mem_cons, List.not_mem_nil, or_false]
    grind
  have hall : ['\'', '"', '(', '[', '{', ')', ']', '}'].all
      (fun c => !Number.isDecimalChar (Number.numberChar c)) = true := by decide
  have hnot : Number.isDecimalChar (Number.numberChar c) = false :=
    (Bool.not_eq_true' _).mp (List.all_eq_true.mp hall c hmark)
  rw [hnot] at hdecimal
  cases hdecimal

theorem isBare_of_trim {s : List Char} (h : ∀ c ∈ trim s, isBare c = true) :
    ∀ c ∈ s, isBare c = true := by
  obtain ⟨a, b, ha, hb, hs⟩ := exists_trim s
  intro c hc
  rw [hs, List.mem_append, List.mem_append] at hc
  rcases hc with (hc | hc) | hc
  · exact isBare_of_isBlank (List.all_eq_true.mp ha c hc)
  · exact h c hc
  · exact isBare_of_isBlank (List.all_eq_true.mp hb c hc)

/-- A text whose pieces have no brackets has none. -/
theorem isBare_of_pieces {separators pieces : List (List Char)} {s : List Char}
    (hseparators : ∀ x ∈ separators, x.all isBare = true)
    (h : trimmedPieces separators s = .ok pieces)
    (hpieces : ∀ p ∈ pieces, ∀ c ∈ p, isBare c = true) : ∀ c ∈ s, isBare c = true := by
  obtain ⟨parts, hsplit, rfl⟩ := map_eq_ok.mp h
  obtain ⟨-, hjoined⟩ := joined_of_split (mapError_eq_ok.mp hsplit)
  refine hjoined.induct (fun a b ha hb c hc => ?_)
    (fun x hx => List.all_eq_true.mp (hseparators x hx)) fun p hp => ?_
  · exact (List.mem_append.mp hc).elim (ha c) (hb c)
  · exact isBare_of_trim (hpieces (trim p) (List.mem_map_of_mem hp))

/-! ### Values -/

/-- The parts of a reference that are marked as names are names. -/
theorem isDotted_of_map_eq {parts : List (List Char)} {marked : List (Bool × String)}
    (h : parts.map (fun p => (isDotted (dropFinalBreak p), String.ofList p)) = marked)
    (hmarked : ∀ m ∈ marked, m.1 = true) : ∀ p ∈ parts, isDotted (dropFinalBreak p) = true := by
  intro p hp
  have hmem : (isDotted (dropFinalBreak p), String.ofList p) ∈ marked := by
    rw [← h]
    exact List.mem_map_of_mem hp
  exact hmarked _ hmem

/-- A reference in brackets holds names; any other is a name. -/
theorem isBare_of_readFunctionRef {s : List Char} {f : FunctionRef}
    (h : readFunctionRef s = .ok f) :
    if s.head? == some '[' then ∀ c ∈ inner s, isBare c = true else ∀ c ∈ s, isBare c = true := by
  rw [readFunctionRef] at h
  split
  · next hopen =>
    rw [if_pos hopen] at h
    obtain ⟨parts, hparts, h⟩ := bind_eq_ok.mp h
    refine isBare_of_pieces (by decide) hparts fun p hp => ?_
    dsimp only at h
    split at h
    · next heq => exact isBare_of_dropFinalBreak (isDotted_of_map_eq heq (by simp) p hp)
    · next heq => exact isBare_of_dropFinalBreak (isDotted_of_map_eq heq (by simp) p hp)
    · cases h
  · next hopen =>
    rw [if_neg hopen] at h
    obtain ⟨parts, hparts, h⟩ := bind_eq_ok.mp h
    cases hparts
    dsimp only at h
    split at h
    · next heq =>
      exact isBare_of_dropFinalBreak (isDotted_of_map_eq heq (by simp) s List.mem_cons_self)
    · next heq =>
      exact isBare_of_dropFinalBreak (isDotted_of_map_eq heq (by simp) s List.mem_cons_self)
    · cases h

/-- A reference to a function has no brackets, or these are around names, and a closing bracket of
    some kind ends it. -/
theorem brackets_of_readFunctionRef {s : List Char} {f : FunctionRef} (hs : Balanced s)
    (h : readFunctionRef s = .ok f) :
    (∀ c ∈ s, isBare c = true) ∨ ∃ content c, s = '[' :: (content ++ [c]) ∧
      (∀ d ∈ content, isBare d = true) ∧ isClosing c = true := by
  have hbare := isBare_of_readFunctionRef h
  split at hbare
  · next hopen =>
    right
    obtain ⟨rest, rfl⟩ : ∃ rest, s = '[' :: rest := List.head?_eq_some_iff.mp (eq_of_beq hopen)
    cases hlast : rest.getLast? with
    | none =>
      rw [List.getLast?_eq_none_iff.mp hlast] at hs
      exact absurd hs (by decide)
    | some c =>
      obtain ⟨content, rfl⟩ := List.getLast?_eq_some_iff.mp hlast
      have hcontent : ∀ d ∈ content, isBare d = true := by simpa [inner] using hbare
      refine ⟨content, c, rfl, hcontent, ?_⟩
      -- the bracket that is open is closed by the last character
      have hend : (⟨1, none⟩ : Scan).step c = some .outside := by
        rw [Balanced, Scan.outside, Scan.run_cons, Scan.step_of_isOpening 0 rfl, Option.bind_some,
          Scan.run_append, Scan.run_of_isBare _ hcontent, Option.bind_some, Scan.run_cons] at hs
        obtain ⟨scan, hstep, hscan⟩ := Option.bind_eq_some_iff.mp hs
        rw [Nat.zero_add] at hstep
        exact hstep.trans hscan
      rcases Scan.step_cases hend with ⟨-, heq⟩ | ⟨-, heq⟩ | ⟨hc, -⟩ | ⟨-, heq⟩
      · cases heq
      · cases heq
      · exact hc
      · cases heq
  · exact .inl hbare

/-- The items of an enumeration of numbers have no brackets. -/
theorem isBare_of_readItems {kind : String} (hkind : kind = "Integer" ∨ kind = "Float")
    {pieces : List (List Char)} {items : List Value} (h : readItems kind pieces = .ok items) :
    ∀ p ∈ pieces, ∀ c ∈ p, isBare c = true := by
  induction pieces generalizing items with
  | nil => simp
  | cons s rest ih =>
    rw [readItems] at h
    split at h
    · cases h
    obtain ⟨item, hitem, h⟩ := bind_eq_ok.mp h
    obtain ⟨more, hmore, -⟩ := bind_eq_ok.mp h
    have hs : ∀ c ∈ s, isBare c = true := by
      rcases hkind with rfl | rfl
      · simp only [readItem] at hitem
        split at hitem
        · next hinteger => exact isBare_of_isInteger hinteger
        · cases hitem
      · simp only [readItem] at hitem
        split at hitem
        · next hnumber => exact isBare_of_readBinary64? hnumber
        · cases hitem
    intro p hp
    rcases List.mem_cons.mp hp with rfl | hp
    · exact hs
    · exact ih hmore p hp

theorem brackets_of_readEnumSet {kind : String} {body : List Char} {e : EnumSet}
    (hkind : kind ∈ EnumSet.kinds) (h : readEnumSet kind body = .ok e) :
    (kind ∈ ["String", "Atom", "Map"] ∧ Balanced body) ∨ ∀ c ∈ body, isBare c = true := by
  obtain ⟨pieces, hpieces, h⟩ := bind_eq_ok.mp h
  dsimp only at h
  split at h
  · cases h
  obtain ⟨items, hitems, -⟩ := bind_eq_ok.mp h
  obtain ⟨parts, hsplit, -⟩ := map_eq_ok.mp hpieces
  obtain ⟨hbalanced, hjoined⟩ := joined_of_split (mapError_eq_ok.mp hsplit)
  have hcases : kind ∈ ["String", "Atom", "Map"] ∨ kind = "Integer" ∨ kind = "Float" := by
    simp only [EnumSet.kinds, List.mem_cons, List.not_mem_nil, or_false] at hkind ⊢
    grind
  rcases hcases with htexts | hnumbers
  · exact .inl ⟨htexts, hjoined.induct (fun _ _ => Balanced.append) (by decide) hbalanced⟩
  · exact .inr (isBare_of_pieces (by decide) hpieces (isBare_of_readItems hnumbers hitems))

/-- An enumeration is its kind and its items in brackets. -/
theorem enumShape?_eq_some {s : List Char} {kind : String} {body : List Char}
    (h : enumShape? s = some (kind, body)) :
    kind ∈ EnumSet.kinds ∧ s = kind.toList ++ '[' :: (body ++ [']']) := by
  rw [enumShape?] at h
  split at h
  · next before behind hcut =>
    obtain ⟨rfl, -⟩ := cutAt_eq_some hcut
    dsimp only at h
    split at h
    · next hshape =>
      cases h
      simp only [Bool.and_eq_true, List.contains_iff_mem, beq_iff_eq] at hshape
      obtain ⟨t, rfl⟩ := List.getLast?_eq_some_iff.mp hshape.2
      exact ⟨hshape.1, by rw [String.toList_ofList, List.dropLast_concat]⟩
    · cases h
  · cases h

/-! ### Directives -/

/-- A text is its inner part between its first and its last character. -/
theorem eq_inner_of_getLast? {c d : Char} {rest : List Char} (hrest : rest ≠ [])
    (hlast : (c :: rest).getLast? = some d) : c :: rest = c :: (inner (c :: rest) ++ [d]) := by
  obtain ⟨content, e, rfl⟩ := List.eq_nil_or_concat rest |>.resolve_left hrest
  rw [List.concat_eq_append] at hlast ⊢
  rw [← List.cons_append, List.getLast?_concat, Option.some.injEq] at hlast
  simp [inner, hlast]

/-- What a value is read as says how it is written. -/
theorem argument_cases {fuel : Nat} {name : String} {text : List Char} {a : Argument}
    (h : readArgumentWithin (fuel + 1) name text = .ok a) :
    (name = "custom" ∧ ∃ f, readFunctionRef (trim text) = .ok f) ∨
      (∃ q content, isQuote q = true ∧ trim text = q :: (content ++ [q])) ∨
      isInteger (trim text) = true ∨
      (∃ body pieces ds, trim text = '[' :: (body ++ [']']) ∧
        trimmedPieces [",".toList] body = .ok pieces ∧
        readDirectivesWithin fuel "=".toList (pieces.filter (!·.isEmpty)) = .ok ds) ∨
      (∃ kind body e, enumShape? (trim text) = some (kind, body) ∧ readEnumSet kind body = .ok e) ∨
      isDotted (trim text) = true := by
  rw [readArgumentWithin] at h
  generalize trim text = s at h ⊢
  cases s with
  | nil => cases h
  | cons c rest =>
    dsimp only at h
    split at h
    · next hcustom =>
      obtain ⟨f, hf, -⟩ := bind_eq_ok.mp h
      exact .inl ⟨eq_of_beq hcustom, f, hf⟩
    split at h
    · next hquote =>
      split at h
      · cases h
      · next hclosed =>
        simp only [Bool.or_eq_true, List.isEmpty_iff, bne_iff_ne, not_or,
          Decidable.not_not] at hclosed
        exact .inr (.inl ⟨c, _, hquote, eq_inner_of_getLast? hclosed.1 hclosed.2⟩)
    split at h
    · next hinteger => exact .inr (.inr (.inl hinteger))
    split at h
    · next hlist =>
      simp only [Bool.and_eq_true, beq_iff_eq] at hlist
      obtain ⟨rfl, hlast⟩ := hlist
      obtain ⟨pieces, hpieces, h⟩ := bind_eq_ok.mp h
      obtain ⟨ds, hds, -⟩ := bind_eq_ok.mp h
      have hrest : rest ≠ [] := by
        rintro rfl
        cases hlast
      exact .inr (.inr (.inr (.inl
        ⟨_, pieces, ds, eq_inner_of_getLast? hrest hlast, hpieces, hds⟩)))
    split at h
    · next kind body hshape =>
      obtain ⟨e, he, -⟩ := bind_eq_ok.mp h
      exact .inr (.inr (.inr (.inr (.inl ⟨kind, body, e, hshape, he⟩))))
    · split at h
      · next hdotted => exact .inr (.inr (.inr (.inr (.inr hdotted))))
      · cases h

/-- The text of a value: its brackets are nested, or it is one of the values left out of account. -/
def NestedValue (name : String) (s : List Char) : Prop :=
  Nested Loose s ∨ LooseValue name.toList s

/-- Nested brackets in nested brackets. -/
theorem nested_brackets {body : List Char} (h : Nested Loose body) :
    Nested Loose ('[' :: (body ++ [']'])) :=
  Nested.bracketed (o := '[') rfl h .nil

/-- A directive is a name, or a name and a value behind an equals sign. -/
theorem directive_cases {fuel : Nat} {text : List Char} {d : Directive}
    (h : readDirectiveWithin (fuel + 1) "=".toList text = .ok d) :
    ∃ first, isIdentifier (trim first) = true ∧
      (trim text = first ∨ ∃ rest a, trim text = first ++ '=' :: rest ∧ Balanced rest ∧
        readArgumentWithin fuel (String.ofList (trim first)) rest = .ok a) := by
  rw [readDirectiveWithin] at h
  obtain ⟨pieces, hsplit, h⟩ := bind_eq_ok.mp h
  obtain ⟨hbalanced, hjoined⟩ := joined_of_split (mapError_eq_ok.mp hsplit)
  dsimp only at h
  split at h
  · cases h
  next hname =>
  rw [Bool.not_eq_true', Bool.not_eq_false] at hname
  clear hsplit
  generalize trim text = s at *
  cases hjoined with
  | last => exact ⟨s, hname, .inl rfl⟩
  | @cons first separator rest more hseparator hjoined =>
    obtain rfl : separator = ['='] := List.mem_singleton.mp hseparator
    have hrest : Balanced rest :=
      hjoined.induct (fun _ _ => Balanced.append) (by decide) fun p hp =>
        hbalanced p (List.mem_cons_of_mem first hp)
    split at h
    · next hlength =>
      cases hjoined <;> simp at hlength
    · obtain ⟨a, ha, -⟩ := bind_eq_ok.mp h
      refine ⟨first, hname, .inr ⟨rest, a, rfl, hrest, ?_⟩⟩
      have hdrop : (first ++ (['='] ++ rest)).drop (first.length + "=".toList.length) = rest := by
        rw [← List.append_assoc]
        exact List.drop_left' (by simp)
      exact hdrop ▸ ha

/-- A directive with a value: its brackets are nested, or the value is left out of account. -/
theorem nested_assignment {first rest : List Char} (hname : isIdentifier (trim first) = true)
    (hvalue : NestedValue (String.ofList (trim first)) (trim rest)) :
    Nested Loose (first ++ '=' :: rest) := by
  have hbare := isBare_of_trim (isBare_of_isIdentifier hname)
  rcases hvalue with hnested | hloose
  · exact (Nested.of_isBare hbare).append (.bare rfl (.of_trim hnested))
  · obtain ⟨before, gap, hbefore, hgap, hfirst⟩ := exists_trim first
    obtain ⟨lead, behind, hlead, hbehind, hrest⟩ := exists_trim rest
    rw [String.toList_ofList] at hloose
    have hpart := Nested.loose (Loose.assignment hname hgap hlead hloose) (.of_blank hbehind)
    have htext : first ++ '=' :: rest = before ++
        (trim first ++ (gap ++ '=' :: (lead ++ trim rest)) ++ behind) := by
      conv_lhs => rw [hfirst, hrest]
      simp
    rw [htext]
    exact (Nested.of_blank hbefore).append hpart

/-- Brackets are nested in a text between commas if they are nested in its parts. -/
theorem nested_of_joined {parts : List (List Char)} {s : List Char}
    (h : Joined [",".toList] parts s)
    (hparts : ∀ p ∈ parts, trim p ≠ [] → Nested Loose p) : Nested Loose s := by
  refine h.induct (fun _ _ => Nested.append) (fun x hx => ?_) fun p hp => ?_
  · rw [List.mem_singleton.mp hx]
    exact .of_isBare (List.all_eq_true.mp (by decide))
  · by_cases hempty : trim p = []
    · refine .of_trim ?_
      rw [hempty]
      exact .nil
    · exact hparts p hp hempty

/-- The parts of a list in brackets are lighter than the list. -/
theorem weight_le_of_joined {parts : List (List Char)} {s : List Char}
    (h : Joined [",".toList] parts s) :
    Form.weight ((parts.map trim).filter (!·.isEmpty)) ≤ 3 * s.length + 1 := by
  have hpart (p : List Char) (texts : List (List Char)) :
      Form.weight ((trim p :: texts).filter (!·.isEmpty)) ≤
        3 * p.length + 1 + Form.weight (texts.filter (!·.isEmpty)) := by
    have hlength := (isInfix_trim p).length_le
    rw [List.filter_cons]
    split
    · rw [Form.weight]
      omega
    · omega
  induction h with
  | last p => simpa [Form.weight] using hpart p []
  | @cons p separator s ps hseparator _ ih =>
    have hcomma : separator.length = 1 := by
      rw [List.mem_singleton.mp hseparator]
      rfl
    have hfirst := hpart p (ps.map trim)
    rw [List.map_cons, List.length_append, List.length_append]
    omega

/-- What the readers of values and directives read with some fuel has nested brackets. There has to be
    enough fuel: without any, the reader of lists takes what is left of a list for read. -/
structure NestsWithin (fuel : Nat) : Prop where
  argument (name : String) (text : List Char) (a : Argument) : Balanced text →
    3 * (trim text).length + 3 ≤ fuel → readArgumentWithin fuel name text = .ok a →
    NestedValue name (trim text)
  directive (text : List Char) (d : Directive) : 3 * (trim text).length + 4 ≤ fuel →
    readDirectiveWithin fuel "=".toList text = .ok d → Nested Loose text
  directives (texts : List (List Char)) (ds : List Directive) : 4 + Form.weight texts ≤ fuel →
    readDirectivesWithin fuel "=".toList texts = .ok ds → ∀ x ∈ texts, Nested Loose x

namespace NestsWithin

variable {fuel : Nat} (ih : NestsWithin fuel)
include ih

/-- A list of directives in brackets. -/
theorem list {body : List Char} {pieces : List (List Char)} {ds : List Directive}
    (hfuel : 3 * body.length + 5 ≤ fuel) (hpieces : trimmedPieces [",".toList] body = .ok pieces)
    (hds : readDirectivesWithin fuel "=".toList (pieces.filter (!·.isEmpty)) = .ok ds) :
    Nested Loose ('[' :: (body ++ [']'])) := by
  refine nested_brackets ?_
  obtain ⟨parts, hsplit, rfl⟩ := map_eq_ok.mp hpieces
  obtain ⟨-, hjoined⟩ := joined_of_split (mapError_eq_ok.mp hsplit)
  have hweight := weight_le_of_joined hjoined
  have hread := ih.directives _ ds (by omega) hds
  refine nested_of_joined hjoined fun p hp hempty => .of_trim (hread (trim p) ?_)
  exact List.mem_filter.mpr ⟨List.mem_map_of_mem hp, by simpa using hempty⟩

theorem argument_succ (name : String) (text : List Char) (a : Argument) (hbalanced : Balanced text)
    (hfuel : 3 * (trim text).length + 3 ≤ fuel + 1)
    (h : readArgumentWithin (fuel + 1) name text = .ok a) : NestedValue name (trim text) := by
  have hs : Balanced (trim text) := hbalanced.trim
  rcases argument_cases h with ⟨rfl, f, hf⟩ | ⟨q, content, hq, heq⟩ | hinteger |
    ⟨body, pieces, ds, heq, hpieces, hds⟩ | ⟨kind, body, e, hshape, he⟩ | hdotted
  · rcases brackets_of_readFunctionRef hs hf with hbare | ⟨content, c, heq, hcontent, hc⟩
    · exact .inl (.of_isBare hbare)
    · rw [heq]
      exact .inr (.reference rfl hcontent hc)
  · rw [heq] at hs ⊢
    exact .inr (.quotation hq hs)
  · exact .inl (.of_isBare (isBare_of_isInteger hinteger))
  · rw [heq] at hfuel ⊢
    simp only [List.length_cons, List.length_append, List.length_nil] at hfuel
    exact .inl (ih.list (by omega) hpieces hds)
  · obtain ⟨hkind, heq⟩ := enumShape?_eq_some hshape
    rw [heq]
    rcases brackets_of_readEnumSet hkind he with ⟨htexts, hbody⟩ | hbare
    · exact .inr (.enumeration htexts hbody)
    · have hkinds : ∀ kind ∈ EnumSet.kinds, kind.toList.all isBare = true := by decide
      have hname := List.all_eq_true.mp (hkinds kind hkind)
      exact .inl ((Nested.of_isBare hname).append (nested_brackets (.of_isBare hbare)))
  · exact .inl (.of_isBare (isBare_of_isDotted hdotted))

theorem directive_succ (text : List Char) (d : Directive)
    (hfuel : 3 * (trim text).length + 4 ≤ fuel + 1)
    (h : readDirectiveWithin (fuel + 1) "=".toList text = .ok d) : Nested Loose text := by
  refine .of_trim ?_
  obtain ⟨first, hname, heq | ⟨rest, a, heq, hrest, ha⟩⟩ := directive_cases h
  · rw [heq]
    exact .of_isBare (isBare_of_trim (isBare_of_isIdentifier hname))
  · rw [heq] at hfuel ⊢
    have hlength := (isInfix_trim rest).length_le
    simp only [List.length_append, List.length_cons] at hfuel
    exact nested_assignment hname (ih.argument _ rest a hrest (by omega) ha)

theorem directives_succ (texts : List (List Char)) (ds : List Directive)
    (hfuel : 4 + Form.weight texts ≤ fuel + 1)
    (h : readDirectivesWithin (fuel + 1) "=".toList texts = .ok ds) :
    ∀ x ∈ texts, Nested Loose x := by
  rw [readDirectivesWithin.eq_def] at h
  cases texts with
  | nil =>
    intro x hx
    cases hx
  | cons text rest =>
    dsimp only at h
    obtain ⟨d, hd, h⟩ := bind_eq_ok.mp h
    obtain ⟨more, hmore, -⟩ := bind_eq_ok.mp h
    rw [Form.weight] at hfuel
    have hlength := (isInfix_trim text).length_le
    intro x hx
    rcases List.mem_cons.mp hx with rfl | hx
    · exact ih.directive x d (by omega) hd
    · exact ih.directives rest more (by omega) hmore x hx

end NestsWithin

/-- The readers call each other with less fuel. -/
theorem nests_within (fuel : Nat) : NestsWithin fuel := by
  induction fuel with
  | zero => exact ⟨fun _ _ _ _ h => by omega, fun _ _ h => by omega, fun _ _ h => by omega⟩
  | succ fuel ih => exact ⟨ih.argument_succ, ih.directive_succ, ih.directives_succ⟩

/-! ### Rules -/

/-- The directives between commas. -/
theorem nested_of_readDirectives {body : List Char} {ds : List Directive}
    (h : readDirectives "=".toList body = .ok ds) : Nested Loose body := by
  obtain ⟨pieces, hsplit, hread⟩ := bind_eq_ok.mp h
  obtain ⟨-, hjoined⟩ := joined_of_split (mapError_eq_ok.mp hsplit)
  refine nested_of_joined hjoined fun p hp hempty => ?_
  have hblank : allBlank p = false :=
    Bool.eq_false_iff.mpr fun hblank => hempty (trim_eq_nil hblank)
  obtain ⟨d, hd⟩ := exists_ok_of_mapM hread p (List.mem_filter.mpr ⟨hp, by simp [hblank]⟩)
  have hlength := (isInfix_trim p).length_le
  exact (nests_within _).directive p d (by omega) hd

theorem Staged.nested {s : List Char} {ss : List Stage} (h : Staged s ss) : Nested Loose s := by
  induction h with
  | nil => exact .nil
  | blank hc _ ih => exact .bare (isBare_of_isBlank hc) ih
  | stage hname hgap _ hread _ _ ih =>
    refine (Nested.of_isBare (isBare_of_isIdentifier hname)).append ?_
    refine (Nested.of_blank hgap).append ?_
    exact .bracketed (o := '(') rfl (nested_of_readDirectives hread) ih

/-- The values left out of account are balanced, and so are their directives. -/
theorem Loose.balanced {part : List Char} (h : Loose part) : Balanced part := by
  obtain ⟨hname, hgap, hlead, hvalue⟩ := h
  refine (Balanced.of_isBare (isBare_of_isIdentifier hname)).append ?_
  refine (Balanced.of_blank hgap).append ?_
  refine (Balanced.of_isBare (s := ['=']) (List.all_eq_true.mp (by decide))).append ?_
  refine (Balanced.of_blank hlead).append ?_
  cases hvalue with
  | reference _ hcontent hc => exact .bracketed rfl hc (.of_isBare hcontent)
  | quotation _ h => exact h
  | @enumeration kind body hkind hbody =>
    have hkinds : ∀ kind ∈ ["String", "Atom", "Map"], kind.toList.all isBare = true := by decide
    have hname := List.all_eq_true.mp (hkinds kind hkind)
    exact (Balanced.of_isBare hname).append (.bracketed rfl rfl hbody)

/-- The brackets of an accepted rule are balanced: outside of quotes each closing bracket has an
    opening one before it, and none is left open. They are of matching kinds too, but for those in
    references to functions, in quoted values and in enumerations of texts and maps. -/
theorem nested_of_readStages {s : List Char} {stages : Stages} (h : readStages s = .ok stages) :
    Balanced s ∧ Nested Loose s := by
  obtain ⟨-, ss, hstaged, -⟩ := readStages_eq_ok_iff.mp h
  have hnested : Nested Loose s := .of_trim hstaged.nested
  exact ⟨hnested.balanced fun _ => Loose.balanced, hnested⟩

theorem nested_reference_rule :
    ∃ stages, readStages "validate(custom=[f], either=[custom=[f\x7d])".toList = .ok stages ∧
      Balanced "validate(custom=[f], either=[custom=[f\x7d])".toList ∧
      Nested Loose "validate(custom=[f], either=[custom=[f\x7d])".toList := by
  obtain ⟨stages, h⟩ :
      ∃ stages, readStages "validate(custom=[f], either=[custom=[f\x7d])".toList = .ok stages :=
    exists_ok_of_isSome (by decide +kernel)
  exact ⟨stages, h, nested_of_readStages h⟩

/-- A brace ends the reference that a bracket has begun. -/
theorem mismatched_reference_accepted :
    (∃ stages, readStages "validate(custom=[f\x7d)".toList = .ok stages) ∧
      ¬Nested (fun _ => False) "validate(custom=[f\x7d)".toList :=
  ⟨exists_ok_of_isSome (by decide +kernel), not_nested (by decide)⟩

/-- The other values that are left out of account may hold brackets that do not match, too. -/
example : ∀ s ∈ ["validate(enum=String[(a\x7d])", "validate(enum=Atom[(a\x7d])",
    "validate(regex='a'(\x7d'b')", "validate(enum=Map[\x7b'\\'(\x7d': 'x\\''\x7d])"],
    (readStages s.toList).toOption.isSome = true ∧ nests [] none s.toList = false := by
  decide +kernel

end Intake.Rule
