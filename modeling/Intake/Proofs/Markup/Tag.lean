import Intake.Proofs.Markup.Entity
import Intake.Proofs.Markup.Filter
import Intake.Proofs.Text

/-!
# Tags are read back

A tag that a filter writes is read back with its name and its attributes. Names of elements and
attributes that filters keep are small letters and digits (`isPlainName`), which stand for
themselves in every place, and values stand between quotes that no character of theirs ends.

* `attributesFrom_write`: the attributes of a tag are read back, up to its end. The induction is on
  the attributes; between two of them the reader stands behind one blank (`tagItems`, `tagRest`);
* `StartTag.read_write`: a start tag is read back, also one that is closed at once;
* `readStartTag_write`, `readEndTag_write`: a text that begins with a tag is read as this tag, and
  what comes behind it is left.
-/

namespace Intake.Markup

open Intake.Text

/-! ### Names -/

/-- A character of the names of elements and attributes that filters keep: a small letter or a
    digit. -/
def isPlainChar (c : Char) : Bool :=
  ('a' ≤ c && c ≤ 'z') || isLatinDigit c

/-- A name that is read back as it is written: a letter, then small letters and digits. -/
def isPlainName (name : String) : Bool :=
  name.toList.head?.any isLatinLetter && name.toList.all isPlainChar

theorem toNat_lt_of_isPlainChar {c : Char} (h : isPlainChar c = true) : c.toNat < 128 := by
  refine toNat_lt_of_isNameTail ?_
  simp only [isPlainChar, isNameTail, isLatinLetter, Bool.or_eq_true] at h ⊢
  exact .inl (h.imp_left .inl)

/-- What the readers of tags ask about the characters of a plain name. -/
theorem isPlainChar_spec {c : Char} (h : isPlainChar c = true) :
    (isTagNameChar c = true ∧ isEndNameChar c = true) ∧
      (isAttributeHead c = true ∧ isAttributeTail c = true) ∧
      isBlank c = false ∧ c ∉ ['<', '>', '/', '!', '?'] := by
  have hall : ∀ n < 128, isPlainChar (Char.ofNat n) = true →
      (isTagNameChar (Char.ofNat n) = true ∧ isEndNameChar (Char.ofNat n) = true) ∧
        (isAttributeHead (Char.ofNat n) = true ∧ isAttributeTail (Char.ofNat n) = true) ∧
        isBlank (Char.ofNat n) = false ∧ Char.ofNat n ∉ ['<', '>', '/', '!', '?'] := by decide
  simpa only [Char.ofNat_toNat, forall_const, h] using hall c.toNat (toNat_lt_of_isPlainChar h)

theorem lowered_of_plain {s : List Char} (h : ∀ c ∈ s, isPlainChar c = true) :
    lowered s = String.ofList s := by
  have hall : ∀ n < 128, isPlainChar (Char.ofNat n) = true →
      (Char.ofNat n == capitalSigma) = false ∧ lowerForm (Char.ofNat n) = [Char.ofNat n] := by
    decide +kernel
  have hform (before : List Char) : lowerFrom before s = s := by
    induction s generalizing before with
    | nil => rfl
    | cons c s ih =>
      have hc := h c List.mem_cons_self
      obtain ⟨hsigma, hlower⟩ := hall c.toNat (toNat_lt_of_isPlainChar hc)
        (by rwa [Char.ofNat_toNat])
      rw [Char.ofNat_toNat] at hsigma hlower
      rw [lowerFrom, ih fun d hd => h d (List.mem_cons_of_mem c hd), lowerFormIn, hsigma,
        if_neg (by decide), hlower]
      rfl
  rw [lowered, lowerString, String.toList_ofList, lower, hform]

theorem isPlainName_cases {name : String} (h : isPlainName name = true) :
    (∃ c cs, name.toList = c :: cs ∧ isLatinLetter c = true) ∧
      (∀ c ∈ name.toList, isPlainChar c = true) ∧ lowered name.toList = name := by
  simp only [isPlainName, Bool.and_eq_true, List.all_eq_true] at h
  obtain ⟨hhead, hall⟩ := h
  refine ⟨?_, hall, by rw [lowered_of_plain hall, String.ofList_toList]⟩
  cases hname : name.toList with
  | nil => simp [hname] at hhead
  | cons c cs => exact ⟨c, cs, rfl, by simpa [hname] using hhead⟩

/-! ### Attributes -/

/-- An attribute that is read back as it is written: its name is plain, and it has a value. -/
def IsReadable (a : Attribute) : Prop :=
  isPlainName a.1 = true ∧ a.2.isSome = true

/-- An attribute as it stands in the text of a tag. -/
def rawAttribute (a : Attribute) : List Char × Option (List Char) :=
  (a.1.toList, a.2.map fun value => Entity.encode true value.toList)

theorem isReadable_of_keepsAttribute {element : String} {a : Attribute}
    (h : keepsAttribute element a = true) : IsReadable a := by
  have hnames : ∀ element ∈ ["a", "img", "time"], ∀ name ∈ allowedAttributes element,
      isPlainName name = true := by decide
  obtain ⟨name, _ | value⟩ := a
  · cases h
  · simp only [keepsAttribute, Bool.and_eq_true, List.contains_iff_mem] at h
    refine ⟨?_, rfl⟩
    have hname := h.1
    unfold allowedAttributes at hname
    split at hname
    · exact hnames "a" (by decide) name hname
    · exact hnames "img" (by decide) name hname
    · exact hnames "time" (by decide) name hname
    · cases hname

theorem decodeAttribute_raw {a : Attribute} (h : IsReadable a) :
    decodeAttribute (rawAttribute a) = .ok a := by
  obtain ⟨name, _ | value⟩ := a
  · exact absurd h.2 (by simp)
  · obtain ⟨-, -, hlower⟩ := isPlainName_cases h.1
    simp [decodeAttribute, rawAttribute, Entity.decode_encode, Except.map, hlower]

theorem mapM_decodeAttribute {attributes : List Attribute} (h : ∀ a ∈ attributes, IsReadable a) :
    (attributes.map rawAttribute).mapM decodeAttribute = .ok attributes := by
  induction attributes with
  | nil => rfl
  | cons a attributes ih =>
    rw [List.map_cons, List.mapM_cons, decodeAttribute_raw (h a List.mem_cons_self),
      ih fun b hb => h b (List.mem_cons_of_mem a hb)]
    rfl

/-! ### Tags -/

variable {attributes : List Attribute} {closed : Bool} {rest : List Char}

/-- What a tag closes with, behind the gap. -/
def tagEnd (closed : Bool) : List Char :=
  if closed then ['/', '>'] else ['>']

/-- What is written before the end of a tag that closes its element. -/
def closing (closed : Bool) : String :=
  if closed then " /" else ""

/-- A tag behind its name, and the text behind it. -/
def tagRest (attributes : List Attribute) (closed : Bool) (rest : List Char) : List Char :=
  attributes.flatMap writeAttribute ++ (closing closed).toList ++ '>' :: rest

/-- A tag behind its name and the gap that follows, and the text behind it. -/
def tagItems (attributes : List Attribute) (closed : Bool) (rest : List Char) : List Char :=
  match attributes with
  | [] => tagEnd closed ++ rest
  | a :: attributes => (writeAttribute a).tail ++ tagRest attributes closed rest

theorem Cursor.rest_skip (n : Nat) (k : Cursor) : (k.skip n).rest = k.rest.drop n := rfl

theorem writeAttribute_some (name value : String) :
    writeAttribute (name, some value) =
      ' ' :: (name.toList ++ '=' :: '"' :: (Entity.encode true value.toList ++ ['"'])) := by
  simp [writeAttribute]

/-- A blank parts the name of a tag from its attributes. -/
theorem exists_tagItems {a : Attribute} (ha : IsReadable a) :
    ∃ c more, isBlank c = false ∧ c ≠ '/' ∧ tagItems (a :: attributes) closed rest = c :: more ∧
      tagRest (a :: attributes) closed rest = ' ' :: c :: more := by
  obtain ⟨name, _ | value⟩ := a
  · exact absurd ha.2 (by simp)
  obtain ⟨⟨c, cs, hname, -⟩, hchars, -⟩ := isPlainName_cases ha.1
  obtain ⟨-, -, hblank, hmark⟩ := isPlainChar_spec (hchars c (hname ▸ List.mem_cons_self))
  refine ⟨c, cs ++ '=' :: '"' :: (Entity.encode true value.toList ++ '"' ::
    tagRest attributes closed rest), hblank, fun heq => hmark (by simp [heq]), ?_, ?_⟩
  · rw [tagItems, writeAttribute_some, List.tail_cons, hname]
    simp
  · rw [tagRest, List.flatMap_cons, writeAttribute_some, hname]
    simp [tagRest]

/-- Behind a name or an attribute the gap is passed over. -/
theorem skip_gap (h : ∀ a ∈ attributes, IsReadable a) {k : Cursor}
    (hk : k.rest = tagRest attributes closed rest) :
    (k.skip (gapLength k.rest)).rest = tagItems attributes closed rest ∧
      (attributes ≠ [] → mayPrecedeAttribute (k.skip (gapLength k.rest)).before = true) := by
  rw [Cursor.rest_skip]
  cases attributes with
  | nil =>
    rw [hk]
    cases closed <;> exact ⟨rfl, fun hne => absurd rfl hne⟩
  | cons a attributes =>
    obtain ⟨c, more, hblank, hslash, hitems, hrest⟩ := exists_tagItems (h a List.mem_cons_self)
    have hgap : gapLength (' ' :: c :: more) = 1 := by
      simp [gapLength, hblank, hslash, show isBlank ' ' = true by decide]
    rw [Cursor.skip, hk, hrest, hgap, hitems]
    exact ⟨rfl, fun _ => rfl⟩

/-- The value of an attribute is read back. -/
theorem assignment?_write {enc : List Char} (henc : '"' ∉ enc) (t : List Char) :
    assignment? ('=' :: '"' :: (enc ++ '"' :: t)) = some (enc, enc.length + 3) := by
  have hinner : (enc ++ '"' :: t).takeWhile (· != '"') = enc := by
    rw [List.takeWhile_append_of_pos fun d hd => bne_iff_ne.mpr (ne_of_mem_of_not_mem hd henc)]
    simp
  have hblank : isBlank '=' = false ∧ isBlank '"' = false := by decide
  have hvalue : valueAt? ('"' :: (enc ++ '"' :: t)) = some (enc, enc.length + 2) := by
    simp [valueAt?, hinner]
  simp [assignment?, hblank, hvalue]
  omega

/-- An attribute is read back, up to the gap behind it. -/
theorem attributeAt?_write {a : Attribute} (ha : IsReadable a) {k : Cursor} {t : List Char}
    (hk : k.rest = (writeAttribute a).tail ++ t) (hbefore : mayPrecedeAttribute k.before = true) :
    ∃ behind : Cursor, behind.rest = t ∧
      attributeAt? k = some (rawAttribute a, behind.skip (gapLength behind.rest)) := by
  obtain ⟨name, _ | value⟩ := a
  · exact absurd ha.2 (by simp)
  obtain ⟨⟨c, cs, hname, -⟩, hchars, -⟩ := isPlainName_cases ha.1
  have hvalue := assignment?_write (Entity.not_mem_encode (by simp) value.toList) t
  rw [writeAttribute_some, List.tail_cons, hname] at hk
  have hhead := (isPlainChar_spec (hchars c (hname ▸ List.mem_cons_self))).2.1.1
  have hraw : rawAttribute (name, some value) =
      (c :: cs, some (Entity.encode true value.toList)) := by simp [rawAttribute, ← hname]
  have hrest : k.rest = c :: (cs ++ '=' :: '"' ::
      (Entity.encode true value.toList ++ '"' :: t)) := by simp [hk]
  generalize Entity.encode true value.toList = enc at *
  have htail : (cs ++ '=' :: '"' :: (enc ++ '"' :: t)).takeWhile isAttributeTail = cs := by
    rw [List.takeWhile_append_of_pos fun d hd =>
      (isPlainChar_spec (hchars d (hname ▸ List.mem_cons_of_mem c hd))).2.1.2]
    simp [isAttributeTail]
  refine ⟨(k.skip (c :: cs).length).skip (enc.length + 3), ?_, ?_⟩
  · rw [Cursor.rest_skip, Cursor.rest_skip, hrest]
    simp
  · have hbehind : (k.skip (cs.length + 1)).rest = '=' :: '"' :: (enc ++ '"' :: t) := by
      rw [Cursor.rest_skip, hrest]
      simp
    simp [attributeAt?, hrest, hbefore, hhead, htail, hbehind, hvalue, hraw]

/-- The attributes of a tag are read back, up to its end. -/
theorem attributesFrom_write (h : ∀ a ∈ attributes, IsReadable a) {fuel : Nat}
    (hfuel : attributes.length ≤ fuel) {k : Cursor} (hk : k.rest = tagItems attributes closed rest)
    (hbefore : attributes ≠ [] → mayPrecedeAttribute k.before = true) :
    (attributesFrom fuel k).1 = attributes.map rawAttribute ∧
      (attributesFrom fuel k).2.rest = tagEnd closed ++ rest := by
  induction attributes generalizing fuel k with
  | nil =>
    -- the end of a tag is no attribute
    have hend : attributeAt? k = none := by
      rw [attributeAt?, hk]
      cases closed <;> simp [tagItems, tagEnd, isAttributeHead]
    cases fuel with
    | zero => exact ⟨rfl, hk⟩
    | succ fuel =>
      rw [attributesFrom, hend]
      exact ⟨rfl, hk⟩
  | cons a attributes ih =>
    obtain ⟨fuel, rfl⟩ : ∃ n, fuel = n + 1 := ⟨fuel - 1, by simp at hfuel; omega⟩
    have htail : ∀ b ∈ attributes, IsReadable b := fun b hb => h b (List.mem_cons_of_mem a hb)
    obtain ⟨behind, hbehind, hread⟩ :=
      attributeAt?_write (h a List.mem_cons_self) hk (hbefore (by simp))
    obtain ⟨hgap, hprecede⟩ := skip_gap htail hbehind
    obtain ⟨hitems, hrest⟩ := ih htail (by simpa using hfuel) hgap hprecede
    rw [attributesFrom, hread]
    exact ⟨by rw [List.map_cons, ← hitems], hrest⟩

/-- The end of a tag is looked for behind all blanks and slashes that follow its name, its own slash
    among them where there are no attributes. -/
theorem skip_slack (h : ∀ a ∈ attributes, IsReadable a) {k : Cursor}
    (hk : k.rest = tagRest attributes closed rest) {fuel : Nat} (hfuel : attributes.length ≤ fuel) :
    ∃ closed', (attributesFrom fuel
      (k.skip (k.rest.takeWhile fun c => isBlank c || c == '/').length)).2.rest =
        tagEnd closed' ++ rest := by
  cases attributes with
  | nil =>
    -- the slash of a tag without attributes is passed over, too
    refine ⟨false, (attributesFrom_write h (Nat.zero_le fuel) ?_ ?_).2⟩
    · rw [Cursor.rest_skip, hk]
      cases closed <;> rfl
    · exact fun hne => absurd rfl hne
  | cons a attributes =>
    obtain ⟨c, more, hblank, hslash, hitems, hrest⟩ := exists_tagItems (h a List.mem_cons_self)
    have hslack : ((' ' :: c :: more).takeWhile fun c => isBlank c || c == '/').length =
        gapLength (' ' :: c :: more) := by
      simp [gapLength, hblank, hslash, show isBlank ' ' = true by decide]
    obtain ⟨hgap, hbefore⟩ := skip_gap h hk
    rw [hk, hrest, hslack, ← hrest, ← hk]
    exact ⟨closed, (attributesFrom_write h hfuel hgap hbefore).2⟩

theorem writeStart_eq {name : String} (h : ∀ a ∈ attributes, keepsAttribute name a = true) :
    writeStart name attributes (closing closed) ++ rest =
      '<' :: (name.toList ++ tagRest attributes closed rest) := by
  rw [writeStart, List.filter_eq_self.mpr h]
  simp [tagRest]

theorem length_tagRest (attributes : List Attribute) (closed : Bool) (rest : List Char) :
    (tagRest attributes closed rest).length =
      (tagRest attributes closed []).length + rest.length := by
  simp [tagRest]
  omega

/-- Each attribute takes some text, and the end of the tag does. -/
theorem le_length_tagRest (attributes : List Attribute) (closed : Bool) :
    attributes.length + (tagEnd closed).length ≤ (tagRest attributes closed []).length := by
  induction attributes with
  | nil => cases closed <;> decide
  | cons a attributes ih =>
    have hwrite : 0 < (writeAttribute a).length := by simp [writeAttribute]
    have hcons : tagRest (a :: attributes) closed [] =
        writeAttribute a ++ tagRest attributes closed [] := by simp [tagRest]
    rw [hcons, List.length_append, List.length_cons]
    omega

/-- Once its end is found, a tag is read back with its attributes. -/
theorem finish_write (name : List Char) (h : ∀ a ∈ attributes, IsReadable a) {s : List Char}
    {k : Cursor} (hk : k.rest = tagRest attributes closed rest) {length : Nat}
    (hs : s.length = length + rest.length)
    (hlength : attributes.length + (tagEnd closed).length ≤ length) :
    StartTag.read.finish s name k length = .ok (.tag (lowered name) attributes closed length) := by
  obtain ⟨hgap, hbefore⟩ := skip_gap h hk
  have hfuel : attributes.length ≤ s.length := by omega
  obtain ⟨hitems, hrest⟩ := attributesFrom_write h hfuel hgap hbefore
  have hends : length - (s.length - (tagEnd closed ++ rest).length) = (tagEnd closed).length := by
    rw [List.length_append]
    omega
  have hending : trim ((tagEnd closed ++ rest).take (tagEnd closed).length) = tagEnd closed := by
    rw [List.take_left]
    cases closed <;> decide
  rw [StartTag.read.finish]
  dsimp only
  rw [hitems, hrest, hends, hending, mapM_decodeAttribute h]
  cases closed <;> rfl

/-- The name of a tag ends where its attributes begin. -/
theorem takeWhile_tagRest {name : List Char} (hname : ∀ c ∈ name, isPlainChar c = true)
    (h : ∀ a ∈ attributes, IsReadable a) (closed : Bool) (rest : List Char) :
    (name ++ tagRest attributes closed rest).takeWhile isTagNameChar = name := by
  rw [List.takeWhile_append_of_pos fun c hc => (isPlainChar_spec (hname c hc)).1.1]
  have hblank : isTagNameChar ' ' = false ∧ isTagNameChar '>' = false := by decide
  cases attributes with
  | nil => cases closed <;> simp [tagRest, closing, hblank]
  | cons a attributes =>
    obtain ⟨c, more, -, -, -, hrest⟩ := exists_tagItems (h a List.mem_cons_self)
    rw [hrest]
    simp [hblank]

/-- A start tag is read back with its attributes. -/
theorem StartTag.read_write {name : String} (hname : isPlainName name = true)
    (h : ∀ a ∈ attributes, IsReadable a) (closed : Bool) (rest : List Char) :
    StartTag.read ('<' :: (name.toList ++ tagRest attributes closed rest)) =
      .ok (.tag name attributes closed
        (1 + name.toList.length + (tagRest attributes closed []).length)) := by
  obtain ⟨-, hchars, hlower⟩ := isPlainName_cases hname
  have hlength := le_length_tagRest attributes closed
  have htake := takeWhile_tagRest hchars h closed rest
  set s := '<' :: (name.toList ++ tagRest attributes closed rest) with hs
  have hslength : s.length =
      1 + name.toList.length + (tagRest attributes closed []).length + rest.length := by
    rw [hs, List.length_cons, List.length_append, length_tagRest]
    omega
  set k : Cursor := Cursor.skip (name.toList.length + 1) ⟨'<', s⟩ with hk
  have hrest : k.rest = tagRest attributes closed rest := by
    rw [hk, Cursor.rest_skip, hs]
    simp
  have hfuel : attributes.length ≤ s.length := by omega
  obtain ⟨closed', hstop⟩ := skip_slack h hrest hfuel
  rw [StartTag.read]
  rw [hs, List.tail_cons, htake, ← hs, ← hk, hstop]
  have hfinish := finish_write name.toList h hrest hslength (by omega)
  rw [hlower] at hfinish
  have hend : s.length - (tagEnd closed' ++ rest).length + (tagEnd closed').length =
      1 + name.toList.length + (tagRest attributes closed []).length := by
    have hshort : (tagEnd closed').length ≤ 2 := by cases closed' <;> decide
    have hlong : 0 < name.toList.length := by
      obtain ⟨⟨c, cs, hcons, -⟩, -⟩ := isPlainName_cases hname
      simp [hcons]
    have htag : 0 < (tagEnd closed).length := by cases closed <;> decide
    rw [List.length_append]
    omega
  rw [← hend] at hfinish ⊢
  cases closed' <;> exact hfinish

/-! ### Texts that begin with a tag -/

theorem readStartTag_write {name : String} (hname : isPlainName name = true)
    (h : ∀ a ∈ attributes, keepsAttribute name a = true) (closed : Bool) (rest : List Char) :
    readConstruct (writeStart name attributes (closing closed) ++ rest) =
      .ok (let length := (writeStart name attributes (closing closed)).length
        if closed then .event (.closedStart name attributes) length
        else if rawElements.contains name then .raw (.start name attributes) name length
        else .event (.start name attributes) length) := by
  have hlength : (writeStart name attributes (closing closed)).length =
      1 + name.toList.length + (tagRest attributes closed []).length := by
    rw [← List.append_nil (writeStart name attributes _), writeStart_eq h]
    simp
    omega
  have hread := StartTag.read_write hname
    (fun a ha => isReadable_of_keepsAttribute (h a ha)) closed rest
  obtain ⟨⟨c, cs, hcons, hletter⟩, -⟩ := isPlainName_cases hname
  rw [writeStart_eq h, hlength]
  have hconstruct : readConstruct ('<' :: (name.toList ++ tagRest attributes closed rest)) =
      readStartTag ('<' :: (name.toList ++ tagRest attributes closed rest)) := by
    have hmark : c ≠ '/' ∧ c ≠ '!' ∧ c ≠ '?' := by
      refine ⟨?_, ?_, ?_⟩ <;> rintro rfl <;> exact absurd hletter (by decide)
    rw [readConstruct, List.tail_cons, hcons]
    split <;> simp_all
  rw [hconstruct, readStartTag, hread]
  rfl

theorem readEndTag_write {name : String} (hname : isPlainName name = true) (rest : List Char) :
    readConstruct (writeEnd name ++ rest) = .ok (.event (.finish name) (writeEnd name).length) := by
  obtain ⟨⟨c, cs, hcons, hletter⟩, hchars, hlower⟩ := isPlainName_cases hname
  have htext : writeEnd name ++ rest = '<' :: '/' :: (name.toList ++ '>' :: rest) := by
    simp [writeEnd]
  have hlength : (writeEnd name).length = name.toList.length + 3 := by simp [writeEnd]
  have hopen : ∀ d ∈ name.toList, (d != '>') = true := fun d hd => by
    rw [bne_iff_ne]
    rintro rfl
    exact (isPlainChar_spec (hchars _ hd)).2.2.2 (by simp)
  have hclose : lengthToClose? ('<' :: '/' :: (name.toList ++ '>' :: rest)) =
      some (name.toList.length + 3) := by
    have htake : ('<' :: '/' :: (name.toList ++ '>' :: rest)).takeWhile (· != '>') =
        '<' :: '/' :: name.toList := by
      rw [List.takeWhile_cons_of_pos (by decide), List.takeWhile_cons_of_pos (by decide),
        List.takeWhile_append_of_pos hopen]
      simp
    simp [lengthToClose?, htake]
  have hplain : plainEndName? ('<' :: '/' :: (name.toList ++ '>' :: rest)) = some name := by
    have htake : (cs ++ '>' :: rest).takeWhile isEndNameChar = cs := by
      rw [List.takeWhile_append_of_pos fun d hd =>
        (isPlainChar_spec (hchars d (hcons ▸ List.mem_cons_of_mem c hd))).1.2]
      simp [show isEndNameChar '>' = false by decide]
    have hblank := (isPlainChar_spec (hchars c (hcons ▸ List.mem_cons_self))).2.2.1
    rw [hcons] at hlower
    simp [plainEndName?, hcons, hblank, htake, hletter, hlower,
      show isBlank '>' = false by decide]
  rw [htext, hlength]
  show Except.ok (readEndTag _) = _
  rw [readEndTag, hclose, hplain]

end Intake.Markup
