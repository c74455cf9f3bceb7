import Intake.Proofs.Markup.Entity
import Intake.Proofs.Markup.Filter
import Mathlib.Data.List.Basic

/-!
# Plain text

A filter that keeps no element leaves the plain text: the texts between the tags, with their
references replaced. What it leaves may look like markup again, for it is not escaped. A second pass
leaves it as it is exactly if it is read as text that stands for itself (`IsPlain`), and makes it
shorter otherwise (`Filter.stripTags_again`).

* `readConstruct_fits`: what begins with `<` is text that stands for itself, or some of it is passed
  over;
* `events_shorten`: the texts that are read are together as long as what they are read from only
  if nothing else is there;
* `Filter.output_stripTags`: the output consists of the texts outside scripts and styles.
-/

namespace Intake.Markup

open Intake.Rule (map_eq_ok bind_eq_ok)

/-! ### Texts that are read -/

namespace Event

/-- The text of an event; tags have none. -/
def data : Event → List Char
  | .text s => s
  | _ => []

/-- The event is a text. -/
def isText : Event → Bool
  | .text _ => true
  | _ => false

end Event

/-- The events read from a text are nothing but this text. -/
structure IsPlain (s : List Char) (es : List Event) : Prop where
  texts : ∀ e ∈ es, e.isText = true
  data : es.flatMap Event.data = s

/-- The events are nothing but the text they are read from, or hold less of it. -/
def Shortens (s : List Char) (es : List Event) : Prop :=
  IsPlain s es ∨ (es.flatMap Event.data).length < s.length

variable {s t : List Char} {es ds : List Event}

theorem Shortens.append (hs : Shortens s es) (ht : Shortens t ds) :
    Shortens (s ++ t) (es ++ ds) := by
  rw [Shortens, List.flatMap_append, List.length_append, List.length_append]
  rcases hs with hs | hs
  · rcases ht with ht | ht
    · refine .inl ⟨fun e he => ?_, by rw [List.flatMap_append, hs.data, ht.data]⟩
      exact (List.mem_append.mp he).elim (hs.texts e) (ht.texts e)
    · right
      rw [hs.data]
      omega
  · right
    have hle : (ds.flatMap Event.data).length ≤ t.length := by
      rcases ht with ht | ht
      · rw [ht.data]
      · exact ht.le
    omega

/-- Where there are no texts, some text has been passed over, or there was none. -/
theorem shortens_of_data (hs : es = [] ∨ s ≠ []) (hdata : es.flatMap Event.data = []) :
    Shortens s es := by
  cases s with
  | nil =>
    obtain rfl : es = [] := by simpa using hs
    exact .inl ⟨by simp, rfl⟩
  | cons c s => exact .inr (by simp [hdata])

theorem isPlain_textEvent (s : List Char) : IsPlain s (textEvent s) := by
  rw [textEvent]
  split
  · next hs => exact ⟨by simp, by simpa using (List.isEmpty_iff.mp hs).symm⟩
  · exact ⟨by simp [Event.isText], by simp [Event.data]⟩

theorem shortens_decode (h : Entity.decode s = .ok t) : Shortens s (textEvent t) := by
  rcases Entity.decode_shortens h with rfl | hlt
  · exact .inl (isPlain_textEvent t)
  · right
    rwa [(isPlain_textEvent t).data]

/-! ### What begins with an angle bracket -/

/-- What is found is text that stands for itself, or there is more to it than its text. -/
def Found.Fits (s : List Char) : Found → Prop
  | .event e length => e = .text (s.take length) ∨ (e.data = [] ∧ 0 < length)
  | .raw e _ length => e.data = [] ∧ 0 < length
  | .passed length => 0 < length
  | .unfinished => True

theorem fits_passedBy (s : List Char) (offset : Nat) (length : Option Nat) :
    (passedBy (offset + 1) length).Fits s := by
  cases length with
  | none => trivial
  | some n => exact Nat.lt_of_lt_of_le (Nat.succ_pos offset) (Nat.le_add_right _ n)

theorem lengthToClose?_pos {n : Nat} (h : lengthToClose? s = some n) : 0 < n := by
  rw [lengthToClose?] at h
  split at h <;> cases h
  exact Nat.succ_pos _

theorem fits_readEndTag (s : List Char) : (readEndTag s).Fits s := by
  rw [readEndTag]
  split
  · trivial
  · next n hn =>
    have hpos := lengthToClose?_pos hn
    split
    · exact .inr ⟨rfl, hpos⟩
    · split
      · split
        · exact .inr ⟨rfl, hpos⟩
        · exact hpos
      · exact hpos

theorem fits_readSection {found : Found} (h : readSection s = .ok found) : found.Fits s := by
  unfold readSection at h
  dsimp only at h
  split at h
  · cases h
    trivial
  · split at h
    · cases h
    · split at h
      · cases h
        trivial
      · split at h
        · cases h
          exact fits_passedBy s 2 _
        · split at h
          · cases h
            exact fits_passedBy s 2 _
          · cases h

/-- A start tag has a length. -/
theorem StartTag.read_pos {name : String} {attributes : List Attribute} {closed : Bool} {n : Nat}
    (h : StartTag.read s = .ok (.tag name attributes closed n)) : 0 < n := by
  have hfinish {word : List Char} {k : Cursor} {length : Nat} (hpos : 0 < length)
      (hf : StartTag.read.finish s word k length = .ok (.tag name attributes closed n)) :
      0 < n := by
    rw [StartTag.read.finish] at hf
    dsimp only at hf
    split at hf
    · obtain ⟨as, -, heq⟩ := map_eq_ok.mp hf
      cases heq
      exact hpos
    · cases hf
  rw [StartTag.read] at h
  split at h
  · cases h
  · exact hfinish (Nat.succ_pos _) h
  · exact hfinish (Nat.succ_pos _) h
  · split at h <;> cases h

theorem fits_readStartTag {found : Found} (h : readStartTag s = .ok found) : found.Fits s := by
  rw [readStartTag] at h
  obtain ⟨tag, htag, rfl⟩ := map_eq_ok.mp h
  cases tag with
  | unfinished => trivial
  | text n => exact .inl rfl
  | tag name attributes closed n =>
    have hpos := StartTag.read_pos htag
    dsimp only
    split_ifs
    · exact .inr ⟨rfl, hpos⟩
    · exact ⟨rfl, hpos⟩
    · exact .inr ⟨rfl, hpos⟩

theorem readConstruct_fits {found : Found} (hs : s.head? = some '<')
    (h : readConstruct s = .ok found) : found.Fits s := by
  obtain ⟨rest, rfl⟩ := List.head?_eq_some_iff.mp hs
  unfold readConstruct at h
  split at h
  · cases h
    trivial
  · cases h
    exact fits_readEndTag _
  · cases h
    exact fits_passedBy _ 3 _
  · exact fits_readSection h
  · cases h
    exact fits_passedBy _ 1 _
  · cases h
    exact fits_passedBy _ 1 _
  · split at h
    · exact fits_readStartTag h
    · cases h
      exact .inl rfl

/-! ### The texts that are read are not longer -/

theorem rawEnd?_pos {element : String} {before n : Nat}
    (h : rawEnd? element s = some (before, n)) : before < s.length ∧ 0 < n := by
  induction s generalizing before with
  | nil => cases h
  | cons c s ih =>
    rw [rawEnd?] at h
    dsimp only at h
    split at h
    · next m hm =>
      cases h
      split at hm
      · exact ⟨Nat.succ_pos _, lengthToClose?_pos hm⟩
      · cases hm
    · obtain ⟨⟨before', n'⟩, hrest, heq⟩ := Option.map_eq_some_iff.mp h
      cases heq
      exact (ih hrest).imp_left Nat.succ_lt_succ

theorem take_ne_nil {n : Nat} (hs : s ≠ []) (hn : 0 < n) : s.take n ≠ [] := by
  simp [hs, hn.ne']

/-- A text before a rest, where the events of a text stand before those of what it goes on with. -/
theorem Shortens.of_append {more : List Event} (n : Nat) (hs : Shortens (s.take n) ds)
    (hmore : Shortens (s.drop n) more) : Shortens s (ds ++ more) := by
  rw [← List.take_append_drop n s]
  exact hs.append hmore

theorem shortens_raw {fuel : Nat} {element : String} (hne : s ≠ [])
    (ih : ∀ t ds, eventsFrom fuel none t = .ok ds → Shortens t ds)
    (h : eventsFrom (fuel + 1) (some element) s = .ok es) : Shortens s es := by
  rw [eventsFrom] at h
  · split at h
    · cases h
      exact shortens_of_data (.inl rfl) rfl
    · next before n hend =>
      obtain ⟨hbefore, hn⟩ := rawEnd?_pos hend
      obtain ⟨more, hmore, rfl⟩ := map_eq_ok.mp h
      refine Shortens.of_append before (.inl (isPlain_textEvent _)) ?_
      change Shortens (s.drop before) ([.finish element] ++ more)
      refine Shortens.of_append n (shortens_of_data (.inr ?_) rfl) ?_
      · exact take_ne_nil (by simpa using hbefore) hn
      · rw [List.drop_drop]
        exact ih _ more hmore
  · exact hne

theorem shortens_found {found : Found} (hs : s.head? = some '<') (h : readConstruct s = .ok found) :
    match found with
    | .event e n | .raw e _ n => Shortens (s.take n) [e]
    | .passed n => Shortens (s.take n) []
    | .unfinished => True := by
  have hne : s ≠ [] := by
    rintro rfl
    cases hs
  have hfits := readConstruct_fits hs h
  cases found with
  | event e n =>
    rcases hfits with rfl | ⟨hdata, hn⟩
    · exact .inl ⟨by simp [Event.isText], by simp [Event.data]⟩
    · exact shortens_of_data (.inr (take_ne_nil hne hn)) (by simpa using hdata)
  | raw e element n =>
    exact shortens_of_data (.inr (take_ne_nil hne hfits.2)) (by simpa using hfits.1)
  | passed n => exact shortens_of_data (.inl rfl) rfl
  | unfinished => trivial

/-- The events behind a text that is read up to the first angle bracket: those of the construct that
    begins there, or of what is text after all, and those of the rest. -/
theorem shortens_markup {fuel : Nat} (hne : s ≠ [])
    (ih : ∀ element t ds, eventsFrom fuel element t = .ok ds → Shortens t ds)
    (h : eventsFrom (fuel + 1) none s = .ok es) : Shortens s es := by
  rw [eventsFrom] at h
  · obtain ⟨decoded, hdecoded, h⟩ := bind_eq_ok.mp h
    rw [← List.takeWhile_append_dropWhile (p := (· != '<')) (l := s)]
    split at h
    · next hrest =>
      cases h
      rw [hrest, List.append_nil]
      exact shortens_decode hdecoded
    · next hrest =>
      obtain ⟨found, hfound, h⟩ := bind_eq_ok.mp h
      have hhead : (s.dropWhile (· != '<')).head? = some '<' := by
        have hnot := List.head?_dropWhile_not (· != '<') s
        obtain ⟨c, cs, hcons⟩ := List.exists_cons_of_ne_nil hrest
        rw [hcons] at hnot ⊢
        simpa using hnot
      have hshort := shortens_found hhead hfound
      obtain ⟨ds, element, n, more, hds, hmore, rfl⟩ : ∃ ds element n more,
          Shortens ((s.dropWhile (· != '<')).take n) ds ∧
          eventsFrom fuel element ((s.dropWhile (· != '<')).drop n) = .ok more ∧
          es = textEvent decoded ++ ds ++ more := by
        cases found with simp only [pure_bind] at h
        | event e n =>
          obtain ⟨more, hmore, heq⟩ := bind_eq_ok.mp h
          cases heq
          exact ⟨[e], none, n, more, hshort, hmore, rfl⟩
        | raw e element n =>
          obtain ⟨more, hmore, heq⟩ := bind_eq_ok.mp h
          cases heq
          exact ⟨[e], some element, n, more, hshort, hmore, rfl⟩
        | passed n =>
          obtain ⟨more, hmore, heq⟩ := bind_eq_ok.mp h
          cases heq
          exact ⟨[], none, n, more, hshort, hmore, rfl⟩
        | unfinished =>
          obtain ⟨stray, hstray, h⟩ := bind_eq_ok.mp h
          obtain ⟨more, hmore, heq⟩ := bind_eq_ok.mp h
          cases heq
          exact ⟨textEvent stray, none, _, more, shortens_decode hstray, hmore, rfl⟩
      rw [List.append_assoc]
      exact (shortens_decode hdecoded).append (.of_append n hds (ih element _ more hmore))
  · exact hne

/-- The texts that are read are together shorter than what they are read from, unless nothing else
    is read. -/
theorem eventsFrom_shorten (fuel : Nat) (element : Option String) (s : List Char)
    (es : List Event) (h : eventsFrom fuel element s = .ok es) : Shortens s es := by
  induction fuel generalizing element s es with
  | zero =>
    cases h
    exact shortens_of_data (.inl rfl) rfl
  | succ fuel ih =>
    by_cases hne : s = []
    · subst hne
      cases h
      exact shortens_of_data (.inl rfl) rfl
    · cases element with
      | some element => exact shortens_raw hne (ih none) h
      | none => exact shortens_markup hne ih h

/-- The texts of a text read as markup: they are the text itself, and nothing else is read, or they
    are together shorter. -/
theorem events_shorten (h : events s = .ok es) : Shortens s es :=
  eventsFrom_shorten _ none s es h

/-- Without an angle bracket there is only text. -/
theorem events_of_not_mem (h : '<' ∉ s) : events s = (Entity.decode s).map textEvent := by
  have hchars : ∀ c ∈ s, (c != '<') = true := fun c hc => bne_iff_ne.mpr (ne_of_mem_of_not_mem hc h)
  cases s with
  | nil => rfl
  | cons c s =>
    have hdrop := List.dropWhile_eq_nil_iff.mpr hchars
    rw [events, eventsFrom, List.takeWhile_eq_self_iff.mpr hchars, hdrop]
    · cases Entity.decode (c :: s) <;> rfl
    · simp

/-! ### What is left without tags -/

/-- The texts outside scripts and styles, one after the other. -/
def plainText (es : List Event) : List Char :=
  es.zipIdx.flatMap fun (e, i) => if openDropped (es.take i) = 0 then e.data else []

theorem plainText_concat (before : List Event) (e : Event) :
    plainText (before ++ [e]) =
      plainText before ++ if openDropped before = 0 then e.data else [] := by
  rw [plainText, List.zipIdx_append, List.flatMap_append]
  congr 1
  · refine List.flatMap_congr fun ⟨d, i⟩ hd => ?_
    have hle : i ≤ before.length := (List.snd_lt_of_mem_zipIdx hd).le
    dsimp only
    rw [List.take_append_of_le_length hle]
  · simp

theorem length_plainText_le (es : List Event) :
    (plainText es).length ≤ (es.flatMap Event.data).length := by
  induction es using List.reverseRecOn with
  | nil => simp [plainText]
  | append_singleton before e ih =>
    rw [plainText_concat, List.length_append, List.flatMap_append, List.length_append,
      List.flatMap_singleton]
    refine Nat.add_le_add ih ?_
    split <;> simp

theorem openDropped_of_texts (h : ∀ e ∈ es, e.isText = true) : openDropped es = 0 := by
  induction es using List.reverseRecOn with
  | nil => rfl
  | append_singleton before e ih =>
    have he := h e (by simp)
    rw [openDropped, List.foldl_append, ← openDropped,
      ih fun d hd => h d (List.mem_append_left _ hd)]
    cases e with
    | text t => rfl
    | _ => cases he

theorem IsPlain.plainText_eq (h : IsPlain s es) : plainText es = s := by
  obtain ⟨htexts, rfl⟩ := h
  induction es using List.reverseRecOn with
  | nil => rfl
  | append_singleton before e ih =>
    have hbefore : ∀ d ∈ before, d.isText = true := fun d hd => htexts d (List.mem_append_left _ hd)
    rw [plainText_concat, if_pos (openDropped_of_texts hbefore), ih hbefore, List.flatMap_append,
      List.flatMap_singleton]

namespace Filter

/-- A filter that keeps no element writes the texts outside scripts and styles. -/
theorem output_stripTags (es : List Event) : stripTags.output es = plainText es := by
  induction es using List.reverseRecOn with
  | nil => rfl
  | append_singleton before e ih =>
    rw [output_concat, plainText_concat, ih]
    congr 1
    cases e <;> simp [step, stripTags, Event.data] <;> split_ifs <;> rfl

theorem apply_stripTags : stripTags.apply s = (events s).map plainText := by
  rw [apply]
  exact congrArg (fun f => (events s).map f) (funext output_stripTags)

/-- Text that is read as such is left as it is, anything else is made shorter. -/
theorem length_stripTags (h : events s = .ok es) :
    IsPlain s es ∨ (plainText es).length < s.length := by
  refine (events_shorten h).imp id fun hlt => ?_
  exact (length_plainText_le es).trans_lt hlt

/-- The text that is left without tags consists of the texts outside scripts and styles. A second
    pass leaves it as it is exactly if it is read as nothing but text that stands for itself, as it
    is where it holds no angle bracket and no ampersand, and makes it shorter otherwise. -/
theorem stripTags_again (h : stripTags.apply s = .ok t) :
    (∃ es, events s = .ok es ∧ t = plainText es) ∧
    (stripTags.apply t = .ok t ↔ ∃ es, events t = .ok es ∧ IsPlain t es) ∧
    (∀ u, stripTags.apply t = .ok u → u ≠ t → u.length < t.length) ∧
    ('<' ∉ t → stripTags.apply t = Entity.decode t) ∧
    ('<' ∉ t → '&' ∉ t → stripTags.apply t = .ok t) := by
  have hless (ht : '<' ∉ t) : stripTags.apply t = Entity.decode t := by
    rw [apply_stripTags, events_of_not_mem ht]
    cases Entity.decode t with
    | error e => rfl
    | ok u => exact congrArg _ (isPlain_textEvent u).plainText_eq
  refine ⟨?_, ⟨fun hsame => ?_, ?_⟩, fun u hu hne => ?_, hless, fun ht hamp => ?_⟩
  · rw [apply_stripTags] at h
    obtain ⟨es, hes, rfl⟩ := map_eq_ok.mp h
    exact ⟨es, hes, rfl⟩
  · rw [apply_stripTags] at hsame
    obtain ⟨es, hes, heq⟩ := map_eq_ok.mp hsame
    refine ⟨es, hes, (length_stripTags hes).resolve_right ?_⟩
    rw [heq]
    exact Nat.lt_irrefl _
  · rintro ⟨es, hes, hplain⟩
    rw [apply_stripTags, hes]
    exact congrArg _ hplain.plainText_eq
  · rw [apply_stripTags] at hu
    obtain ⟨es, hes, rfl⟩ := map_eq_ok.mp hu
    exact (length_stripTags hes).resolve_left fun hplain => hne hplain.plainText_eq
  · rw [hless ht, Entity.decode_of_not_mem hamp]

/-- An angle bracket before a blank is no tag, so that a second pass leaves it. -/
theorem comparison_stripped :
    stripTags.apply "<b>1 &lt; 2</b>".toList = .ok "1 < 2".toList ∧
      stripTags.apply "1 < 2".toList = .ok "1 < 2".toList ∧
      ∃ es, events "1 < 2".toList = .ok es ∧ IsPlain "1 < 2".toList es :=
  have hfirst : stripTags.apply "<b>1 &lt; 2</b>".toList = .ok "1 < 2".toList := by decide
  have hsecond : stripTags.apply "1 < 2".toList = .ok "1 < 2".toList := by decide
  ⟨hfirst, hsecond, (stripTags_again hfirst).2.1.mp hsecond⟩

/-- A tag that is written with references is a tag when they are replaced. -/
theorem writtenTag_stripped :
    stripTags.apply "&lt;b&gt;".toList = .ok "<b>".toList ∧
      (stripTags.apply "&lt;b&gt;".toList >>= stripTags.apply) = .ok [] := by
  decide

end Filter

end Intake.Markup
