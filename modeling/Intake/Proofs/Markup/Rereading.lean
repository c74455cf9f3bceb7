import Intake.Proofs.Markup.Tag
import Intake.Sanitize

/-!
# Filtered markup is read back

A filter that keeps some elements writes tags and escaped text, and this is read back as the events
that were written, where adjoining texts are one (`events_write`). So a second pass of the filter
finds nothing to change (`Sanitize.filter_filter`).

* `eventsFrom_write`: a sequence of events is read back, by induction on the events. The invariant
  is the escaped text in front of them, which the reader takes up to the next tag;
* `Filter.step_eq_write`: what a filter writes for an event it writes for one that it keeps, so that
  only events without comments, declarations and foreign elements need to be read back;
* `Filter.exists_events_output`: the output of a filter is read as events that it keeps;
* `Filter.apply_output`: the output of a filter is left as it is.
-/

namespace Intake.Markup

/-! ### Events -/

/-- The text of an event. -/
def write : Event → List Char
  | .start name attributes => writeStart name attributes (closing false)
  | .closedStart name attributes => writeStart name attributes (closing true)
  | .finish name => writeEnd name
  | .text s => Entity.encode false s

/-- An event that is read back as it is written. -/
inductive IsWritable : Event → Prop
  | start {name : String} {attributes : List Attribute} : isPlainName name = true →
    name ∉ rawElements → (∀ a ∈ attributes, keepsAttribute name a = true) →
    IsWritable (.start name attributes)
  | closedStart {name : String} {attributes : List Attribute} : isPlainName name = true →
    (∀ a ∈ attributes, keepsAttribute name a = true) → IsWritable (.closedStart name attributes)
  | finish {name : String} : isPlainName name = true → IsWritable (.finish name)
  | text (s : List Char) : IsWritable (.text s)

/-- The events with adjoining texts joined, behind the text `s`. -/
def joinTexts (s : List Char) : List Event → List Event
  | [] => textEvent s
  | .text t :: rest => joinTexts (s ++ t) rest
  | e :: rest => textEvent s ++ e :: joinTexts [] rest

theorem joinTexts_tag {e : Event} (he : ∀ t, e ≠ .text t) (s : List Char) (rest : List Event) :
    joinTexts s (e :: rest) = textEvent s ++ e :: joinTexts [] rest :=
  joinTexts.eq_3 s e rest he

/-- The text of a tag is read as the tag. -/
theorem readConstruct_write {e : Event} (he : IsWritable e) (htext : ∀ s, e ≠ .text s)
    (rest : List Char) :
    readConstruct (write e ++ rest) = .ok (.event e (write e).length) := by
  cases he with
  | start hname hraw h =>
    rw [write, readStartTag_write hname h]
    simp [hraw]
  | closedStart hname h =>
    rw [write, readStartTag_write hname h]
    rfl
  | finish hname => exact readEndTag_write hname rest
  | text s => exact absurd rfl (htext s)

theorem takeWhile_encode {s t : List Char} (ht : t.head? = some '<' ∨ t = []) :
    (Entity.encode false s ++ t).takeWhile (· != '<') = Entity.encode false s ∧
      (Entity.encode false s ++ t).dropWhile (· != '<') = t := by
  have hless : ∀ c ∈ Entity.encode false s, (c != '<') = true := fun c hc =>
    bne_iff_ne.mpr (ne_of_mem_of_not_mem hc (Entity.isEscaped_encode s).not_less)
  rw [List.takeWhile_append_of_pos hless, List.dropWhile_append_of_pos hless]
  cases t with
  | nil => simp
  | cons c t =>
    obtain rfl : c = '<' := by simpa using ht
    simp

theorem write_textEvent (s : List Char) : (textEvent s).flatMap write = Entity.encode false s := by
  cases s with
  | nil => rfl
  | cons c s => simp [textEvent, write]

/-- Escaped text is read back. -/
theorem eventsFrom_text (fuel : Nat) (s : List Char) :
    eventsFrom (fuel + 1) none (Entity.encode false s) = .ok (textEvent s) := by
  obtain ⟨htake, hdrop⟩ := takeWhile_encode (s := s) (t := []) (.inr rfl)
  rw [List.append_nil] at htake hdrop
  cases hs : Entity.encode false s with
  | nil =>
    have hdecode := Entity.decode_encode false s
    rw [hs] at hdecode
    cases hdecode
    rfl
  | cons c cs =>
    rw [← hs, eventsFrom, htake, hdrop, Entity.decode_encode]
    · rfl
    · simp [hs]

/-- A tag behind escaped text is read back. -/
theorem eventsFrom_tag (fuel : Nat) (s : List Char) {t : List Char} {e : Event} {length : Nat}
    (ht : t.head? = some '<') (hread : readConstruct t = .ok (.event e length)) :
    eventsFrom (fuel + 1) none (Entity.encode false s ++ t) =
      (eventsFrom fuel none (t.drop length)).map (textEvent s ++ e :: ·) := by
  obtain ⟨htake, hdrop⟩ := takeWhile_encode (s := s) (.inl ht)
  obtain ⟨u, rfl⟩ := List.head?_eq_some_iff.mp ht
  rw [eventsFrom, htake, hdrop, Entity.decode_encode]
  · simp only [hread, bind, Except.bind, pure, Except.pure]
    cases eventsFrom fuel none (('<' :: u).drop length) <;> simp [Except.map]
  · simp

/-- The text of events is read back as the events, adjoining texts joined. -/
theorem eventsFrom_write {es : List Event} (hes : ∀ e ∈ es, IsWritable e) (s : List Char)
    {fuel : Nat} (hfuel : (Entity.encode false s ++ es.flatMap write).length < fuel) :
    eventsFrom fuel none (Entity.encode false s ++ es.flatMap write) = .ok (joinTexts s es) := by
  induction es generalizing fuel s with
  | nil =>
    obtain ⟨fuel, rfl⟩ : ∃ n, fuel = n + 1 := ⟨fuel - 1, by omega⟩
    rw [List.flatMap_nil, List.append_nil]
    exact eventsFrom_text fuel s
  | cons e es ih =>
    have htail : ∀ d ∈ es, IsWritable d := fun d hd => hes d (List.mem_cons_of_mem e hd)
    have htag (htext : ∀ t, e ≠ .text t) :
        eventsFrom fuel none (Entity.encode false s ++ (e :: es).flatMap write) =
          .ok (textEvent s ++ e :: joinTexts [] es) := by
      obtain ⟨fuel, rfl⟩ : ∃ n, fuel = n + 1 := ⟨fuel - 1, by omega⟩
      have hread := readConstruct_write (hes e List.mem_cons_self) htext (es.flatMap write)
      obtain ⟨t, ht⟩ : ∃ t, write e = '<' :: t := by
        cases e with
        | text t => exact absurd rfl (htext t)
        | start name attributes | closedStart name attributes | finish name => exact ⟨_, rfl⟩
      have hlength : 0 < (write e).length := by simp [ht]
      rw [List.flatMap_cons, List.length_append, List.length_append] at hfuel
      have hbound : (Entity.encode false [] ++ es.flatMap write).length < fuel := by
        rw [Entity.encode, List.flatMap_nil, List.nil_append]
        omega
      have hmore := ih htail [] hbound
      rw [List.flatMap_cons, eventsFrom_tag fuel s (by simp [ht]) hread, List.drop_left]
      exact congrArg _ hmore
    cases e with
    | text t =>
      rw [List.flatMap_cons, write, ← List.append_assoc, Entity.encode, Entity.encode,
        ← List.flatMap_append] at hfuel ⊢
      exact ih htail (s ++ t) hfuel
    | start name attributes | closedStart name attributes | finish name => exact htag (by simp)

theorem events_write {es : List Event} (hes : ∀ e ∈ es, IsWritable e) :
    events (es.flatMap write) = .ok (joinTexts [] es) :=
  eventsFrom_write hes [] (Nat.lt_succ_self _)

theorem write_joinTexts (s : List Char) (es : List Event) :
    (joinTexts s es).flatMap write = Entity.encode false s ++ es.flatMap write := by
  induction es generalizing s with
  | nil => rw [joinTexts, write_textEvent, List.flatMap_nil, List.append_nil]
  | cons e es ih =>
    have htag (he : ∀ t, e ≠ .text t) : (joinTexts s (e :: es)).flatMap write =
        Entity.encode false s ++ (e :: es).flatMap write := by
      rw [joinTexts_tag he, List.flatMap_append, List.flatMap_cons, ih, write_textEvent]
      rfl
    cases e with
    | text t =>
      rw [joinTexts, ih, List.flatMap_cons, write, ← List.append_assoc, Entity.encode,
        Entity.encode, Entity.encode, List.flatMap_append]
    | start name attributes | closedStart name attributes | finish name => exact htag (by simp)

theorem mem_joinTexts {s : List Char} {es : List Event} {e : Event} (h : e ∈ joinTexts s es) :
    e ∈ es ∨ ∃ t, e = .text t := by
  have htext {s : List Char} (h : e ∈ textEvent s) : ∃ t, e = .text t := by
    rw [textEvent] at h
    split at h
    · cases h
    · exact ⟨s, List.mem_singleton.mp h⟩
  induction es generalizing s with
  | nil => exact .inr (htext h)
  | cons d es ih =>
    have htag (hd : ∀ t, d ≠ .text t) : e ∈ d :: es ∨ ∃ t, e = .text t := by
      rw [joinTexts_tag hd, List.mem_append, List.mem_cons] at h
      rcases h with h | rfl | h
      · exact .inr (htext h)
      · exact .inl List.mem_cons_self
      · exact (ih h).imp_left (List.mem_cons_of_mem d)
    cases d with
    | text t => exact (ih h).imp_left (List.mem_cons_of_mem _)
    | start name attributes | closedStart name attributes | finish name => exact htag (by simp)

namespace Filter

/-- The filter keeps some elements, none of them one whose content is dropped, and all of them have
    plain names. -/
structure IsAllowList (f : Filter) : Prop where
  nonempty : f.allowed ≠ []
  plain : ∀ name ∈ f.allowed, isPlainName name = true
  content : ∀ name ∈ f.allowed, name ∉ droppedElements

/-- An event that the filter writes as it is. -/
structure Keeps (f : Filter) (e : Event) : Prop where
  writable : IsWritable e
  step : f.step 0 e = (0, write e)

variable {f : Filter}

theorem keeps_text (hf : f.IsAllowList) (s : List Char) : f.Keeps (.text s) where
  writable := .text s
  step := by simp [Filter.step, hf.nonempty, write]

/-- What a filter writes for an event it writes for one that it keeps, or it is nothing. -/
theorem step_eq_write (hf : f.IsAllowList) (n : Nat) (e : Event) :
    (f.step n e).2 = [] ∨ ∃ d, f.Keeps d ∧ (f.step n e).2 = write d := by
  have hkept (name : String) (attributes : List Attribute) :
      ∀ a ∈ attributes.filter (keepsAttribute name), keepsAttribute name a = true :=
    fun a ha => (List.mem_filter.mp ha).2
  have hwrite (name closing : String) (attributes : List Attribute) :
      writeStart name (attributes.filter (keepsAttribute name)) closing =
        writeStart name attributes closing := by
    rw [writeStart, writeStart, List.filter_filter]
    simp
  cases e with
  | start name attributes =>
    simp only [step, Bool.and_eq_true, List.contains_iff_mem]
    split_ifs with hdropped hallowed
    · exact .inl rfl
    · refine .inr ⟨.start name (attributes.filter (keepsAttribute name)), ⟨.start
        (hf.plain name hallowed.1) (hf.content name hallowed.1) (hkept name attributes), ?_⟩, ?_⟩
      · simp [step, hallowed.1, hdropped, write, closing]
      · exact (hwrite name "" attributes).symm
    · exact .inl rfl
  | closedStart name attributes =>
    simp only [step, Bool.and_eq_true, List.contains_iff_mem]
    split_ifs with hallowed
    · refine .inr ⟨.closedStart name (attributes.filter (keepsAttribute name)), ⟨.closedStart
        (hf.plain name hallowed.1) (hkept name attributes), ?_⟩, ?_⟩
      · simp [step, hallowed.1, write, closing]
      · exact (hwrite name " /" attributes).symm
    · exact .inl rfl
  | finish name =>
    simp only [step, Bool.and_eq_true, List.contains_iff_mem]
    split_ifs with hdropped hallowed
    · exact .inl rfl
    · exact .inr ⟨.finish name, ⟨.finish (hf.plain name hallowed.1), by
        simp [step, hallowed.1, hdropped, write]⟩, rfl⟩
    · exact .inl rfl
  | text s =>
    simp only [step]
    split_ifs with hsilent hplain
    · exact .inl rfl
    · exact absurd (List.isEmpty_iff.mp hplain) hf.nonempty
    · exact .inr ⟨.text s, keeps_text hf s, rfl⟩

theorem exists_kept (hf : f.IsAllowList) (n : Nat) (es : List Event) :
    ∃ kept : List Event, (∀ e ∈ kept, f.Keeps e) ∧ f.outputFrom n es = kept.flatMap write := by
  induction es generalizing n with
  | nil => exact ⟨[], by simp, rfl⟩
  | cons e es ih =>
    obtain ⟨kept, hkept, hrest⟩ := ih (f.step n e).1
    rw [outputFrom]
    dsimp only
    rw [hrest]
    rcases step_eq_write hf n e with hnone | ⟨d, hd, hpiece⟩
    · exact ⟨kept, hkept, by rw [hnone, List.nil_append]⟩
    · refine ⟨d :: kept, fun x hx => ?_, by rw [hpiece, List.flatMap_cons]⟩
      rcases List.mem_cons.mp hx with rfl | hx
      · exact hd
      · exact hkept x hx

theorem output_of_keeps {es : List Event} (h : ∀ e ∈ es, f.Keeps e) :
    f.output es = es.flatMap write := by
  rw [output]
  induction es with
  | nil => rfl
  | cons e es ih =>
    rw [outputFrom, (h e List.mem_cons_self).step, List.flatMap_cons]
    exact congrArg _ (ih fun d hd => h d (List.mem_cons_of_mem e hd))

/-- What a filter that keeps some elements has written is read as events that it writes as they
    are. -/
theorem exists_events_output (hf : f.IsAllowList) (es : List Event) :
    ∃ ds, events (f.output es) = .ok ds ∧ (∀ d ∈ ds, f.Keeps d) ∧
      ds.flatMap write = f.output es := by
  obtain ⟨kept, hkept, houtput⟩ := exists_kept hf 0 es
  refine ⟨joinTexts [] kept, ?_, fun d hd => ?_, ?_⟩
  · rw [output, houtput]
    exact events_write fun e he => (hkept e he).writable
  · rcases mem_joinTexts hd with hd | ⟨t, rfl⟩
    · exact hkept d hd
    · exact keeps_text hf t
  · rw [write_joinTexts, output, houtput]
    rfl

/-- What a filter that keeps some elements has written it leaves as it is. -/
theorem apply_output (hf : f.IsAllowList) (es : List Event) :
    f.apply (f.output es) = .ok (f.output es) := by
  obtain ⟨ds, hread, hkeeps, hwrite⟩ := exists_events_output hf es
  rw [apply, hread, Except.map, output_of_keeps hkeeps, hwrite]

theorem isAllowList_of_mem {f : Filter} (hf : f ∈ [basicHtml, html5, markdownHtml]) :
    f.IsAllowList := by
  have hnames : ∀ f ∈ [basicHtml, html5, markdownHtml], f.allowed ≠ [] ∧
      ∀ name ∈ f.allowed, isPlainName name = true ∧ name ∉ droppedElements := by decide
  obtain ⟨hne, hall⟩ := hnames f hf
  exact ⟨hne, fun name hname => (hall name hname).1, fun name hname => (hall name hname).2⟩

end Filter

end Intake.Markup

namespace Intake.Sanitize

open Intake.Markup.Filter

/-- A value that was filtered is left as it is by the same filter, where the filter keeps some
    elements: the events of a text that was filtered are all written as they stand. Where a text is
    not read as markup, a second pass does not change the fault. -/
theorem filter_filter {f : Markup.Filter} (hf : f ∈ [basicHtml, html5, markdownHtml]) (v : Value) :
    filter f v >>= filter f = filter f v ∧
      ∀ s t : String, v = .text s → filter f v = .ok (.text t) →
        ∃ es, Markup.events t.toList = .ok es ∧ (∀ e ∈ es, f.Keeps e) ∧
          es.flatMap Markup.write = t.toList := by
  have hallowed := isAllowList_of_mem hf
  cases v with
  | text s =>
    rw [filter]
    cases h : f.apply s.toList with
    | error e => exact ⟨rfl, fun _ _ _ => nofun⟩
    | ok t =>
      obtain ⟨es, -, rfl⟩ := Rule.map_eq_ok.mp h
      have hagain := apply_output hallowed es
      constructor
      · simp [Except.map, Except.mapError, bind, Except.bind, filter, hagain]
      · intro _ t _ ht
        obtain rfl : String.ofList (f.output es) = t := by
          simpa [Except.map, Except.mapError] using ht
        rw [String.toList_ofList]
        exact exists_events_output hallowed es
  | _ => exact ⟨rfl, fun _ _ => nofun⟩

/-- A link whose tag is written untidily, a line break and a script. -/
def untidyLink : Value :=
  .text "<A HREF=/?a&lt;1 onclick=x>1 &lt 2<br/><script>x</script></a>"

theorem untidyLink_filtered :
    basicHtml ∈ [basicHtml, html5, markdownHtml] ∧
      filter basicHtml untidyLink = .ok (.text "<a href=\"/?a&lt;1\">1 &lt; 2<br /></a>") ∧
      filter basicHtml untidyLink >>= filter basicHtml = filter basicHtml untidyLink ∧
      ∃ es, Markup.events "<a href=\"/?a&lt;1\">1 &lt; 2<br /></a>".toList = .ok es ∧
        ∀ e ∈ es, basicHtml.Keeps e :=
  have hmem : basicHtml ∈ [basicHtml, html5, markdownHtml] := by simp
  have hfirst : filter basicHtml untidyLink =
      .ok (.text "<a href=\"/?a&lt;1\">1 &lt; 2<br /></a>") := by rfl
  have h := filter_filter hmem untidyLink
  have ⟨es, hread, hkeeps, _⟩ := h.2 _ _ rfl hfirst
  ⟨hmem, hfirst, h.1, es, hread, hkeeps⟩

end Intake.Sanitize
