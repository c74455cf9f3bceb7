import Mathlib.Algebra.BigOperators.Group.List.Basic
import Mathlib.Computability.Language
import Intake.Pattern.Matching

/-!
# The languages of patterns

A pattern of characters, sets, groups, choices and repetitions denotes a language
(`Node.language`). A step through a text goes back and forth until one way leads to the end, so
that what it finds says little about the words that it could have taken. Whether it finds anything
is a matter of the language alone, though: the step of such a pattern leads on from a position of
the text exactly if a word of the language begins there and what follows leads on from behind it
(`Node.reads`). Hence such a pattern matches a text exactly if the text begins with a word of its
language (`matchesStart_iff`).

* `RoundsLead`, `roundsLead_iff`: repetitions, with most rounds first or with fewest. A round of
  nothing beyond the least number ends a repetition, and there are never more rounds than that
  number and the characters that are left;
* `matchesStart_enclosed_iff`: a pattern between the anchors of a line matches the words of its
  language, and these words with a line break behind them.
-/

namespace Intake.Pattern

open Intake.Text

/-! ### Languages -/

/-- The words of one character that passes a test. -/
def charLanguage (test : Char → Bool) : Language Char :=
  {w | ∃ c, test c = true ∧ w = [c]}

/-- The words that consist of a number of words of a language, from the least number to the most. -/
def roundsLanguage (l : Language Char) (least : Nat) (most : Option Nat) : Language Char :=
  {w | ∃ n, least ≤ n ∧ (∀ k ∈ most, n ≤ k) ∧ w ∈ l ^ n}

mutual
/-- The words that a construct matches, if it does not ask what stands around them. -/
def Node.language (m : Mode) (n : Node) : Language Char :=
  match n with
  | .code c negated => charLanguage fun ch => codeMatches m c ch != negated
  | .set items negated => charLanguage (setMatches m items negated)
  | .any => charLanguage fun ch => m.dotAll || ch != '\n'
  | .group _ on off body => sequenceLanguage (m.inGroup on off) body
  | .repeated _ least most body => roundsLanguage (sequenceLanguage m body) least most
  | .branch alternatives => choiceLanguage m alternatives
  | _ => 0
termination_by structural n

/-- The words of constructs in sequence. -/
def sequenceLanguage (m : Mode) (ns : List Node) : Language Char :=
  match ns with
  | [] => 1
  | n :: rest => n.language m * sequenceLanguage m rest
termination_by structural ns

/-- The words of a choice. -/
def choiceLanguage (m : Mode) (alternatives : List (List Node)) : Language Char :=
  match alternatives with
  | [] => 0
  | a :: rest => sequenceLanguage m a + choiceLanguage m rest
termination_by structural alternatives
end

mutual
/-- The construct is made of characters, sets, groups, choices and repetitions that may go back. -/
def Node.isRegular (n : Node) : Bool :=
  match n with
  | .code _ _ => true
  | .set _ _ => true
  | .any => true
  | .group _ _ _ body => areRegular body
  | .repeated greed least most body =>
    greed != .possessive && most.all (fun k => decide (least ≤ k)) && areRegular body
  | .branch alternatives => isRegularChoice alternatives
  | _ => false
termination_by structural n

/-- The constructs are all regular. -/
def areRegular (ns : List Node) : Bool :=
  match ns with
  | [] => true
  | n :: rest => n.isRegular && areRegular rest
termination_by structural ns

/-- The alternatives are all regular. -/
def isRegularChoice (alternatives : List (List Node)) : Bool :=
  match alternatives with
  | [] => true
  | a :: rest => areRegular a && isRegularChoice rest
termination_by structural alternatives
end

/-! ### Ways through a text -/

variable {text : List Char} {l l' : Language Char} {good : Nat → Prop} {i : Nat}

/-- A word of the language begins at the position, and the position behind it is good. -/
def Leads (text : List Char) (l : Language Char) (good : Nat → Prop) (i : Nat) : Prop :=
  ∃ w ∈ l, w <+: text.drop i ∧ good (i + w.length)

theorem leads_one : Leads text 1 good i ↔ good i := by
  simp [Leads, Language.mem_one]

theorem leads_add : Leads text (l + l') good i ↔ Leads text l good i ∨ Leads text l' good i := by
  simp only [Leads, Language.mem_add, or_and_right, exists_or]

theorem append_prefix_drop_iff {a b : List Char} :
    a ++ b <+: text.drop i ↔ a <+: text.drop i ∧ b <+: text.drop (i + a.length) := by
  rw [← List.drop_drop]
  constructor
  · rintro ⟨rest, h⟩
    rw [← h, List.append_assoc, List.drop_left]
    exact ⟨List.prefix_append _ _, List.prefix_append _ _⟩
  · rintro ⟨⟨rest, h⟩, hb⟩
    rw [← h, List.drop_left] at hb
    rw [← h]
    exact (List.prefix_append_right_inj a).2 hb

theorem leads_mul : Leads text (l * l') good i ↔ Leads text l (Leads text l' good) i := by
  constructor
  · rintro ⟨w, hw, hopens, hgood⟩
    obtain ⟨a, ha, b, hb, rfl⟩ := Language.mem_mul.1 hw
    obtain ⟨hopens_a, hopens_b⟩ := append_prefix_drop_iff.1 hopens
    rw [List.length_append, ← Nat.add_assoc] at hgood
    exact ⟨a, ha, hopens_a, b, hb, hopens_b, hgood⟩
  · rintro ⟨a, ha, hopens_a, b, hb, hopens_b, hgood⟩
    have hopens := append_prefix_drop_iff.2 ⟨hopens_a, hopens_b⟩
    refine ⟨a ++ b, Language.append_mem_mul ha hb, hopens, ?_⟩
    rwa [List.length_append, ← Nat.add_assoc]

theorem leads_char {test : Char → Bool} :
    Leads text (charLanguage test) good i ↔
      ∃ c, text[i]? = some c ∧ test c = true ∧ good (i + 1) := by
  have hfirst (c : Char) : [c] <+: text.drop i ↔ text[i]? = some c := by
    rw [List.singleton_prefix_iff_head?_eq_some, List.head?_drop]
  constructor
  · rintro ⟨_, ⟨c, hc, rfl⟩, hopens, hgood⟩
    exact ⟨c, (hfirst c).1 hopens, hc, hgood⟩
  · rintro ⟨c, hget, hc, hgood⟩
    exact ⟨[c], ⟨c, hc, rfl⟩, (hfirst c).2 hget, hgood⟩

/-- The step reads the language: it leads on from a place exactly if a word of the language begins
    there and what follows leads on from behind it. What follows is told by the positions that it
    leads on from. -/
def Reads (text : List Char) (step : Step) (l : Language Char) : Prop :=
  ∀ (next : Next) (good : Nat → Prop), (∀ q, (next q).isSome = true ↔ good q.position) →
    ∀ p, (step p next).isSome = true ↔ Leads text l good p.position

namespace Reads

theorem nil : Reads text (fun p next => next p) 1 :=
  fun _ _ hnext p => (hnext p).trans leads_one.symm

theorem never : Reads text (fun _ _ => none) 0 := by
  intro next good _ p
  simp [Leads, Language.notMem_zero]

theorem cons {step step' : Step} (h : Reads text step l) (h' : Reads text step' l') :
    Reads text (fun p next => step p fun q => step' q next) (l * l') := by
  intro next good hnext p
  rw [leads_mul]
  exact h _ _ (h' next good hnext) p

theorem or {step step' : Step} (h : Reads text step l) (h' : Reads text step' l') :
    Reads text (fun p next => (step p next).or (step' p next)) (l + l') := by
  intro next good hnext p
  rw [leads_add, Option.isSome_or, Bool.or_eq_true]
  exact or_congr (h next good hnext p) (h' next good hnext p)

end Reads

theorem reads_oneChar (test : Char → Bool) :
    Reads text (oneChar text.toArray test) (charLanguage test) := by
  intro next good hnext p
  rw [leads_char, oneChar, List.getElem?_toArray]
  cases text[p.position]? with
  | none => simp
  | some c => cases hc : test c <;> simp [hc, hnext]

/-! ### Rounds -/

variable {step : Step} {least fuel count : Nat} {most last : Option Nat}

/-- A round beyond the least number may begin. -/
theorem mayRepeat_iff :
    mayRepeat most count last i = true ↔ (∀ k ∈ most, count < k) ∧ last ≠ some i := by
  cases most <;> simp [mayRepeat]

/-- Rounds lead on from a position, given their number so far and where the last one beyond the
    least number began. -/
def RoundsLead (text : List Char) (l : Language Char) (least : Nat) (most : Option Nat)
    (good : Nat → Prop) : Nat → Nat → Option Nat → Nat → Prop
  | 0, _, _, i => good i
  | fuel + 1, count, last, i =>
    if count < least then
      Leads text l (RoundsLead text l least most good fuel (count + 1) last) i
    else
      mayRepeat most count last i = true ∧
        Leads text l (RoundsLead text l least most good fuel (count + 1) (some i)) i ∨ good i

/-- Whichever rounds are tried first, some lead on or none. -/
theorem openRounds_isSome {eager : Bool} (hstep : Reads text step l) {next : Next}
    (hnext : ∀ q, (next q).isSome = true ↔ good q.position) (p : Place) :
    (openRounds eager step least most fuel count last p next).isSome = true ↔
      RoundsLead text l least most good fuel count last p.position := by
  induction fuel generalizing count last p with
  | zero => exact hnext p
  | succ fuel ih =>
    rw [openRounds, RoundsLead]
    split
    · exact hstep _ _ (fun q => ih q) p
    · -- One more round leads on if it may begin and the step leads on to the others.
      have hanother := hstep _ _ (@ih (count + 1) (some p.position)) p
      cases hmay : mayRepeat most count last p.position <;> cases eager <;>
        simp [hmay, hanother, hnext, or_comm]

/-- Where rounds lead on, words of the language do, as many as are left to be taken. -/
theorem exists_leads_pow (hbounds : ∀ k ∈ most, least ≤ k) (hcount : ∀ k ∈ most, count ≤ k)
    (hfuel : least < fuel + count) (h : RoundsLead text l least most good fuel count last i) :
    ∃ n, least ≤ count + n ∧ (∀ k ∈ most, count + n ≤ k) ∧ Leads text (l ^ n) good i := by
  induction fuel generalizing count last i with
  | zero => exact ⟨0, by omega, hcount, by rwa [pow_zero, leads_one]⟩
  | succ fuel ih =>
    -- One more round, and then as many as are left behind it.
    have hmore (hnext : ∀ k ∈ most, count + 1 ≤ k) {last : Option Nat} (hround : Leads text l
        (RoundsLead text l least most good fuel (count + 1) last) i) :
        ∃ n, least ≤ count + n ∧ (∀ k ∈ most, count + n ≤ k) ∧ Leads text (l ^ n) good i := by
      obtain ⟨w, hw, hopens, hrest⟩ := hround
      obtain ⟨n, hleast, hmost, hrest⟩ := ih hnext (by omega) hrest
      refine ⟨n + 1, by omega, fun k hk => ?_, ?_⟩
      · have := hmost k hk
        omega
      · rw [pow_succ', leads_mul]
        exact ⟨w, hw, hopens, hrest⟩
    rw [RoundsLead] at h
    split at h
    · next hlt => exact hmore (fun k hk => hlt.trans_le (hbounds k hk)) h
    · next hge =>
      rcases h with ⟨hmay, hround⟩ | hgood
      · refine hmore (fun k hk => ?_) hround
        exact (mayRepeat_iff.1 hmay).1 k hk
      · exact ⟨0, by omega, hcount, by rwa [pow_zero, leads_one]⟩

/-- Rounds take words of the language where those beyond the least number are not empty. -/
theorem roundsLead_of_words {ws : List (List Char)} (hws : ∀ w ∈ ws, w ∈ l)
    (hne : ∀ w ∈ ws.drop (least - count), w ≠ []) (hopens : ws.flatten <+: text.drop i)
    (hgood : good (i + ws.flatten.length)) (hleast : least ≤ count + ws.length)
    (hmost : ∀ k ∈ most, count + ws.length ≤ k) (hfuel : ws.length < fuel)
    (hlast : ∀ j ∈ last, j < i) : RoundsLead text l least most good fuel count last i := by
  -- By the words that are left. The last round beyond the least number began in front of them, so
  -- that it does not keep the next one from beginning.
  induction ws generalizing fuel count last i with
  | nil =>
    cases fuel with
    | zero => cases hfuel
    | succ fuel =>
      rw [RoundsLead, if_neg (by simpa using hleast)]
      exact .inr hgood
  | cons w ws ih =>
    simp only [List.mem_cons, forall_eq_or_imp] at hws
    rw [List.flatten_cons, append_prefix_drop_iff] at hopens
    rw [List.flatten_cons, List.length_append, ← Nat.add_assoc] at hgood
    simp only [List.length_cons, ← Nat.add_assoc] at hleast hmost
    have hround {fuel : Nat} (hfuel : ws.length < fuel) {last : Option Nat}
        (hlast : ∀ j ∈ last, j < i + w.length)
        (hne : ∀ x ∈ ws.drop (least - (count + 1)), x ≠ []) :
        Leads text l (RoundsLead text l least most good fuel (count + 1) last) i :=
      ⟨w, hws.1, hopens.1, ih hws.2 hne hopens.2 hgood (by omega)
        (fun k hk => by have := hmost k hk; omega) hfuel hlast⟩
    cases fuel with
    | zero => cases hfuel
    | succ fuel =>
      have hfuel : ws.length < fuel := Nat.lt_of_succ_lt_succ hfuel
      rw [RoundsLead]
      split
      · next hlt =>
        obtain ⟨d, hd⟩ := Nat.exists_eq_add_of_lt hlt
        refine hround hfuel (fun j hj => (hlast j hj).trans_le (Nat.le_add_right _ _)) ?_
        rwa [show least - count = least - (count + 1) + 1 by omega, List.drop_succ_cons] at hne
      · next hge =>
        -- The round is one beyond the least number: its word is not empty.
        rw [Nat.sub_eq_zero_of_le (Nat.le_of_not_lt hge), List.drop_zero,
          List.forall_mem_cons] at hne
        have hmay : mayRepeat most count last i = true := by
          refine mayRepeat_iff.2 ⟨fun k hk => ?_, fun h => lt_irrefl i (hlast i h)⟩
          have := hmost k hk
          omega
        refine .inl ⟨hmay, hround hfuel ?_ fun x hx => hne.2 x (List.mem_of_mem_drop hx)⟩
        rintro _ ⟨⟩
        exact Nat.lt_add_of_pos_right (List.length_pos_iff.2 hne.1)

/-- A word of the rounds of a language is made up of words of the language, no more of them than the
    least number and the characters, and those beyond the least number are not empty. -/
theorem exists_words {w : List Char} (hw : w ∈ roundsLanguage l least most) :
    ∃ ws : List (List Char), (∀ x ∈ ws, x ∈ l) ∧ (∀ x ∈ ws.drop least, x ≠ []) ∧ ws.flatten = w ∧
      least ≤ ws.length ∧ (∀ k ∈ most, ws.length ≤ k) ∧ ws.length ≤ least + w.length := by
  obtain ⟨n, hleast, hmost, hw⟩ := hw
  obtain ⟨ws, rfl, rfl, hws⟩ := Language.mem_pow.1 hw
  -- Empty words beyond the least number add nothing, and are left out.
  let beyond := (ws.drop least).filter fun x => !x.isEmpty
  have htake : (ws.take least).length = least := List.length_take_of_le hleast
  have hdrop : (ws.take least ++ beyond).drop least = beyond := List.drop_left' htake
  have hne : ∀ x ∈ beyond, x ≠ [] := fun x hx => by simpa using (List.mem_filter.1 hx).2
  have hflatten : beyond.flatten = (ws.drop least).flatten := List.flatten_filter_not_isEmpty
  have hfew : beyond.length ≤ ws.length - least := by
    simpa using List.length_filter_le (fun x => !x.isEmpty) (ws.drop least)
  have hshort : beyond.length ≤ beyond.flatten.length := by
    rw [List.length_flatten, ← List.length_map (f := List.length)]
    refine List.length_le_sum_of_one_le _ fun k hk => ?_
    obtain ⟨x, hx, rfl⟩ := List.mem_map.1 hk
    exact List.length_pos_iff.2 (hne x hx)
  refine ⟨ws.take least ++ beyond, fun x hx => ?_, by rwa [hdrop], ?_, ?_, fun k hk => ?_, ?_⟩
  · rcases List.mem_append.1 hx with hx | hx
    · exact hws x (List.mem_of_mem_take hx)
    · exact hws x (List.mem_of_mem_drop (List.mem_of_mem_filter hx))
  · rw [List.flatten_append, hflatten, ← List.flatten_append, List.take_append_drop]
  · rw [List.length_append, htake]
    exact Nat.le_add_right ..
  · have := hmost k hk
    rw [List.length_append, htake]
    omega
  · have hpart : (ws.drop least).flatten.length ≤ ws.flatten.length := by
      conv_rhs => rw [← List.take_append_drop least ws, List.flatten_append, List.length_append]
      exact Nat.le_add_left ..
    rw [hflatten] at hshort
    rw [List.length_append, htake]
    omega

/-- Rounds lead on exactly where a word of the rounds of the language does. -/
theorem roundsLead_iff (hbounds : ∀ k ∈ most, least ≤ k)
    (hfuel : least + (text.length - i) + 1 < fuel) :
    RoundsLead text l least most good fuel 0 none i ↔
      Leads text (roundsLanguage l least most) good i := by
  constructor
  · intro h
    obtain ⟨n, hleast, hmost, w, hw, hopens, hgood⟩ :=
      exists_leads_pow hbounds (fun _ _ => Nat.zero_le _) (by omega) h
    rw [Nat.zero_add] at hleast
    exact ⟨w, ⟨n, hleast, by simpa using hmost, hw⟩, hopens, hgood⟩
  · rintro ⟨w, hw, hopens, hgood⟩
    obtain ⟨ws, hws, hne, rfl, hleast, hmost, hlength⟩ := exists_words hw
    have hleft := hopens.length_le
    rw [List.length_drop] at hleft
    exact roundsLead_of_words hws (by simpa using hne) hopens hgood (by omega)
      (by simpa using hmost) (by omega) (by simp)

/-- Rounds that may go back read the rounds of a language. -/
theorem reads_rounds (hstep : Reads text step l) (hbounds : ∀ k ∈ most, least ≤ k) {greed : Greed}
    (hgreed : greed ≠ .possessive) :
    Reads text (rounds greed step least most text.length) (roundsLanguage l least most) := by
  intro next good hnext p
  rw [← roundsLead_iff hbounds (Nat.lt_succ_self _)]
  cases greed with
  | greedy => exact openRounds_isSome hstep hnext p
  | lazy => exact openRounds_isSome hstep hnext p
  | possessive => exact absurd rfl hgreed

/-! ### Regular constructs -/

variable {text : List Char}

mutual
/-- The step of a regular construct reads its language. -/
theorem Node.reads (captures : List (Option Width)) (m : Mode) (n : Node)
    (hn : n.isRegular = true) :
    Reads text (n.step text.toArray captures m) (n.language m) := by
  match n with
  | .code c negated =>
    rw [Node.step, Node.language]
    exact reads_oneChar _
  | .set items negated =>
    rw [Node.step, Node.language]
    exact reads_oneChar _
  | .any =>
    rw [Node.step, Node.language]
    exact reads_oneChar _
  | .group capture on off body =>
    rw [Node.isRegular] at hn
    intro next good hnext p
    rw [Node.step, Node.language]
    -- What a group has matched is noted, which no position tells.
    refine sequence_reads captures (m.inGroup on off) body hn _ _ (fun q => ?_) p
    cases capture with
    | none => exact hnext q
    | some group => exact hnext _
  | .repeated greed least most body =>
    simp only [Node.isRegular, Bool.and_eq_true, bne_iff_ne, Option.all_eq_true,
      decide_eq_true_eq] at hn
    rw [Node.step, Node.language, List.size_toArray]
    exact reads_rounds (sequence_reads captures m body hn.2) hn.1.2 hn.1.1
  | .branch alternatives =>
    rw [Node.isRegular] at hn
    rw [Node.step, Node.language]
    exact choice_reads captures m alternatives hn
termination_by structural n

/-- The step of regular constructs in sequence reads their language. -/
theorem sequence_reads (captures : List (Option Width)) (m : Mode) (ns : List Node)
    (hns : areRegular ns = true) :
    Reads text (sequenceStep text.toArray captures m ns) (sequenceLanguage m ns) := by
  match ns with
  | [] =>
    rw [sequenceStep, sequenceLanguage]
    exact .nil
  | n :: rest =>
    rw [areRegular, Bool.and_eq_true] at hns
    rw [sequenceStep, sequenceLanguage]
    exact (n.reads captures m hns.1).cons (sequence_reads captures m rest hns.2)
termination_by structural ns

theorem choice_reads (captures : List (Option Width)) (m : Mode)
    (alternatives : List (List Node)) (halternatives : isRegularChoice alternatives = true) :
    Reads text (choiceStep text.toArray captures m alternatives)
      (choiceLanguage m alternatives) := by
  match alternatives with
  | [] =>
    rw [choiceStep, choiceLanguage]
    exact .never
  | a :: rest =>
    rw [isRegularChoice, Bool.and_eq_true] at halternatives
    rw [choiceStep, choiceLanguage]
    exact (sequence_reads captures m a halternatives.1).or
      (choice_reads captures m rest halternatives.2)
termination_by structural alternatives
end

/-- A regular pattern matches a text exactly if the text begins with a word of its language. -/
theorem matchesStart_iff {r : Regex} (hr : areRegular r.nodes = true) (s : List Char) :
    r.matchesStart s = true ↔ ∃ w ∈ sequenceLanguage r.mode r.nodes, w <+: s := by
  have hreads : Reads s _ _ := sequence_reads r.captures r.mode r.nodes hr
  rw [Regex.matchesStart, hreads some (fun _ => True) (by simp)]
  simp [Leads]

/-! ### Anchors -/

theorem sequenceStep_append (text : Array Char) (captures : List (Option Width)) (m : Mode)
    (before behind : List Node) (p : Place) (next : Next) :
    sequenceStep text captures m (before ++ behind) p next =
      sequenceStep text captures m before p fun q =>
        sequenceStep text captures m behind q next := by
  induction before generalizing p with
  | nil => rw [List.nil_append, sequenceStep]
  | cons n before ih => simp only [List.cons_append, sequenceStep, ih]

/-- The end of a line that is the text is the end of the text, also where a line break ends it. -/
theorem anchorHolds_lineEnd_iff {m : Mode} (hm : m.multiline = false) {w : List Char}
    (hw : w <+: text) :
    anchorHolds m text.toArray .lineEnd w.length = true ↔ text = w ∨ text = w ++ ['\n'] := by
  obtain ⟨rest, rfl⟩ := hw
  simp only [anchorHolds, hm, List.size_toArray, List.getElem?_toArray, List.length_append,
    List.getElem?_append_right (le_refl w.length), Nat.sub_self, Bool.false_or,
    List.append_cancel_left_eq]
  match rest with
  | [] => simp
  | [c] => simp
  | c :: d :: rest => simp

/-- A regular pattern between the anchors of a line matches the words of its language, and these
    words with a line break behind them. -/
theorem matchesStart_enclosed_iff {body : List Node} (hbody : areRegular body = true) {m : Mode}
    (hm : m.multiline = false) (captures : List (Option Width)) (s : List Char) :
    Regex.matchesStart ⟨.anchor .lineStart :: body ++ [.anchor .lineEnd], captures, m⟩ s = true ↔
      ∃ w ∈ sequenceLanguage m body, s = w ∨ s = w ++ ['\n'] := by
  have hend (q : Place) :
      (sequenceStep s.toArray captures m [.anchor .lineEnd] q some).isSome = true ↔
        anchorHolds m s.toArray .lineEnd q.position = true := by
    simp only [sequenceStep, Node.step]
    split <;> simp [*]
  simp only [Regex.matchesStart, List.cons_append, sequenceStep, Node.step]
  rw [if_pos (by simp [anchorHolds])]
  simp only [sequenceStep_append]
  have hreads : Reads s _ _ := sequence_reads captures m body hbody
  rw [hreads _ (fun i => anchorHolds m s.toArray .lineEnd i = true) hend]
  constructor
  · rintro ⟨w, hw, hopens, hholds⟩
    refine ⟨w, hw, (anchorHolds_lineEnd_iff hm hopens).1 ?_⟩
    simpa using hholds
  · rintro ⟨w, hw, hs⟩
    have hopens : w <+: s := by
      rcases hs with rfl | rfl
      · exact List.prefix_rfl
      · exact List.prefix_append _ _
    refine ⟨w, hw, hopens, ?_⟩
    simpa using (anchorHolds_lineEnd_iff hm hopens).2 hs

/-! ### Words of tested characters -/

variable {test : Char → Bool} {n : Nat} {w : List Char}

theorem mem_charLanguage_pow :
    w ∈ charLanguage test ^ n ↔ w.length = n ∧ ∀ c ∈ w, test c = true := by
  induction n generalizing w with
  | zero => simp +contextual [Language.mem_one, iff_def]
  | succ n ih =>
    rw [pow_succ', Language.mem_mul]
    constructor
    · rintro ⟨_, ⟨c, hc, rfl⟩, rest, hrest, rfl⟩
      obtain ⟨rfl, htest⟩ := ih.1 hrest
      exact ⟨rfl, List.forall_mem_cons.2 ⟨hc, htest⟩⟩
    · rintro ⟨hlength, htest⟩
      obtain ⟨c, rest, rfl⟩ := List.exists_cons_of_length_eq_add_one hlength
      rw [List.forall_mem_cons] at htest
      exact ⟨[c], ⟨c, htest.1, rfl⟩, rest, ih.2 ⟨Nat.succ.inj hlength, htest.2⟩, rfl⟩

/-- The rounds of a test are the words of characters that pass it. -/
theorem mem_roundsLanguage_char :
    w ∈ roundsLanguage (charLanguage test) least most ↔
      least ≤ w.length ∧ (∀ k ∈ most, w.length ≤ k) ∧ ∀ c ∈ w, test c = true := by
  constructor
  · rintro ⟨n, hleast, hmost, hw⟩
    obtain ⟨rfl, htest⟩ := mem_charLanguage_pow.1 hw
    exact ⟨hleast, hmost, htest⟩
  · rintro ⟨hleast, hmost, htest⟩
    exact ⟨_, hleast, hmost, mem_charLanguage_pow.2 ⟨rfl, htest⟩⟩

/-- The characters from one to another, as an item of a set. -/
def SetItem.between (low high : Char) : SetItem :=
  .range low.toNat high.toNat

/-- A character, as an item of a set. -/
def SetItem.char (c : Char) : SetItem :=
  .code c.toNat

@[simp] theorem itemMatches_between (c low high : Char) :
    itemMatches .initial c (.between low high) = (low ≤ c && c ≤ high) := by
  simp [SetItem.between, itemMatches, Mode.initial, Char.le_def, UInt32.le_iff_toNat_le]

@[simp] theorem itemMatches_char (c d : Char) :
    itemMatches .initial c (.char d) = (c == d) := by
  rw [Bool.eq_iff_iff, beq_iff_eq, eq_comm (a := c), ← Char.toNat_inj]
  simp [SetItem.char, itemMatches, codeMatches, Mode.initial]

/-! ### Words of sequences -/

variable {m : Mode} {items : List SetItem} {negated : Bool} {greed : Greed} {ns : List Node}

theorem mem_sequenceLanguage_nil : w ∈ sequenceLanguage m [] ↔ w = [] := by
  rw [sequenceLanguage, Language.mem_one]

theorem mem_charLanguage_mul {l : Language Char} :
    w ∈ charLanguage test * l ↔ ∃ c rest, w = c :: rest ∧ test c = true ∧ rest ∈ l := by
  rw [Language.mem_mul]
  constructor
  · rintro ⟨_, ⟨c, hc, rfl⟩, rest, hrest, rfl⟩
    exact ⟨c, rest, rfl, hc, hrest⟩
  · rintro ⟨c, rest, rfl, hc, hrest⟩
    exact ⟨[c], ⟨c, hc, rfl⟩, rest, hrest, rfl⟩

theorem mem_sequenceLanguage_set :
    w ∈ sequenceLanguage m (.set items negated :: ns) ↔
      ∃ c rest, w = c :: rest ∧ setMatches m items negated c = true ∧
        rest ∈ sequenceLanguage m ns := by
  rw [sequenceLanguage, Node.language, mem_charLanguage_mul]

theorem mem_sequenceLanguage_code {d : Char} :
    w ∈ sequenceLanguage .initial (.code d.toNat false :: ns) ↔
      ∃ rest ∈ sequenceLanguage .initial ns, w = d :: rest := by
  have htest (c : Char) : (codeMatches .initial d.toNat c != false) = (c == d) := by
    rw [Bool.bne_false]
    exact itemMatches_char c d
  simp only [sequenceLanguage, Node.language, mem_charLanguage_mul, htest, beq_iff_eq]
  constructor
  · rintro ⟨_, rest, rfl, rfl, hrest⟩
    exact ⟨rest, hrest, rfl⟩
  · rintro ⟨rest, hrest, rfl⟩
    exact ⟨d, rest, rfl, rfl, hrest⟩

theorem mem_sequenceLanguage_repeated :
    w ∈ sequenceLanguage m (.repeated greed least most [.set items negated] :: ns) ↔
      ∃ a rest, w = a ++ rest ∧ least ≤ a.length ∧ (∀ k ∈ most, a.length ≤ k) ∧
        (∀ c ∈ a, setMatches m items negated c = true) ∧ rest ∈ sequenceLanguage m ns := by
  simp only [sequenceLanguage, Node.language, mul_one, Language.mem_mul, mem_roundsLanguage_char]
  constructor
  · rintro ⟨a, ⟨hleast, hmost, htest⟩, rest, hrest, rfl⟩
    exact ⟨a, rest, rfl, hleast, hmost, htest, hrest⟩
  · rintro ⟨a, rest, rfl, hleast, hmost, htest, hrest⟩
    exact ⟨a, ⟨hleast, hmost, htest⟩, rest, hrest, rfl⟩

end Intake.Pattern
