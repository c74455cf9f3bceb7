import Intake.Proofs.Check.Standard
import Intake.Proofs.Pattern.Language
import Intake.Proofs.Rule.Words
import Intake.Proofs.Text.Pieces

/-!
# Formats and patterns

The checks of user names and mail addresses are stated by patterns between the anchors of a line.
They find what these patterns match (`passes_username_iff_passes_regex`,
`passes_email_iff_passes_regex`), and that is a format of the whole text (`IsUsername`,
`IsMailAddress`), but for one line break that may end it: a line ends there as well.

* `mem_usernameBody`, `mem_emailBody`: the languages of the patterns;
* `isUsername_iff`, `isEmail_iff`: the formats as they are checked. The last point of a domain is
  found from its end, where the pattern looks for it by going back.
-/

namespace Intake.Check

open Intake.Rule Intake.Text Intake.Pattern

/-! ### The patterns -/

/-- The pattern of user names. -/
def usernamePattern : String := "^[A-Za-z][A-Za-z0-9_.-]{2,49}$"

/-- The pattern of mail addresses. -/
def emailPattern : String := "^[a-zA-Z0-9._%+-]+@[a-zA-Z0-9.-]+\\.[a-zA-Z]{2,}$"

/-- What stands between the anchors in the pattern of user names. -/
def usernameBody : List Node :=
  [.set [.between 'A' 'Z', .between 'a' 'z'] false,
   .repeated .greedy 2 (some 49)
    [.set [.between 'A' 'Z', .between 'a' 'z', .between '0' '9',
      .char '_', .char '.', .char '-'] false]]

/-- What stands between the anchors in the pattern of mail addresses. -/
def emailBody : List Node :=
  [.repeated .greedy 1 none
    [.set [.between 'a' 'z', .between 'A' 'Z', .between '0' '9',
      .char '.', .char '_', .char '%', .char '+', .char '-'] false],
   .code '@'.toNat false,
   .repeated .greedy 1 none
    [.set [.between 'a' 'z', .between 'A' 'Z', .between '0' '9',
      .char '.', .char '-'] false],
   .code '.'.toNat false,
   .repeated .greedy 2 none
    [.set [.between 'a' 'z', .between 'A' 'Z'] false]]

/-- The pattern of user names is read as the body between the anchors of a line. -/
theorem read_usernamePattern :
    Regex.read usernamePattern.toList =
      .ok ⟨.anchor .lineStart :: usernameBody ++ [.anchor .lineEnd], [none], .initial⟩ := by
  decide +kernel

theorem read_emailPattern :
    Regex.read emailPattern.toList =
      .ok ⟨.anchor .lineStart :: emailBody ++ [.anchor .lineEnd], [none], .initial⟩ := by
  decide +kernel

/-! ### The formats -/

/-- A user name: a letter, and two to forty-nine letters, digits, underscores, points and
    hyphens. -/
inductive IsUsername : List Char → Prop
  | intro {c : Char} {rest : List Char} : isLatinLetter c = true → 2 ≤ rest.length →
    rest.length ≤ 49 → (∀ d ∈ rest, isUsernameChar d = true) → IsUsername (c :: rest)

/-- A mail address: a mailbox, an at sign, and a domain that ends in a point and at least two
    letters. -/
inductive IsMailAddress : List Char → Prop
  | intro {mailbox before letters : List Char} : mailbox ≠ [] →
    (∀ c ∈ mailbox, isMailboxChar c = true) → before ≠ [] →
    (∀ c ∈ before, isDomainChar c = true) → 2 ≤ letters.length →
    (∀ c ∈ letters, isLatinLetter c = true) →
    IsMailAddress (mailbox ++ '@' :: (before ++ '.' :: letters))

variable {w s : List Char}

theorem setMatches_capitalsFirst :
    setMatches .initial [.between 'A' 'Z', .between 'a' 'z'] false = isLatinLetter := by
  funext c
  simp [setMatches, isLatinLetter, Bool.or_comm]

theorem setMatches_smallFirst :
    setMatches .initial [.between 'a' 'z', .between 'A' 'Z'] false = isLatinLetter := by
  funext c
  simp [setMatches, isLatinLetter]

theorem setMatches_username :
    setMatches .initial [.between 'A' 'Z', .between 'a' 'z',
      .between '0' '9', .char '_', .char '.', .char '-'] false =
      isUsernameChar := by
  funext c
  simp [setMatches, isUsernameChar, isLatinLetter,
    isLatinDigit, Bool.or_assoc, Bool.or_left_comm]

theorem setMatches_mailbox :
    setMatches .initial [.between 'a' 'z', .between 'A' 'Z',
      .between '0' '9', .char '.', .char '_', .char '%',
      .char '+', .char '-'] false = isMailboxChar := by
  funext c
  simp [setMatches, isMailboxChar, isLatinLetter,
    isLatinDigit, Bool.or_assoc]

theorem setMatches_domain :
    setMatches .initial [.between 'a' 'z', .between 'A' 'Z',
      .between '0' '9', .char '.', .char '-'] false = isDomainChar := by
  funext c
  simp [setMatches, isDomainChar, isLatinLetter,
    isLatinDigit, Bool.or_assoc]

/-- The language of the pattern of user names is their format. -/
theorem mem_usernameBody : w ∈ sequenceLanguage .initial usernameBody ↔ IsUsername w := by
  simp only [usernameBody, mem_sequenceLanguage_set, mem_sequenceLanguage_repeated,
    mem_sequenceLanguage_nil, setMatches_capitalsFirst, setMatches_username]
  constructor
  · rintro ⟨c, _, rfl, hc, rest, _, rfl, hleast, hmost, hrest, rfl⟩
    rw [List.append_nil]
    exact .intro hc hleast (hmost 49 rfl) hrest
  · rintro @⟨c, rest, hc, hleast, hmost, hrest⟩
    refine ⟨c, rest, rfl, hc, rest, [], (List.append_nil rest).symm, hleast, ?_, hrest, rfl⟩
    rintro _ ⟨⟩
    exact hmost

/-- The language of the pattern of mail addresses is their format. -/
theorem mem_emailBody : w ∈ sequenceLanguage .initial emailBody ↔ IsMailAddress w := by
  simp only [emailBody, mem_sequenceLanguage_code, mem_sequenceLanguage_repeated,
    mem_sequenceLanguage_nil, setMatches_smallFirst, setMatches_mailbox, setMatches_domain]
  constructor
  · rintro ⟨mailbox, _, rfl, hmailbox, -, hboxchars, _, ⟨before, _, rfl, hbefore, -, hdomain, _,
      ⟨letters, _, rfl, hlength, -, hletters, rfl⟩, rfl⟩, rfl⟩
    rw [List.append_nil]
    exact .intro (List.length_pos_iff.1 hmailbox) hboxchars (List.length_pos_iff.1 hbefore) hdomain
      hlength hletters
  · rintro @⟨mailbox, before, letters, hmailbox, hboxchars, hbefore, hdomain, hlength, hletters⟩
    exact ⟨mailbox, _, rfl, List.length_pos_iff.2 hmailbox, nofun, hboxchars, _,
      ⟨before, _, rfl, List.length_pos_iff.2 hbefore, nofun, hdomain, _,
        ⟨letters, [], (List.append_nil letters).symm, hlength, nofun, hletters, rfl⟩, rfl⟩, rfl⟩

/-! ### The formats as they are checked -/

theorem isUsername_iff : isUsername w = true ↔ IsUsername w := by
  constructor
  · intro h
    cases w with
    | nil => cases h
    | cons c rest =>
      simp only [isUsername, Bool.and_eq_true, List.all_eq_true, decide_eq_true_eq] at h
      obtain ⟨⟨⟨hc, hrest⟩, hleast⟩, hmost⟩ := h
      exact .intro hc hleast hmost hrest
  · rintro ⟨hc, hleast, hmost, hrest⟩
    simp only [isUsername, Bool.and_eq_true, List.all_eq_true, decide_eq_true_eq]
    exact ⟨⟨⟨hc, hrest⟩, hleast⟩, hmost⟩

theorem isDomainChar_of_isLatinLetter {c : Char} (h : isLatinLetter c = true) :
    isDomainChar c = true := by
  simp [isDomainChar, h]

theorem point_notMem_letters {letters : List Char}
    (h : ∀ c ∈ letters, isLatinLetter c = true) : '.' ∉ letters :=
  fun hpoint => absurd (h '.' hpoint) (by decide)

/-- The letters at the end of a domain are looked for behind its last point. -/
theorem endsInLetters_append {letters : List Char} (h : '.' ∉ letters) (before : List Char) :
    endsInLetters (before ++ '.' :: letters) = true ↔
      before ≠ [] ∧ 2 ≤ letters.length ∧ ∀ c ∈ letters, isLatinLetter c = true := by
  have hpos : ∀ c ∈ letters.reverse, (c != '.') = true := fun c hc =>
    bne_iff_ne.mpr (ne_of_mem_of_not_mem (List.mem_reverse.1 hc) h)
  have hlast : (before ++ '.' :: letters).reverse.takeWhile (· != '.') = letters.reverse := by
    rw [List.reverse_append, List.reverse_cons, List.append_assoc, List.singleton_append,
      List.takeWhile_append_of_pos hpos, List.takeWhile_cons_of_neg (by simp), List.append_nil]
  rw [endsInLetters, hlast, List.reverse_reverse]
  simp only [Bool.and_eq_true, decide_eq_true_eq, List.all_eq_true, List.length_append,
    List.length_cons, Nat.lt_add_left_iff_pos, List.length_pos_iff]
  exact and_comm

theorem endsInLetters_of_notMem {domain : List Char} (h : '.' ∉ domain) :
    endsInLetters domain = false := by
  have hall : domain.reverse.takeWhile (· != '.') = domain.reverse :=
    List.takeWhile_eq_self_iff.2 fun c hc =>
      bne_iff_ne.mpr (ne_of_mem_of_not_mem (List.mem_reverse.1 hc) h)
  simp [endsInLetters, hall]

/-- A domain ends in letters behind its last point. -/
theorem endsInLetters_iff {domain : List Char} :
    endsInLetters domain = true ↔ ∃ before letters, domain = before ++ '.' :: letters ∧
      before ≠ [] ∧ 2 ≤ letters.length ∧ ∀ c ∈ letters, isLatinLetter c = true := by
  constructor
  · intro h
    by_cases hpoint : '.' ∈ domain
    · obtain ⟨letters, before, hdomain, hletters⟩ :=
        List.eq_append_cons_of_mem (List.mem_reverse.2 hpoint)
      obtain rfl : domain = before.reverse ++ '.' :: letters.reverse := by
        rw [← List.reverse_reverse domain, hdomain]
        simp
      exact ⟨_, _, rfl, (endsInLetters_append (by simpa using hletters) _).1 h⟩
    · rw [endsInLetters_of_notMem hpoint] at h
      cases h
  · rintro ⟨before, letters, rfl, hbefore, hlength, hletters⟩
    have hpoint := point_notMem_letters hletters
    exact (endsInLetters_append hpoint before).2 ⟨hbefore, hlength, hletters⟩

/-- The check of mail addresses cuts at the first @ and at the last point, and finds the format. -/
theorem isEmail_iff : isEmail w = true ↔ IsMailAddress w := by
  constructor
  · intro h
    rw [isEmail] at h
    split at h
    · next mailbox domain hcut =>
      obtain ⟨rfl, -⟩ := cutAt_eq_some hcut
      simp only [Bool.and_eq_true, Bool.not_eq_true', List.isEmpty_eq_false_iff, List.all_eq_true,
        endsInLetters_iff] at h
      obtain ⟨⟨⟨hmailbox, hboxchars⟩, hdomain⟩, before, letters, rfl, hbefore, hlength,
        hletters⟩ := h
      exact .intro hmailbox hboxchars hbefore
        (fun c hc => hdomain c (List.mem_append_left _ hc)) hlength hletters
    · cases h
  · rintro @⟨mailbox, before, letters, hmailbox, hboxchars, hbefore, hdomain, hlength, hletters⟩
    have hat : '@' ∉ mailbox := fun h => absurd (hboxchars '@' h) (by decide)
    rw [isEmail, cutAt_append hat]
    simp only [Bool.and_eq_true, Bool.not_eq_true', List.isEmpty_eq_false_iff, List.all_eq_true,
      endsInLetters_iff, List.mem_append, List.mem_cons]
    refine ⟨⟨⟨hmailbox, hboxchars⟩, ?_⟩, before, letters, rfl, hbefore, hlength, hletters⟩
    rintro c (hc | rfl | hc)
    · exact hdomain c hc
    · decide
    · exact isDomainChar_of_isLatinLetter (hletters c hc)

/-! ### Blanks and line breaks -/

theorem isBlank_of_isMailboxChar {c : Char} (h : isMailboxChar c = true) : isBlank c = false := by
  simp only [isMailboxChar, Bool.or_eq_true, beq_iff_eq] at h
  have hname (h : isNameTail c = true) : isBlank c = false := (Form.of_isNameTail h).2.1
  rcases h with (((((h | h) | rfl) | rfl) | rfl) | rfl) | rfl
  · exact hname (by simp [isNameTail, h])
  · exact hname (by simp [isNameTail, h])
  all_goals decide

theorem isMailboxChar_of_isLatinLetter {c : Char} (h : isLatinLetter c = true) :
    isMailboxChar c = true := by
  simp [isMailboxChar, h]

theorem isMailboxChar_of_isDomainChar {c : Char} (h : isDomainChar c = true) :
    isMailboxChar c = true := by
  simp only [isDomainChar, isMailboxChar, Bool.or_eq_true] at h ⊢
  tauto

theorem isMailboxChar_of_isUsernameChar {c : Char} (h : isUsernameChar c = true) :
    isMailboxChar c = true := by
  simp only [isUsernameChar, isMailboxChar, Bool.or_eq_true] at h ⊢
  tauto

theorem IsUsername.noBlank (h : IsUsername w) : ∀ c ∈ w, isBlank c = false := by
  obtain ⟨hc, -, -, hrest⟩ := h
  rw [List.forall_mem_cons]
  exact ⟨isBlank_of_isMailboxChar (isMailboxChar_of_isLatinLetter hc),
    fun d hd => isBlank_of_isMailboxChar (isMailboxChar_of_isUsernameChar (hrest d hd))⟩

/-- No blank stands in a mail address, so that no line break does. -/
theorem IsMailAddress.noBlank (h : IsMailAddress w) : ∀ c ∈ w, isBlank c = false := by
  obtain ⟨-, hmailbox, -, hdomain, -, hletters⟩ := h
  simp only [List.mem_append, List.mem_cons]
  rintro c (hc | rfl | hc | rfl | hc)
  · exact isBlank_of_isMailboxChar (hmailbox c hc)
  · decide
  · exact isBlank_of_isMailboxChar (isMailboxChar_of_isDomainChar (hdomain c hc))
  · decide
  · exact isBlank_of_isMailboxChar (isMailboxChar_of_isLatinLetter (hletters c hc))

theorem break_notMem (h : ∀ c ∈ w, isBlank c = false) : '\n' ∉ w :=
  fun hbreak => absurd (h '\n' hbreak) (by decide)

/-- A format without line breaks, of a text that may end in one. -/
theorem dropFinalBreak_iff {format : List Char → Prop} (hformat : ∀ w, format w → '\n' ∉ w) :
    format (dropFinalBreak s) ↔ ∃ w, format w ∧ (s = w ∨ s = w ++ ['\n']) := by
  constructor
  · intro h
    refine ⟨_, h, ?_⟩
    rw [dropFinalBreak]
    split
    · next hbreak =>
      obtain ⟨w, rfl⟩ := List.getLast?_eq_some_iff.1 hbreak
      rw [List.dropLast_concat]
      exact .inr rfl
    · exact .inl rfl
  · rintro ⟨w, hw, rfl | rfl⟩
    · rw [dropFinalBreak, if_neg fun h => hformat _ hw (List.mem_of_getLast? h)]
      exact hw
    · rw [dropFinalBreak, if_pos (by simp), List.dropLast_concat]
      exact hw

/-! ### What passes -/

variable {functions : Functions} {a : Argument}

/-- A user name passes, also with a line break behind it. -/
theorem passes_username_iff {s : String} :
    Passes functions ⟨"username", a⟩ (.text s) ↔
      ∃ w, IsUsername w ∧ (s.toList = w ∨ s.toList = w ++ ['\n']) := by
  have hcheck : standard? "username" = some fun _ v => .ok (username v) := rfl
  rw [passes_iff_of_standard? hcheck (by decide) (by decide),
    ← dropFinalBreak_iff fun w hw => break_notMem hw.noBlank, ← isUsername_iff, username]
  cases isUsername (dropFinalBreak s.toList) <;>
    simp [Verdict.isPass, Verdict.ofValue, Verdict.valid]

/-- A mail address passes, also with a line break behind it. -/
theorem passes_email_iff {s : String} :
    Passes functions ⟨"email", a⟩ (.text s) ↔
      ∃ w, IsMailAddress w ∧ (s.toList = w ∨ s.toList = w ++ ['\n']) := by
  have hcheck : standard? "email" = some fun _ v => .ok (email v) := rfl
  rw [passes_iff_of_standard? hcheck (by decide) (by decide),
    ← dropFinalBreak_iff fun w hw => break_notMem hw.noBlank, ← isEmail_iff, email]
  cases isEmail (dropFinalBreak s.toList) <;>
    simp [Verdict.isPass, Verdict.expecting, Verdict.valid]

/-- A text passes a pattern that reads well if the pattern matches it. -/
theorem passes_regex_iff_matchesStart {pattern s : String} {r : Regex}
    (hread : Regex.read pattern.toList = .ok r) :
    Passes functions ⟨"regex", .literal (.text pattern)⟩ (.text s) ↔
      r.matchesStart s.toList = true := by
  have hcheck : standard? "regex" = some regex := rfl
  rw [passes_iff_of_standard? hcheck (by decide) (by decide), regex, hread]
  dsimp only
  cases r.matchesStart s.toList <;> simp [Verdict.isPass, Verdict.valid, Verdict.expecting]

/-- A text passes a regular pattern between the anchors of a line if it is a word of the pattern,
    but for one line break that may end it. -/
theorem passes_regex_iff {pattern s : String} {body : List Node} {captures : List (Option Width)}
    (hread : Regex.read pattern.toList =
      .ok ⟨.anchor .lineStart :: body ++ [.anchor .lineEnd], captures, .initial⟩)
    (hbody : areRegular body = true) :
    Passes functions ⟨"regex", .literal (.text pattern)⟩ (.text s) ↔
      ∃ w ∈ sequenceLanguage .initial body, s.toList = w ∨ s.toList = w ++ ['\n'] :=
  (passes_regex_iff_matchesStart hread).trans
    (matchesStart_enclosed_iff hbody rfl captures s.toList)

theorem passes_username_iff_passes_regex {s : String} :
    Passes functions ⟨"username", a⟩ (.text s) ↔
      Passes functions ⟨"regex", .literal (.text usernamePattern)⟩ (.text s) := by
  rw [passes_username_iff, passes_regex_iff read_usernamePattern (by decide)]
  simp only [mem_usernameBody]

theorem passes_email_iff_passes_regex {s : String} :
    Passes functions ⟨"email", a⟩ (.text s) ↔
      Passes functions ⟨"regex", .literal (.text emailPattern)⟩ (.text s) := by
  rw [passes_email_iff, passes_regex_iff read_emailPattern (by decide)]
  simp only [mem_emailBody]

theorem IsUsername.length_le (h : IsUsername w) : 3 ≤ w.length ∧ w.length ≤ 50 := by
  obtain ⟨-, hleast, hmost, -⟩ := h
  simp only [List.length_cons]
  omega

/-- The checks of user names and mail addresses find what their patterns match: a text of the
    format, which has no blanks, but for one line break that may end the text. -/
theorem formats_spec (functions : Functions) :
    (∀ (a : Argument) (s : String),
      (Passes functions ⟨"username", a⟩ (.text s) ↔
        ∃ w, IsUsername w ∧ (s.toList = w ∨ s.toList = w ++ ['\n'])) ∧
      (Passes functions ⟨"username", a⟩ (.text s) ↔
        Passes functions ⟨"regex", .literal (.text usernamePattern)⟩ (.text s)) ∧
      (Passes functions ⟨"email", a⟩ (.text s) ↔
        ∃ w, IsMailAddress w ∧ (s.toList = w ∨ s.toList = w ++ ['\n'])) ∧
      (Passes functions ⟨"email", a⟩ (.text s) ↔
        Passes functions ⟨"regex", .literal (.text emailPattern)⟩ (.text s))) ∧
    (∀ w, IsUsername w → 3 ≤ w.length ∧ w.length ≤ 50) ∧
    ∀ w, IsMailAddress w → ∀ c ∈ w, isBlank c = false :=
  ⟨fun _ _ => ⟨passes_username_iff, passes_username_iff_passes_regex, passes_email_iff,
    passes_email_iff_passes_regex⟩, fun _ h => h.length_le, fun _ h => h.noBlank⟩

/-- The address of Ann passes. -/
theorem ann_passes :
    IsUsername "ann".toList ∧ "ann".toList.length ≤ 50 ∧
      IsMailAddress "ann@mail.example.co".toList ∧
      (∀ c ∈ "ann@mail.example.co".toList, isBlank c = false) ∧
      Passes [] ⟨"email", .none⟩ (.text "ann@mail.example.co") := by
  have hname : IsUsername "ann".toList := isUsername_iff.1 (by decide)
  have haddress : IsMailAddress "ann@mail.example.co".toList := isEmail_iff.1 (by decide)
  obtain ⟨hpasses, hlength, hblank⟩ := formats_spec []
  exact ⟨hname, (hlength _ hname).2, haddress, hblank _ haddress,
    (hpasses .none _).2.2.1.2 ⟨_, haddress, .inl rfl⟩⟩

/-- Texts that end in a line break are no user names or mail addresses, but they pass as such. -/
theorem line_break_passes :
    Passes [] ⟨"username", .none⟩ (.text "abc\n") ∧ ¬ IsUsername "abc\n".toList ∧
      Passes [] ⟨"email", .none⟩ (.text "a@b.co\n") ∧ ¬ IsMailAddress "a@b.co\n".toList := by
  have hname : ¬ IsUsername "abc\n".toList := fun h => by
    have hcheck := isUsername_iff.2 h
    revert hcheck
    decide
  have haddress : ¬ IsMailAddress "a@b.co\n".toList := fun h => by
    have hcheck := isEmail_iff.2 h
    revert hcheck
    decide
  exact ⟨passes_username_iff.2 ⟨"abc".toList, isUsername_iff.1 (by decide), .inr (by decide)⟩,
    hname,
    passes_email_iff.2 ⟨"a@b.co".toList, isEmail_iff.1 (by decide), .inr (by decide)⟩, haddress⟩

end Intake.Check
