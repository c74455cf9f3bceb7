import Intake.Pattern.Reading
import Intake.Text.Blank
import Intake.Text.Casing.Kin

/-!
# Matching patterns

A pattern is matched at a place of a text by trying its constructs in order, each handing the
places it may end at to the ones behind it, until one way to the end is found.

A repetition of a part that may match nothing does not begin a round where its last round began,
once it has had its least number of rounds.
-/

namespace Intake.Pattern

open Intake.Text

/-- A place in a text and the groups matched on the way, each with its start and end. -/
structure Place where
  position : Nat
  captures : List (Nat × Nat × Nat)

namespace Place

/-- The last part of the text that a group matched. -/
def capture? (p : Place) (group : Nat) : Option (Nat × Nat) :=
  p.captures.lookup group

end Place

/-- What follows a construct: a way from a place to the end, if there is one. -/
abbrev Next := Place → Option Place

/-- A construct as a way from a place to what follows. -/
abbrev Step := Place → Next → Option Place

/-- The code of an ASCII letter in lower case. -/
def latinLower (c : Nat) : Nat :=
  if 65 ≤ c && c ≤ 90 then c + 32 else c

/-- The code of a character in lower case. -/
def lowerCode (m : Mode) (c : Nat) : Nat :=
  if m.ascii then latinLower c else (lowerChar (Char.ofNat c)).toNat

/-- The codes that count as one where case does not count: a small letter and its kin. -/
def kinCodes (m : Mode) (c : Nat) : List Nat :=
  if m.ascii then [c] else c :: (kin (Char.ofNat c)).map (·.toNat)

/-- The codes whose small letter has the code, with the code itself. -/
def casesOf (m : Mode) (c : Nat) : List Nat :=
  if m.ascii then (if 97 ≤ c && c ≤ 122 then [c, c - 32] else [c])
  else
    let ch := Char.ofNat c
    [c, (upperChar ch).toNat, ((titleForm ch).headD ch).toNat].filter fun d => lowerCode m d == c

/-- The character belongs to a class. -/
def categoryHolds (m : Mode) (k : Category) (c : Char) : Bool :=
  if m.ascii then
    match k with
    | .digit => isLatinDigit c
    | .space => isPatternBlank c
    | .word => isNameTail c
  else
    match k with
    | .digit => isDecimalDigit c
    | .space => isBlank c
    | .word => isWordChar c

/-- The character matches the code. -/
def codeMatches (m : Mode) (code : Nat) (c : Char) : Bool :=
  if m.ignoreCase then (kinCodes m (lowerCode m code)).contains (lowerCode m c.toNat)
  else code == c.toNat

/-- The character matches an item of a set. -/
def itemMatches (m : Mode) (c : Char) : SetItem → Bool
  | .code code => codeMatches m code c
  | .range low high =>
    let codes :=
      if m.ignoreCase then (kinCodes m (lowerCode m c.toNat)).flatMap (casesOf m) else [c.toNat]
    codes.any fun d => decide (low ≤ d) && decide (d ≤ high)
  | .category k negated => categoryHolds m k c != negated

/-- The character matches a set. -/
def setMatches (m : Mode) (items : List SetItem) (negated : Bool) (c : Char) : Bool :=
  items.any (itemMatches m c) != negated

/-- The place lies between a word character and another character or the end. -/
def isBoundary (m : Mode) (text : Array Char) (position : Nat) : Bool :=
  let isWordAt := fun i => ((text[i]?).map (categoryHolds m .word)).getD false
  (0 < position && isWordAt (position - 1)) != isWordAt position

/-- The place is one that the anchor marks. An empty text has neither boundaries nor places that
    are none. -/
def anchorHolds (m : Mode) (text : Array Char) (a : Anchor) (position : Nat) : Bool :=
  match a with
  | .textStart => position == 0
  | .lineStart => position == 0 || (m.multiline && text[position - 1]? == some '\n')
  | .lineEnd =>
    position == text.size ||
      (text[position]? == some '\n' && (m.multiline || position + 1 == text.size))
  | .textEnd => position == text.size
  | .boundary => text.size != 0 && isBoundary m text position
  | .inside => text.size != 0 && !isBoundary m text position

/-- One character that passes the test. -/
def oneChar (text : Array Char) (test : Char → Bool) : Step := fun p next =>
  match text[p.position]? with
  | some c => if test c then next { p with position := p.position + 1 } else none
  | none => none

/-- The same characters again as between two places. -/
def sameChars (m : Mode) (text : Array Char) (start stop : Nat) : Step := fun p next =>
  let fits := (List.range (stop - start)).all fun i =>
    match text[start + i]?, text[p.position + i]? with
    | some a, some b =>
      if m.ignoreCase then lowerCode m a.toNat == lowerCode m b.toNat else a == b
    | _, _ => false
  if fits then next { p with position := p.position + (stop - start) } else none

/-- The round may begin: there are fewer than the most, and the last one began elsewhere. -/
def mayRepeat (most : Option Nat) (count : Nat) (last : Option Nat) (position : Nat) : Bool :=
  (match most with
   | some n => decide (count < n)
   | none => true) && last != some position

/-- Rounds of a step that may be taken back: most first if they are eager, and else fewest first.
    `last` is where the last round beyond the least number began. -/
def openRounds (eager : Bool) (step : Step) (least : Nat) (most : Option Nat) :
    Nat → Nat → Option Nat → Step
  | 0, _, _, p, next => next p
  | fuel + 1, count, last, p, next =>
    if count < least then
      step p fun q => openRounds eager step least most fuel (count + 1) last q next
    else
      let another : Next := fun p =>
        if mayRepeat most count last p.position then
          step p fun q =>
            openRounds eager step least most fuel (count + 1) (some p.position) q next
        else none
      if eager then (another p).or (next p) else (next p).or (another p)

/-- Rounds of a step, each taken the first way it goes. -/
def possessiveRounds (step : Step) (least : Nat) (most : Option Nat) :
    Nat → Nat → Option Nat → Place → Option Place
  | 0, _, _, p => some p
  | fuel + 1, count, last, p =>
    if count < least then
      (step p some).bind (possessiveRounds step least most fuel (count + 1) last)
    else if mayRepeat most count last p.position then
      match step p some with
      | some q => possessiveRounds step least most fuel (count + 1) (some p.position) q
      | none => some p
    else some p

/-- Rounds of a step. Beyond the least number every round but the last takes a character, which
    bounds their number. -/
def rounds (greed : Greed) (step : Step) (least : Nat) (most : Option Nat) (size : Nat) : Step :=
  fun p next =>
    let fuel := least + (size - p.position) + 2
    match greed with
    | .greedy => openRounds true step least most fuel 0 none p next
    | .lazy => openRounds false step least most fuel 0 none p next
    | .possessive => (possessiveRounds step least most fuel 0 none p).bind next

mutual
/-- A construct as a step through a text. -/
def Node.step (text : Array Char) (captures : List (Option Width)) (m : Mode) (n : Node) : Step :=
  match n with
  | .code c negated => oneChar text fun ch => codeMatches m c ch != negated
  | .set items negated => oneChar text (setMatches m items negated)
  | .any => oneChar text fun ch => m.dotAll || ch != '\n'
  | .anchor a => fun p next => if anchorHolds m text a p.position then next p else none
  | .group capture on off body => fun p next =>
    sequenceStep text captures (m.inGroup on off) body p fun q =>
      match capture with
      | some group => next { q with captures := (group, p.position, q.position) :: q.captures }
      | none => next q
  | .atomic body => fun p next => (sequenceStep text captures m body p some).bind next
  | .repeated greed least most body =>
    rounds greed (sequenceStep text captures m body) least most text.size
  | .ahead negated body => fun p next =>
    match sequenceStep text captures m body p some, negated with
    | some q, false => next { q with position := p.position }
    | none, true => next p
    | _, _ => none
  | .behind negated body => fun p next =>
    let width := (sequenceWidth captures body).least
    let found :=
      if width ≤ p.position then
        sequenceStep text captures m body { p with position := p.position - width } some
      else none
    match found, negated with
    | some q, false => next { q with position := p.position }
    | none, true => next p
    | _, _ => none
  | .reference group => fun p next =>
    match p.capture? group with
    | some (start, stop) => sameChars m text start stop p next
    | none => none
  | .conditional group yes no => fun p next =>
    if (p.capture? group).isSome then sequenceStep text captures m yes p next
    else sequenceStep text captures m no p next
  | .branch alternatives => choiceStep text captures m alternatives
termination_by structural n

/-- Constructs in sequence as a step. -/
def sequenceStep (text : Array Char) (captures : List (Option Width)) (m : Mode)
    (ns : List Node) : Step :=
  match ns with
  | [] => fun p next => next p
  | n :: rest => fun p next =>
    n.step text captures m p fun q => sequenceStep text captures m rest q next
termination_by structural ns

/-- A choice as a step: the first sequence that leads to the end. -/
def choiceStep (text : Array Char) (captures : List (Option Width)) (m : Mode)
    (alternatives : List (List Node)) : Step :=
  match alternatives with
  | [] => fun _ _ => none
  | a :: rest => fun p next =>
    (sequenceStep text captures m a p next).or (choiceStep text captures m rest p next)
termination_by structural alternatives
end

namespace Regex

/-- The pattern matches a part of the text that begins where the text begins. -/
def matchesStart (r : Regex) (s : List Char) : Bool :=
  (sequenceStep s.toArray r.captures r.mode r.nodes ⟨0, []⟩ some).isSome

end Regex

end Intake.Pattern
