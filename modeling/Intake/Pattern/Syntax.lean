/-!
# Patterns

The tree of a regular expression. Every construct stands in a sequence; a group may change the mode
in which its parts are matched.
-/

namespace Intake.Pattern

/-- How characters are compared and where lines begin and end. -/
structure Mode where
  ignoreCase : Bool
  multiline : Bool
  dotAll : Bool
  ascii : Bool
  unicode : Bool
  verbose : Bool
  template : Bool
  deriving DecidableEq, Repr

namespace Mode

/-- The mode a pattern begins in. -/
def initial : Mode := ⟨false, false, false, false, false, false, false⟩

end Mode

/-- A letter that switches part of the mode. -/
inductive Switch where
  | ignoreCase
  | locale
  | multiline
  | dotAll
  | verbose
  | ascii
  | template
  | unicode
  deriving DecidableEq, Repr

namespace Switch

/-- The switch a letter stands for. -/
def ofChar? : Char → Option Switch
  | 'i' => some ignoreCase
  | 'L' => some locale
  | 'm' => some multiline
  | 's' => some dotAll
  | 'x' => some verbose
  | 'a' => some ascii
  | 't' => some template
  | 'u' => some unicode
  | _ => none

/-- The switch chooses the set of characters that classes speak of. -/
def choosesSet : Switch → Bool
  | locale => true
  | ascii => true
  | unicode => true
  | _ => false

/-- The mode with the switch turned on or off. -/
def turn (on : Bool) (m : Mode) : Switch → Mode
  | ignoreCase => { m with ignoreCase := on }
  | multiline => { m with multiline := on }
  | dotAll => { m with dotAll := on }
  | verbose => { m with verbose := on }
  | ascii => { m with ascii := on }
  | unicode => { m with unicode := on }
  | template => { m with template := on }
  | locale => m

end Switch

namespace Mode

/-- The mode with the switches of a group turned on, then off. A choice of the set of characters
    replaces the one before. -/
def inGroup (m : Mode) (on off : List Switch) : Mode :=
  let m := if on.any Switch.choosesSet then { m with ascii := false, unicode := false } else m
  off.foldl (Switch.turn false) (on.foldl (Switch.turn true) m)

end Mode

/-- The classes with a letter of their own. -/
inductive Category where
  | digit
  | space
  | word
  deriving DecidableEq, Repr

/-- An item of a set of characters; characters are given by their code points. -/
inductive SetItem where
  | code (c : Nat)
  | range (low high : Nat)
  | category (k : Category) (negated : Bool)
  deriving DecidableEq, Repr

/-- A place between characters. -/
inductive Anchor where
  | textStart
  | lineStart
  | lineEnd
  | textEnd
  | boundary
  | inside
  deriving DecidableEq, Repr

/-- How a repetition looks for its number of rounds: most first, fewest first, or most without a
    second try. -/
inductive Greed where
  | greedy
  | lazy
  | possessive
  deriving DecidableEq, Repr

/-- A construct of a pattern. -/
inductive Node where
  | code (c : Nat) (negated : Bool)
  | set (items : List SetItem) (negated : Bool)
  | any
  | anchor (a : Anchor)
  | group (capture : Option Nat) (on off : List Switch) (body : List Node)
  | atomic (body : List Node)
  | repeated (greed : Greed) (least : Nat) (most : Option Nat) (body : List Node)
  | ahead (negated : Bool) (body : List Node)
  | behind (negated : Bool) (body : List Node)
  | reference (capture : Nat)
  | conditional (capture : Nat) (yes no : List Node)
  | branch (alternatives : List (List Node))

namespace Node

mutual
/-- The constructs are the same. -/
def same : Node → Node → Bool
  | .code c negated, .code c' negated' => c == c' && negated == negated'
  | .set items negated, .set items' negated' => items == items' && negated == negated'
  | .any, .any => true
  | .anchor a, .anchor a' => a == a'
  | .group capture on off body, .group capture' on' off' body' =>
    capture == capture' && on == on' && off == off' && sameAll body body'
  | .atomic body, .atomic body' => sameAll body body'
  | .repeated greed least most body, .repeated greed' least' most' body' =>
    greed == greed' && least == least' && most == most' && sameAll body body'
  | .ahead negated body, .ahead negated' body' => negated == negated' && sameAll body body'
  | .behind negated body, .behind negated' body' => negated == negated' && sameAll body body'
  | .reference capture, .reference capture' => capture == capture'
  | .conditional capture yes no, .conditional capture' yes' no' =>
    capture == capture' && sameAll yes yes' && sameAll no no'
  | .branch alternatives, .branch alternatives' => sameBranches alternatives alternatives'
  | _, _ => false
termination_by structural a => a

/-- The sequences are the same. -/
def sameAll : List Node → List Node → Bool
  | [], [] => true
  | a :: as, b :: bs => same a b && sameAll as bs
  | _, _ => false
termination_by structural as => as

/-- The alternatives are the same. -/
def sameBranches : List (List Node) → List (List Node) → Bool
  | [], [] => true
  | a :: as, b :: bs => sameAll a b && sameBranches as bs
  | _, _ => false
termination_by structural as => as
end

mutual
theorem same_iff (a b : Node) : same a b = true ↔ a = b := by
  cases a <;> cases b <;> simp [same, sameAll_iff, sameBranches_iff, and_assoc]
termination_by structural a

theorem sameAll_iff (as bs : List Node) : sameAll as bs = true ↔ as = bs := by
  cases as <;> cases bs <;> simp [sameAll, same_iff, sameAll_iff]
termination_by structural as

theorem sameBranches_iff (as bs : List (List Node)) : sameBranches as bs = true ↔ as = bs := by
  cases as <;> cases bs <;> simp [sameBranches, sameAll_iff, sameBranches_iff]
termination_by structural as
end

instance : DecidableEq Node := fun a b => decidable_of_iff _ (same_iff a b)

end Node

/-- The least and the greatest number of characters a part matches. -/
structure Width where
  least : Nat
  most : Nat
  deriving DecidableEq, Repr

namespace Width

/-- No bound on the number of characters. -/
def unbounded : Nat := Nat.pow 2 64

/-- The width of two parts in sequence. -/
def add (a b : Width) : Width := ⟨a.least + b.least, a.most + b.most⟩

/-- The width of a choice between two parts. -/
def join (a b : Width) : Width := ⟨min a.least b.least, max a.most b.most⟩

/-- The width kept within the bound. -/
def clamp (w : Width) : Width := ⟨min w.least unbounded, min w.most unbounded⟩

/-- The width of a part repeated. -/
def times (w : Width) (least : Nat) (most : Option Nat) : Width :=
  ⟨w.least * least,
   match most with
   | some n => w.most * n
   | none => if w.most = 0 then 0 else unbounded⟩

end Width

mutual
/-- The width of a construct, where `captures` holds the widths of the groups. -/
def Node.width (captures : List (Option Width)) (n : Node) : Width :=
  match n with
  | .code _ _ => ⟨1, 1⟩
  | .set _ _ => ⟨1, 1⟩
  | .any => ⟨1, 1⟩
  | .anchor _ => ⟨0, 0⟩
  | .group _ _ _ body => sequenceWidth captures body
  | .atomic body => sequenceWidth captures body
  | .repeated _ least most body => (sequenceWidth captures body).times least most
  | .ahead _ _ => ⟨0, 0⟩
  | .behind _ _ => ⟨0, 0⟩
  | .reference capture => (captures.getD capture none).getD ⟨0, 0⟩
  | .conditional _ yes no =>
    (sequenceWidth captures yes).join (sequenceWidth captures no)
  | .branch alternatives => choiceWidth captures alternatives
termination_by structural n

/-- The width of constructs in sequence. -/
def sequenceWidth (captures : List (Option Width)) (ns : List Node) : Width :=
  match ns with
  | [] => ⟨0, 0⟩
  | n :: rest => ((n.width captures).add (sequenceWidth captures rest)).clamp
termination_by structural ns

/-- The width of a choice. -/
def choiceWidth (captures : List (Option Width)) (alternatives : List (List Node)) : Width :=
  match alternatives with
  | [] => ⟨Width.unbounded, 0⟩
  | a :: rest => (sequenceWidth captures a).join (choiceWidth captures rest)
termination_by structural alternatives
end

end Intake.Pattern
