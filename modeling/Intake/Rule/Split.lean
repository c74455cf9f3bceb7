import Intake.Rule.Malformed

/-!
# Splitting rules

Separators divide a rule where they stand outside of brackets and quotes. Brackets of all kinds
count alike, and a quoted text ends with the quote it began with.
-/

namespace Intake.Rule

/-- An opening bracket. -/
def isOpening (c : Char) : Bool :=
  c == '(' || c == '[' || c == '{'

/-- A closing bracket. -/
def isClosing (c : Char) : Bool :=
  c == ')' || c == ']' || c == '}'

/-- A quote. -/
def isQuote (c : Char) : Bool :=
  c == '\'' || c == '"'

/-- Where a reader stands: the number of open brackets, and the quote that is open. -/
structure Scan where
  depth : Nat
  quote : Option Char
  deriving DecidableEq

namespace Scan

/-- Outside of all brackets and quotes. -/
def outside : Scan := ⟨0, none⟩

/-- Where a reader stands behind a character; nowhere behind a bracket that closes none. -/
def step (s : Scan) (c : Char) : Option Scan :=
  match s.quote with
  | some q => some (if c == q then ⟨s.depth, none⟩ else s)
  | none =>
    if isQuote c then some ⟨s.depth, some c⟩
    else if isOpening c then some ⟨s.depth + 1, none⟩
    else if isClosing c then (if s.depth = 0 then none else some ⟨s.depth - 1, none⟩)
    else some s

/-- A separator may stand here, before the character. -/
def divides (s : Scan) (c : Char) : Bool :=
  s.depth == 0 && s.quote.isNone && !isQuote c && !isOpening c && !isClosing c

end Scan

/-- The separator a text begins with: the first that fits, unless it is empty. -/
def separatorAt? (separators : List (List Char)) (s : List Char) : Option (List Char) :=
  (separators.find? (·.isPrefixOf s)).filter (!·.isEmpty)

/-- The pieces with a character in front of the first. -/
def prependChar (c : Char) : List (List Char) → List (List Char)
  | [] => [[c]]
  | piece :: pieces => (c :: piece) :: pieces

/-- The pieces of the rest of `text`, of which the first `skip` characters belong to a separator. -/
def splitFrom (text : List Char) (separators : List (List Char)) (scan : Scan) (skip : Nat) :
    List Char → Except Malformed (List (List Char))
  | [] => if scan = Scan.outside then .ok [[]] else .error (.unterminated text)
  | c :: rest =>
    match skip with
    | n + 1 => splitFrom text separators scan n rest
    | 0 =>
      match (if scan.divides c then separatorAt? separators (c :: rest) else none) with
      | some separator =>
        (splitFrom text separators scan (separator.length - 1) rest).map ([] :: ·)
      | none =>
        match scan.step c with
        | none => .error (.unbalanced c text)
        | some scan => (splitFrom text separators scan 0 rest).map (prependChar c)

/-- The pieces of a text between separators. -/
def split (separators : List (List Char)) (text : List Char) :
    Except Malformed (List (List Char)) :=
  splitFrom text separators Scan.outside 0 text

/-- What lies before the parenthesis that closes the outermost open bracket, and behind it. -/
def groupFrom (text : List Char) (scan : Scan) :
    List Char → Except Malformed (List Char × List Char)
  | [] => .error (.unclosedStage text)
  | c :: rest =>
    if scan.quote.isNone && isClosing c && scan.depth == 1 then
      if c == ')' then .ok ([], rest) else .error (.mismatched c text)
    else
      match scan.step c with
      | none => .error (.unclosedStage text)
      | some scan => (groupFrom text scan rest).map fun (body, r) => (c :: body, r)

/-- What lies between an opening parenthesis, which has been read, and the parenthesis that closes
    it, and what lies behind. -/
def group (text rest : List Char) : Except Malformed (List Char × List Char) :=
  groupFrom text ⟨1, none⟩ rest

end Intake.Rule
