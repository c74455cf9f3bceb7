import Intake.Markup.Tag
import Intake.Text.Quoted

/-!
# Events of markup

A text read as markup: start tags, end tags and the text between them, in order. Comments,
declarations and instructions are passed over. What has no end is text after all, up to the end of
the next tag or the beginning of the next one.
-/

namespace Intake.Markup

open Intake.Text

namespace Flaw

/-- The message about a text that is not read as markup. -/
def message : Flaw → String
  | nameExpected text => "expected name token at " ++ String.ofList (quoted text)
  | unknownSection text =>
    "unknown status keyword " ++ String.ofList (quoted text) ++ " in marked section"
  | tooManyDigits count => Number.IntMisread.message (.tooManyDigits count)

end Flaw

/-- What happens while markup is read. -/
inductive Event where
  | start (name : String) (attributes : List Attribute)
  | closedStart (name : String) (attributes : List Attribute)
  | finish (name : String)
  | text (s : List Char)
  deriving DecidableEq

/-- What a text begins with: an event or none, its length, and the element whose content is not
    markup, if it begins here. Nothing is found where the end is missing. -/
inductive Found where
  | event (e : Event) (length : Nat)
  | raw (e : Event) (element : String) (length : Nat)
  | passed (length : Nat)
  | unfinished

/-- The length of a text up to and with the next `>`. -/
def lengthToClose? (s : List Char) : Option Nat :=
  let n := (s.takeWhile (· != '>')).length
  if n < s.length then some (n + 1) else none

/-- The length of what the marks, each with blanks before it but the first, close a text with. -/
def marksLength? (marks s : List Char) : Option Nat :=
  match marks with
  | [] => some 0
  | m :: rest =>
    match s with
    | [] => none
    | c :: s =>
      if c == m then
        let blanks := if rest.isEmpty then 0 else (s.takeWhile isBlank).length
        (marksLength? rest (s.drop blanks)).map (· + blanks + 1)
      else none

/-- The length of a text up to and with the first place that the marks close. -/
def lengthToMarks? (marks : List Char) : List Char → Option Nat
  | [] => none
  | c :: rest =>
    match marksLength? marks (c :: rest) with
    | some n => some n
    | none => (lengthToMarks? marks rest).map (· + 1)

/-- The comment that closes a text with two hyphens and `>`. The hyphens stand together. -/
def lengthToCommentEnd? : List Char → Option Nat
  | [] => none
  | c :: rest =>
    let here :=
      if c == '-' && rest.head? == some '-' then
        (marksLength? ['-', '>'] rest).map (· + 1)
      else none
    match here with
    | some n => some n
    | none => (lengthToCommentEnd? rest).map (· + 1)

/-- A found construct of a given length. -/
def passedBy (offset : Nat) (length : Option Nat) : Found :=
  match length with
  | some n => .passed (offset + n)
  | none => .unfinished

/-- A character of the name of a marked section behind the first. -/
def isSectionChar (c : Char) : Bool :=
  isNameTail c || c == '-' || c == '.'

/-- The marked section of a text that begins with `<![`. -/
def readSection (s : List Char) : Except Flaw Found :=
  let body := s.drop 3
  match body with
  | [] => .ok .unfinished
  | c :: rest =>
    if !isLatinLetter c then .error (.nameExpected (s.take 20))
    else
      let name := c :: rest.takeWhile isSectionChar
      let blanks := ((body.drop name.length).takeWhile isBlank).length
      let word := String.ofList (Number.foldLatin name)
      if name.length + blanks == body.length then .ok .unfinished
      else if ["temp", "cdata", "ignore", "include", "rcdata"].contains word then
        .ok (passedBy 3 (lengthToMarks? [']', ']', '>'] body))
      else if ["if", "else", "endif"].contains word then
        .ok (passedBy 3 (lengthToMarks? [']', '>'] body))
      else .error (.unknownSection (body.take (name.length + blanks)))

/-- A character of the name of an end tag behind the first. -/
def isEndNameChar (c : Char) : Bool :=
  isNameTail c || c == '-' || c == '.' || c == ':'

/-- The name of an end tag that holds nothing else, in lower case. -/
def plainEndName? (s : List Char) : Option String :=
  let body := (s.drop 2).dropWhile isBlank
  match body with
  | [] => none
  | c :: rest =>
    let name := c :: rest.takeWhile isEndNameChar
    let behind := (body.drop name.length).dropWhile isBlank
    if isLatinLetter c && behind.head? == some '>' then some (lowered name) else none

/-- The end tag of a text that begins with `</`. -/
def readEndTag (s : List Char) : Found :=
  match lengthToClose? s with
  | none => .unfinished
  | some n =>
    match plainEndName? s with
    | some name => .event (.finish name) n
    | none =>
      match s.drop 2 with
      | c :: rest =>
        if isLatinLetter c then .event (.finish (lowered (c :: rest.takeWhile isTagNameChar))) n
        else .passed n
      | [] => .passed n

/-- The elements whose content is not markup. -/
def rawElements : List String := ["script", "style"]

/-- The start tag of a text that begins with `<` and a letter. -/
def readStartTag (s : List Char) : Except Flaw Found :=
  (StartTag.read s).map fun tag =>
    match tag with
    | .unfinished => .unfinished
    | .text n => .event (.text (s.take n)) n
    | .tag name attributes closed n =>
      if closed then .event (.closedStart name attributes) n
      else if rawElements.contains name then .raw (.start name attributes) name n
      else .event (.start name attributes) n

/-- What a text that begins with `<` begins with. -/
def readConstruct (s : List Char) : Except Flaw Found :=
  match s.tail with
  | [] => .ok .unfinished
  | '/' :: _ => .ok (readEndTag s)
  | '!' :: '-' :: '-' :: rest => .ok (passedBy 4 (lengthToCommentEnd? rest))
  | '!' :: '[' :: _ => readSection s
  | '!' :: rest => .ok (passedBy 2 (lengthToClose? rest))
  | '?' :: rest => .ok (passedBy 2 (lengthToClose? rest))
  | c :: _ =>
    if isLatinLetter c then readStartTag s else .ok (.event (.text ['<']) 1)

/-- The length of a construct without an end: up to the end of the next tag, else up to the
    beginning of the next, else one character. -/
def strayLength (s : List Char) : Nat :=
  match lengthToClose? s.tail with
  | some n => n + 1
  | none =>
    let n := (s.tail.takeWhile (· != '<')).length
    if n < s.tail.length then n + 1 else 1

/-- The content of a raw element: the length of the text before its end tag, and the length of the
    tag. -/
def rawEnd? (element : String) : List Char → Option (Nat × Nat)
  | [] => none
  | c :: rest =>
    let here :=
      if c == '<' && rest.head? == some '/' && plainEndName? (c :: rest) == some element then
        lengthToClose? (c :: rest)
      else none
    match here with
    | some n => some (0, n)
    | none => (rawEnd? element rest).map fun (before, n) => (before + 1, n)

/-- The event of a text, when there is some. -/
def textEvent (s : List Char) : List Event :=
  if s.isEmpty then [] else [.text s]

/-- The events of a text; `element` is the raw element it is the content of. -/
def eventsFrom : Nat → Option String → List Char → Except Flaw (List Event)
  | 0, _, _ => .ok []
  | _ + 1, _, [] => .ok []
  | fuel + 1, some element, s =>
    match rawEnd? element s with
    | none => .ok []
    | some (before, n) =>
      (eventsFrom fuel none (s.drop (before + n))).map fun es =>
        textEvent (s.take before) ++ .finish element :: es
  | fuel + 1, none, s => do
    let text := s.takeWhile (· != '<')
    let rest := s.dropWhile (· != '<')
    let decoded ← Entity.decode text
    match rest with
    | [] => return textEvent decoded
    | _ =>
      let found ← readConstruct rest
      let (events, element, n) ←
        match found with
        | .event e n => pure ([e], none, n)
        | .raw e element n => pure ([e], some element, n)
        | .passed n => pure ([], none, n)
        | .unfinished =>
          let n := strayLength rest
          pure (textEvent (← Entity.decode (rest.take n)), none, n)
      let more ← eventsFrom fuel element (rest.drop n)
      return textEvent decoded ++ events ++ more

/-- The events of a text. -/
def events (s : List Char) : Except Flaw (List Event) :=
  eventsFrom (s.length + 1) none s

end Intake.Markup
