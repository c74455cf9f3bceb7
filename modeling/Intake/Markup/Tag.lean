import Intake.Markup.Entity
import Intake.Text.Blank
import Intake.Text.Casing

/-!
# Start tags

The name and the attributes of a start tag. Names and values are read as far as they go: a value
whose quote is not closed is taken without it, and what cannot be an attribute ends the tag.
-/

namespace Intake.Markup

open Intake.Text

/-- The name of an attribute and its value, where it has one. -/
abbrev Attribute := String × Option String

/-- A character of a tag name. -/
def isTagNameChar (c : Char) : Bool :=
  !(c == '\t' || c == '\n' || c == '\r' || c.toNat == 12 || c == ' ' || c == '/' || c == '>' ||
    c.toNat == 0)

/-- A character that begins the name of an attribute. -/
def isAttributeHead (c : Char) : Bool :=
  !isBlank c && c != '/' && c != '>'

/-- A character of the name of an attribute behind the first. -/
def isAttributeTail (c : Char) : Bool :=
  !isBlank c && c != '/' && c != '=' && c != '>'

/-- A character that an attribute may follow. -/
def mayPrecedeAttribute (c : Char) : Bool :=
  c == '\'' || c == '"' || c == '/' || isBlank c

/-- A text still to be read, with the character before it. -/
structure Cursor where
  before : Char
  rest : List Char

namespace Cursor

/-- The cursor behind the first `n` characters. -/
def skip (n : Nat) (k : Cursor) : Cursor :=
  ⟨((k.rest.take n).getLast?).getD k.before, k.rest.drop n⟩

end Cursor

/-- The number of characters in the gap a text begins with: blanks and slashes that do not close the
    tag. -/
def gapLength : List Char → Nat
  | [] => 0
  | c :: rest =>
    if isBlank c || (c == '/' && rest.head? != some '>') then gapLength rest + 1 else 0

/-- The value a text begins with, behind the equals signs, and its length: a quoted text, or what
    stands before the next blank or the end of the tag. There is none when a quote is not closed. -/
def valueAt? (s : List Char) : Option (List Char × Nat) :=
  match s with
  | c :: rest =>
    if c == '\'' || c == '"' then
      let inner := rest.takeWhile (· != c)
      if inner.length < rest.length then some (inner, inner.length + 2) else none
    else
      let bare := s.takeWhile fun d => d != '>' && !isBlank d
      some (bare, bare.length)
  | [] => some ([], 0)

/-- The value behind the name of an attribute, and the length of both the equals signs and the
    value. Where a quote is not closed the value is empty if a blank precedes the quote, begins with
    an equals sign if there are several, and is missing otherwise. -/
def assignment? (s : List Char) : Option (List Char × Nat) :=
  let blanks := (s.takeWhile isBlank).length
  let signs := ((s.drop blanks).takeWhile (· == '=')).length
  let gap := ((s.drop (blanks + signs)).takeWhile isBlank).length
  if signs = 0 then none
  else
    match valueAt? (s.drop (blanks + signs + gap)) with
    | some (value, length) => some (value, blanks + signs + gap + length)
    | none =>
      if 0 < gap then some ([], blanks + signs + gap - 1)
      else if 1 < signs then
        (valueAt? (s.drop (blanks + signs - 1))).map fun (value, length) =>
          (value, blanks + signs - 1 + length)
      else none

/-- The attribute at a cursor, its value still encoded, and the cursor behind it and the gap that
    follows. -/
def attributeAt? (k : Cursor) : Option ((List Char × Option (List Char)) × Cursor) :=
  match k.rest with
  | [] => none
  | c :: rest =>
    if !mayPrecedeAttribute k.before || !isAttributeHead c then none
    else
      let name := c :: rest.takeWhile isAttributeTail
      let behindName := k.skip name.length
      let (value, behindValue) :=
        match assignment? behindName.rest with
        | some (value, length) => (some value, behindName.skip length)
        | none => (none, behindName)
      some ((name, value), behindValue.skip (gapLength behindValue.rest))

/-- The attributes from a cursor on, and the cursor behind them. -/
def attributesFrom : Nat → Cursor → List (List Char × Option (List Char)) × Cursor
  | 0, k => ([], k)
  | fuel + 1, k =>
    match attributeAt? k with
    | none => ([], k)
    | some (a, k) =>
      let (as, k) := attributesFrom fuel k
      (a :: as, k)

/-- The text in lower case. -/
def lowered (s : List Char) : String :=
  lowerString (String.ofList s)

/-- The attribute with its name in lower case and its value decoded. -/
def decodeAttribute (a : List Char × Option (List Char)) : Except Flaw Attribute :=
  match a.2 with
  | none => .ok (lowered a.1, none)
  | some value => (Entity.decode value).map fun v => (lowered a.1, some (String.ofList v))

/-- What the text of a start tag amounts to: a tag and the length of its text, a length of text
    that is no tag after all, or nothing yet because its end is missing. -/
inductive StartTag where
  | tag (name : String) (attributes : List Attribute) (closed : Bool) (length : Nat)
  | text (length : Nat)
  | unfinished

/-- The start tag of a text that begins with `<` and a letter. A tag ends with `>` or `/>`. -/
def StartTag.read (s : List Char) : Except Flaw StartTag :=
  let name := s.tail.takeWhile isTagNameChar
  let behindName : Cursor := Cursor.skip (name.length + 1) ⟨'<', s⟩
  let slack := (behindName.rest.takeWhile fun c => isBlank c || c == '/').length
  let stop := (attributesFrom s.length (behindName.skip slack)).2.rest
  let read := s.length - stop.length
  match stop with
  | [] => .ok .unfinished
  | '/' :: '>' :: _ => finish name behindName (read + 2)
  | '>' :: _ => finish name behindName (read + 1)
  | c :: _ =>
    if isLatinLetter c || c == '=' || c == '/' then .ok .unfinished else .ok (.text read)
where
  /-- The tag whose end has been found after `length` characters. -/
  finish (name : List Char) (behindName : Cursor) (length : Nat) : Except Flaw StartTag :=
    let gapped := behindName.skip (gapLength behindName.rest)
    let (attributes, behind) := attributesFrom s.length gapped
    let ending := trim (behind.rest.take (length - (s.length - behind.rest.length)))
    if ending == ['>'] || ending == ['/', '>'] then
      (attributes.mapM decodeAttribute).map fun as =>
        .tag (lowered name) as (ending == ['/', '>']) length
    else .ok (.text length)

end Intake.Markup
