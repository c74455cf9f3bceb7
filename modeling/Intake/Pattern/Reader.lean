import Intake.Pattern.Flaw
import Intake.Pattern.Syntax
import Intake.Pattern.Token
import Intake.Text.CharClass

/-!
# Reading tokens of patterns

The state of reading a pattern and the steps that take tokens from it. A lone backslash at the end
is met as soon as it comes next.
-/

namespace Intake.Pattern

/-- What is left of a pattern and what is known of the part already read. `widths` belongs to the
    groups, counted from the whole pattern, and is open for a group that is not closed yet;
    `behindFrom` is the first group opened inside a look-behind; `conditions` are the positions of
    groups that conditions ask about by number. -/
structure Reader where
  rest : List Token
  length : Nat
  mode : Mode
  names : List (String × Nat)
  widths : List (Option Width)
  behindFrom : Option Nat
  conditions : List (Nat × Nat)

/-- Reading with the chance of a flaw. -/
abbrev Read := StateT Reader (Except Flaw)

namespace Read

/-- The text of a token. -/
def textOf (token : List Char) : String :=
  String.ofList token

/-- The position of the next token. -/
def position : Read Nat := do
  let r ← get
  match r.rest with
  | t :: _ => return t.position
  | [] => return r.length

/-- Fails at a position. -/
def failAt {α : Type} (cause : Cause) (position : Nat) : Read α :=
  throw (.malformed cause (some position))

/-- Fails `offset` characters before the next token. -/
def fail {α : Type} (cause : Cause) (offset : Nat) : Read α := do
  failAt cause ((← position) - offset)

/-- A lone backslash must not come next. -/
def checkNext : Read Unit := do
  let r ← get
  match r.rest with
  | t :: _ => if t.isBroken then failAt .trailingBackslash (r.length - 1) else return ()
  | [] => return ()

/-- The next token. -/
def peek : Read (Option (List Char)) := do
  return ((← get).rest.head?).map (·.text)

/-- Takes the next token. -/
def next : Read (Option (List Char)) := do
  let r ← get
  match r.rest with
  | [] => return none
  | t :: rest =>
    set { r with rest := rest }
    checkNext
    return some t.text

/-- Takes the next token if it is the character. -/
def accept (c : Char) : Read Bool := do
  if (← peek) == some [c] then
    let _ ← next
    return true
  else return false

/-- Takes up to `n` characters of a class. -/
def takeUpTo (member : Char → Bool) : Nat → Read (List Char)
  | 0 => return []
  | n + 1 => do
    match ← peek with
    | some [c] =>
      if member c then
        let _ ← next
        return c :: (← takeUpTo member n)
      else return []
    | _ => return []

/-- Takes the digits that come next. -/
def takeDigits : Read (List Char) := do
  takeUpTo Text.isLatinDigit (← get).rest.length

/-- Takes a name up to its closing character, where `read` is the part already taken. -/
def takeNameFrom (closing : Char) (what : String) :
    Nat → List Char → Read (List Char)
  | 0, _ => fail (.missing what) 0
  | fuel + 1, read => do
    match ← next with
    | none =>
      if read.isEmpty then fail (.missing what) 0
      else fail (.unterminatedName (String.singleton closing)) read.length
    | some token =>
      if token == [closing] then
        if read.isEmpty then fail (.missing what) 1 else return read
      else takeNameFrom closing what fuel (read ++ token)

/-- Takes a name up to its closing character. -/
def takeName (closing : Char) (what : String) : Read (List Char) := do
  takeNameFrom closing what ((← get).rest.length + 1) []

/-- The number of groups, the whole pattern counting as one. -/
def groupCount : Read Nat := do
  return (← get).widths.length

/-- The group has been closed. -/
def isClosed (group : Nat) : Read Bool := do
  return ((← get).widths.getD group none).isSome

/-- Inside a look-behind only groups from before it may be referred to. -/
def checkBehind (group : Nat) : Read Unit := do
  match (← get).behindFrom with
  | none => return ()
  | some first =>
    if !(← isClosed group) then fail .openGroup 0
    if first ≤ group then fail .groupInLookbehind 0

/-- Opens a group. -/
def openGroup (name : Option String) : Read Nat := do
  let r ← get
  let group := r.widths.length
  match name with
  | none =>
    set { r with widths := r.widths ++ [none] }
    return group
  | some name =>
    match r.names.lookup name with
    | some before =>
      set { r with widths := r.widths ++ [none] }
      fail (.takenGroupName name group before) (name.length + 1)
    | none =>
      set { r with widths := r.widths ++ [none], names := r.names ++ [(name, group)] }
      return group

/-- Closes a group. -/
def closeGroup (group : Nat) (body : List Node) : Read Unit :=
  modify fun r => { r with widths := r.widths.set group (some (sequenceWidth r.widths body)) }

end Read

end Intake.Pattern
