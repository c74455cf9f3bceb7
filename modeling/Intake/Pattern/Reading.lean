import Intake.Pattern.Escape
import Intake.Text.Identifier

/-!
# Reading patterns

The text of a regular expression read as a tree. Reading goes on by tokens; sequences, choices and
groups call each other, each with at least one token taken in between, so that their depth is
bounded by the number of tokens.
-/

namespace Intake.Pattern

open Intake.Text

/-- The first count of repetitions that is too large. -/
def countLimit : Nat := 4294967295

/-- The first number of a group that cannot exist. -/
def groupLimit : Nat := 1073741823

/-- The blanks that a verbose pattern passes over. -/
def isPatternBlank (c : Char) : Bool :=
  c == ' ' || c == '\t' || c == '\n' || c == '\r' || c.toNat == 11 || c.toNat == 12

namespace Read

/-- The item a token stands for in a set. -/
def setItem (token : List Char) : Read SetItem :=
  match token with
  | [_, c] => setEscape c
  | [c] => return .code c.toNat
  | _ => return .code 0

/-- Takes the items of a set up to its closing bracket. The set begins at `start`. -/
def setItems (start : Nat) : Nat → List SetItem → Read (List SetItem)
  | 0, _ => failAt .unterminatedSet start
  | fuel + 1, items => do
    match ← next with
    | none => failAt .unterminatedSet start
    | some low =>
      if low == [']'] && !items.isEmpty then return items
      let item ← setItem low
      if !(← accept '-') then setItems start fuel (items ++ [item])
      else
        match ← next with
        | none => failAt .unterminatedSet start
        | some high =>
          if high == [']'] then return items ++ [item, .code '-'.toNat]
          let last ← setItem high
          match item, last with
          | .code a, .code b =>
            if b < a then
              fail (.badRange (textOf low) (textOf high)) (low.length + 1 + high.length)
            else setItems start fuel (items ++ [.range a b])
          | _, _ => fail (.badRange (textOf low) (textOf high)) (low.length + 1 + high.length)

/-- Takes a set behind its opening bracket, which stands at `start`. -/
def set (start : Nat) : Read Node := do
  let negated ← accept '^'
  let items ← setItems start ((← get).rest.length + 1) []
  return .set items negated

/-- The count that digits write. -/
def count (digits : List Char) : Read Nat :=
  if Number.digitLimit < digits.length then throw (.longCount digits.length)
  else
    let n := codeOf 10 digits
    if countLimit ≤ n then throw .hugeCount else return n

/-- Takes the counts in braces. There are none when the braces hold anything else; then nothing is
    taken. -/
def counts : Read (Option (Nat × Option Nat)) := do
  let before ← get
  let here ← position
  if (← peek) == some ['}'] then return none
  let low ← takeDigits
  let high ← if ← accept ',' then takeDigits else pure low
  if ← accept '}' then
    let least ← if low.isEmpty then pure 0 else count low
    if high.isEmpty then return some (least, none)
    let most ← count high
    if most < least then failAt .crossedCounts here
    return some (least, some most)
  else
    StateT.set before
    return none

/-- Takes the mark behind a repetition that tells how it looks for its number of rounds. -/
def greed : Read Greed := do
  if ← accept '?' then return .lazy
  if ← accept '+' then return .possessive
  return .greedy

/-- The sequence, last node first, with its last node repeated. The mark of the repetition ends
    at `here`. -/
def repeatLast (here least : Nat) (most : Option Nat) (nodes : List Node) : Read (List Node) := do
  match nodes with
  | [] => failAt .nothingToRepeat (here - 1)
  | .anchor _ :: _ => failAt .nothingToRepeat (here - 1)
  | .repeated _ _ _ _ :: _ => failAt .multipleRepeat (here - 1)
  | node :: before =>
    return .repeated (← greed) least most [node] :: before

/-- The switch a token stands for. -/
def switchOf? : List Char → Option Switch
  | [c] => Switch.ofChar? c
  | _ => none

/-- Fails on a token that is no switch. -/
def failSwitch {α : Type} (token : List Char) (what : String) : Read α :=
  fail (if token.all isLetter then .unknownSwitch else .missing what) token.length

/-- Takes the switches turned on, from one already taken, and the token behind them. -/
def switchesOn : Nat → List Switch → Switch → Read (List Switch × List Char)
  | 0, _, _ => fail (.missing "-, : or )") 0
  | fuel + 1, on, s => do
    if s == .locale then fail .localeSwitch 0
    if s.choosesSet && on.any (fun t => t.choosesSet && t != s) then fail .clashingSwitches 0
    match ← next with
    | none => fail (.missing "-, : or )") 0
    | some token =>
      if token == [')'] || token == ['-'] || token == [':'] then return (on ++ [s], token)
      match switchOf? token with
      | some t => switchesOn fuel (on ++ [s]) t
      | none => failSwitch token "-, : or )"

/-- Takes the switches turned off, from one already taken, with the colon behind them. -/
def switchesOff : Nat → List Switch → Switch → Read (List Switch)
  | 0, _, _ => fail (.missing ":") 0
  | fuel + 1, off, s => do
    if s.choosesSet then fail .setSwitchOff 0
    match ← next with
    | none => fail (.missing ":") 0
    | some token =>
      if token == [':'] then return off ++ [s]
      match switchOf? token with
      | some t => switchesOff fuel (off ++ [s]) t
      | none => failSwitch token ":"

/-- Takes the switches of a group from their first token: those turned on and off in the group, or
    nothing when the switches apply to the whole pattern. -/
def switches (first : List Char) : Read (Option (List Switch × List Switch)) := do
  let fuel := (← get).rest.length + 1
  let (on, token) ←
    match switchOf? first with
    | some s => switchesOn fuel [] s
    | none => pure ([], first)
  if token == [')'] then
    modify fun r => { r with mode := on.foldl (Switch.turn true) r.mode }
    return none
  if on.contains .template then fail .globalSwitchOn 1
  let off ←
    if token == ['-'] then
      match ← next with
      | none => fail (.missing "flag") 0
      | some token =>
        match switchOf? token with
        | some s => switchesOff fuel [] s
        | none => failSwitch token "flag"
    else pure []
  if off.contains .template then fail .globalSwitchOff 1
  if on.any off.contains then fail .switchOnAndOff 1
  return some (on, off)

/-- Takes the closing parenthesis of the group that begins at `start`. -/
def closing (start : Nat) : Read Unit := do
  if !(← accept ')') then failAt .unterminatedGroup start

/-- Takes a comment up to its closing parenthesis. -/
def comment (start : Nat) : Nat → Read Unit
  | 0 => failAt .unterminatedComment start
  | fuel + 1 => do
    match ← next with
    | none => failAt .unterminatedComment start
    | some token => if token == [')'] then return () else comment start fuel

/-- Takes the rest of a line. -/
def restOfLine : Nat → Read Unit
  | 0 => return ()
  | fuel + 1 => do
    match ← next with
    | none => return ()
    | some token => if token == ['\n'] then return () else restOfLine fuel

/-- Takes a group name up to its closing character. -/
def groupName (closing : Char) : Read String := do
  let name ← takeName closing "group name"
  if isIdentifierText name then return textOf name
  else fail (.badGroupName (textOf name)) (name.length + 1)

/-- The reference to a group by its name. -/
def namedReference : Read Node := do
  let name ← groupName ')'
  match (← get).names.lookup name with
  | none => fail (.unknownGroupName name) (name.length + 1)
  | some group =>
    if !(← isClosed group) then fail .openGroup (name.length + 1)
    checkBehind group
    return .reference group

/-- Takes the group that a condition asks about. -/
def condition : Read Nat := do
  let name ← takeName ')' "group name"
  let group ←
    if isIdentifierText name then
      match (← get).names.lookup (textOf name) with
      | none => fail (.unknownGroupName (textOf name)) (name.length + 1)
      | some group => pure group
    else
      match Number.readInt 10 name with
      | .error _ => fail (.badGroupName (textOf name)) (name.length + 1)
      | .ok n =>
        if n < 0 then fail (.badGroupName (textOf name)) (name.length + 1)
        if n = 0 then fail .badGroupNumber (name.length + 1)
        if groupLimit ≤ n.toNat then fail (.unknownReference n.toNat) (name.length + 1)
        let asked := (← position) - name.length - 1
        modify fun r =>
          if (r.conditions.lookup n.toNat).isSome then r
          else { r with conditions := r.conditions ++ [(n.toNat, asked)] }
        pure n.toNat
  checkBehind group
  return group

/-- What the tokens behind an opening parenthesis call for. -/
inductive Opening where
  | capture (name : Option String)
  | plain (on off : List Switch)
  | atomic
  | look (ahead negated : Bool)
  | conditional (group : Nat)
  | node (n : Node)
  | nothing
  | switched

/-- Takes the tokens that tell the kind of a group, which begins at `start`. -/
def opening (start : Nat) : Read Opening := do
  if !(← accept '?') then return .capture none
  match ← next with
  | none => fail .unexpectedEnd 0
  | some ['P'] =>
    if ← accept '<' then return .capture (some (← groupName '>'))
    if ← accept '=' then return .node (← namedReference)
    match ← next with
    | none => fail .unexpectedEnd 0
    | some token => fail (.unknownExtension ("P" ++ textOf token)) (token.length + 2)
  | some [':'] => return .plain [] []
  | some ['#'] =>
    comment start ((← get).rest.length + 1)
    return .nothing
  | some ['='] => return .look true false
  | some ['!'] => return .look true true
  | some ['<'] =>
    match ← next with
    | none => fail .unexpectedEnd 0
    | some ['='] => return .look false false
    | some ['!'] => return .look false true
    | some token => fail (.unknownExtension ("<" ++ textOf token)) (token.length + 2)
  | some ['('] => return .conditional (← condition)
  | some ['>'] => return .atomic
  | some token =>
    if (switchOf? token).isSome || token == ['-'] then
      match ← switches token with
      | none => return .switched
      | some (on, off) => return .plain on off
    else fail (.unknownExtension (textOf token)) (token.length + 1)

mutual
/-- Takes a choice between sequences. `top` tells that it is the whole pattern. -/
def choice (fuel : Nat) (verbose top : Bool) (before : List (List Node)) : Read (List Node) :=
  match fuel with
  | 0 => fail .unexpectedEnd 0
  | fuel + 1 => do
    let nodes ← sequence fuel verbose (top && before.isEmpty) []
    let all := before ++ [nodes]
    if ← accept '|' then
      let mode := (← get).mode
      choice fuel (if top then mode.verbose else verbose) top all
    else
      match all with
      | [only] => return only
      | _ => return [.branch all]
termination_by structural fuel

/-- Takes a sequence, where `nodes` are the nodes already taken, last node first. Switches for the
    whole pattern may stand at its beginning only, which `first` tells. -/
def sequence (fuel : Nat) (verbose first : Bool) (nodes : List Node) : Read (List Node) :=
  match fuel with
  | 0 => fail .unexpectedEnd 0
  | fuel + 1 => do
    match ← peek with
    | none => return nodes.reverse
    | some ['|'] => return nodes.reverse
    | some [')'] => return nodes.reverse
    | some token =>
      let start ← position
      let _ ← next
      match token with
      | [_, c] => sequence fuel verbose first ((← nodeEscape c) :: nodes)
      | [c] =>
        if verbose && isPatternBlank c then sequence fuel verbose first nodes
        else if verbose && c == '#' then
          restOfLine ((← get).rest.length + 1)
          sequence fuel verbose first nodes
        else match c with
          | '[' => sequence fuel verbose first ((← set start) :: nodes)
          | '?' => sequence fuel verbose first (← repeatLast (start + 1) 0 (some 1) nodes)
          | '*' => sequence fuel verbose first (← repeatLast (start + 1) 0 none nodes)
          | '+' => sequence fuel verbose first (← repeatLast (start + 1) 1 none nodes)
          | '{' =>
            match ← counts with
            | none => sequence fuel verbose first (.code c.toNat false :: nodes)
            | some (least, most) =>
              sequence fuel verbose first (← repeatLast (start + 1) least most nodes)
          | '.' => sequence fuel verbose first (.any :: nodes)
          | '^' => sequence fuel verbose first (.anchor .lineStart :: nodes)
          | '$' => sequence fuel verbose first (.anchor .lineEnd :: nodes)
          | '(' =>
            match ← opening start with
            | .nothing => sequence fuel verbose first nodes
            | .node n => sequence fuel verbose first (n :: nodes)
            | .switched =>
              if !first || !nodes.isEmpty then failAt .lateSwitches start
              sequence fuel (← get).mode.verbose first nodes
            | .capture name =>
              let group ← openGroup name
              let body ← choice fuel verbose false []
              closing start
              closeGroup group body
              sequence fuel verbose first (.group (some group) [] [] body :: nodes)
            | .plain on off =>
              let inner := (verbose || on.contains .verbose) && !off.contains .verbose
              let body ← choice fuel inner false []
              closing start
              sequence fuel verbose first (.group none on off body :: nodes)
            | .atomic =>
              let body ← choice fuel verbose false []
              closing start
              sequence fuel verbose first (.atomic body :: nodes)
            | .look ahead negated =>
              let outer := (← get).behindFrom
              if !ahead && outer.isNone then
                modify fun r => { r with behindFrom := some r.widths.length }
              let body ← choice fuel verbose false []
              if !ahead then modify fun r => { r with behindFrom := outer }
              closing start
              let node := if ahead then Node.ahead negated body else Node.behind negated body
              sequence fuel verbose first (node :: nodes)
            | .conditional group =>
              let yes ← sequence fuel verbose false []
              let no ←
                if ← accept '|' then
                  let no ← sequence fuel verbose false []
                  if (← peek) == some ['|'] then fail .thirdBranch 0
                  pure no
                else pure []
              closing start
              sequence fuel verbose first (.conditional group yes no :: nodes)
          | _ => sequence fuel verbose first (.code c.toNat false :: nodes)
      | _ => fail .unexpectedEnd 0
termination_by structural fuel
end

/-- Takes a whole pattern. -/
def whole : Read (List Node) := do
  checkNext
  let nodes ← choice (4 * (← get).rest.length + 8) false true []
  let r ← get
  if r.mode.ascii && r.mode.unicode then throw .clashingSets
  if !r.rest.isEmpty then fail .unbalanced 0
  match r.conditions.find? fun c => r.widths.length ≤ c.1 with
  | some (group, asked) => failAt (.unknownReference group) asked
  | none => return nodes

end Read

/-- The name of a repetition in the message about templates. -/
def Greed.templateName : Greed → String
  | greedy => "MAX_REPEAT"
  | lazy => "MIN_REPEAT"
  | possessive => "POSSESSIVE_REPEAT"

mutual
/-- What is wrong with a construct that reads well: a repetition in a template, or a look-behind of
    no fixed width. -/
def Node.check (template : Bool) (captures : List (Option Width)) (n : Node) : Except Flaw Unit :=
  match n with
  | .group _ _ _ body => checkSequence template captures body
  | .atomic body => checkSequence template captures body
  | .repeated greed _ _ body =>
    if template then throw (.malformed (.repeatInTemplate greed.templateName) none)
    else checkSequence template captures body
  | .ahead _ body => checkSequence template captures body
  | .behind _ body =>
    let w := sequenceWidth captures body
    if countLimit < w.least then throw (.malformed .farLookbehind none)
    else if w.least ≠ w.most then throw (.malformed .looseLookbehind none)
    else checkSequence template captures body
  | .conditional _ yes no => do
    checkSequence template captures yes
    checkSequence template captures no
  | .branch alternatives => checkChoice template captures alternatives
  | _ => return ()
termination_by structural n

/-- What is wrong with constructs in sequence. -/
def checkSequence (template : Bool) (captures : List (Option Width)) (ns : List Node) :
    Except Flaw Unit :=
  match ns with
  | [] => return ()
  | n :: rest => do
    n.check template captures
    checkSequence template captures rest
termination_by structural ns

/-- What is wrong with a choice. -/
def checkChoice (template : Bool) (captures : List (Option Width))
    (alternatives : List (List Node)) : Except Flaw Unit :=
  match alternatives with
  | [] => return ()
  | a :: rest => do
    checkSequence template captures a
    checkChoice template captures rest
termination_by structural alternatives
end

/-- A pattern that reads well, the widths of its groups and the mode it begins in. -/
structure Regex where
  nodes : List Node
  captures : List (Option Width)
  mode : Mode
  deriving DecidableEq

/-- The pattern a text denotes. -/
def Regex.read (s : List Char) : Except Flaw Regex := do
  let reader : Reader := ⟨Token.ofText s, s.length, Mode.initial, [], [none], none, []⟩
  let (nodes, r) ← Read.whole.run reader
  checkSequence r.mode.template r.widths nodes
  return ⟨nodes, r.widths, r.mode⟩

end Intake.Pattern
