import Intake.Number.Reading
import Intake.Text.Quoted

/-!
# Flaws of patterns

Why a text is not a pattern, and where. Counts too large to be kept and clashing choices of the set
of characters are flaws of another kind: they are not met by a message about the pattern.
-/

namespace Intake.Pattern

/-- What is wrong with the text of a pattern. Texts are given as they stand in it. -/
inductive Cause where
  | missing (what : String)
  | unterminatedName (closing : String)
  | trailingBackslash
  | incompleteEscape (text : String)
  | badEscape (text : String)
  | undefinedCharacter (name : String)
  | largeOctal (text : String)
  | openGroup
  | groupInLookbehind
  | unknownReference (n : Nat)
  | unterminatedSet
  | badRange (low high : String)
  | crossedCounts
  | nothingToRepeat
  | multipleRepeat
  | unexpectedEnd
  | badGroupName (name : String)
  | unknownGroupName (name : String)
  | takenGroupName (name : String) (group before : Nat)
  | unknownExtension (text : String)
  | unterminatedComment
  | unterminatedGroup
  | badGroupNumber
  | thirdBranch
  | lateSwitches
  | localeSwitch
  | clashingSwitches
  | unknownSwitch
  | globalSwitchOn
  | setSwitchOff
  | globalSwitchOff
  | switchOnAndOff
  | unbalanced
  | looseLookbehind
  | farLookbehind
  | repeatInTemplate (kind : String)
  deriving DecidableEq

namespace Cause

/-- What the cause says. -/
def message : Cause → String
  | missing what => "missing " ++ what
  | unterminatedName closing => "missing " ++ closing ++ ", unterminated name"
  | trailingBackslash => "bad escape (end of pattern)"
  | incompleteEscape text => "incomplete escape " ++ text
  | badEscape text => "bad escape " ++ text
  | undefinedCharacter name => "undefined character name " ++ Text.quotedString name
  | largeOctal text => "octal escape value " ++ text ++ " outside of range 0-0o377"
  | openGroup => "cannot refer to an open group"
  | groupInLookbehind => "cannot refer to group defined in the same lookbehind subpattern"
  | unknownReference n => "invalid group reference " ++ toString n
  | unterminatedSet => "unterminated character set"
  | badRange low high => "bad character range " ++ low ++ "-" ++ high
  | crossedCounts => "min repeat greater than max repeat"
  | nothingToRepeat => "nothing to repeat"
  | multipleRepeat => "multiple repeat"
  | unexpectedEnd => "unexpected end of pattern"
  | badGroupName name => "bad character in group name " ++ Text.quotedString name
  | unknownGroupName name => "unknown group name " ++ Text.quotedString name
  | takenGroupName name group before =>
    "redefinition of group name " ++ Text.quotedString name ++ " as group " ++ toString group ++
      "; was group " ++ toString before
  | unknownExtension text => "unknown extension ?" ++ text
  | unterminatedComment => "missing ), unterminated comment"
  | unterminatedGroup => "missing ), unterminated subpattern"
  | badGroupNumber => "bad group number"
  | thirdBranch => "conditional backref with more than two branches"
  | lateSwitches => "global flags not at the start of the expression"
  | localeSwitch => "bad inline flags: cannot use 'L' flag with a str pattern"
  | clashingSwitches => "bad inline flags: flags 'a', 'u' and 'L' are incompatible"
  | unknownSwitch => "unknown flag"
  | globalSwitchOn => "bad inline flags: cannot turn on global flag"
  | setSwitchOff => "bad inline flags: cannot turn off flags 'a', 'u' and 'L'"
  | globalSwitchOff => "bad inline flags: cannot turn off global flag"
  | switchOnAndOff => "bad inline flags: flag turned on and off"
  | unbalanced => "unbalanced parenthesis"
  | looseLookbehind => "look-behind requires fixed-width pattern"
  | farLookbehind => "looks too much behind"
  | repeatInTemplate kind => "internal: unsupported template operator " ++ kind

end Cause

/-- Why a text is not a pattern. -/
inductive Flaw where
  | malformed (cause : Cause) (position : Option Nat)
  | hugeCount
  | longCount (digits : Nat)
  | clashingSets
  deriving DecidableEq

/-- The message about a malformed pattern: the cause, its position and, in a pattern of several
    lines, the line and column. -/
def malformedMessage (cause : Cause) (position : Option Nat) (pattern : List Char) : String :=
  match position with
  | none => cause.message
  | some p =>
    let before := pattern.take p
    let column := (before.reverse.takeWhile (· != '\n')).length + 1
    let line := before.count '\n' + 1
    cause.message ++ " at position " ++ toString p ++
      (if pattern.contains '\n' then
        " (line " ++ toString line ++ ", column " ++ toString column ++ ")"
      else "")

end Intake.Pattern
