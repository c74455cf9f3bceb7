import Intake.Text.Casing

/-!
# Settings

What an application sets by variables of its environment: the level and the form of the log, and
whether builds are traced. The names of the variables begin with `GUARDED_`, and their case does
not count.
-/

namespace Intake

open Text

/-- The settings of an application. -/
structure Settings where
  logLevel : String
  logJson : Bool
  traceBuilds : Bool
  deriving DecidableEq, Repr

namespace Settings

/-- What holds when nothing is set. -/
def standard : Settings := ⟨"WARNING", false, false⟩

/-- What all names of variables begin with. -/
def start : String := "GUARDED_"

/-- The variable of a setting. Of several that differ in case the last one counts. -/
def valueOf? (name : String) (environment : List (String × String)) : Option String :=
  (environment.reverse.find? fun e =>
    lowerString e.1 == lowerString (start ++ name)).map (·.2)

/-- The truth value that a text denotes, in any case of its letters. -/
def readBool? (s : String) : Option Bool :=
  let word := String.ofList (s.toList.map Char.toLower)
  if ["0", "f", "n", "no", "off", "false"].contains word then some false
  else if ["1", "t", "y", "on", "yes", "true"].contains word then some true
  else none

/-- The truth value of a setting, or its name if the variable denotes none. -/
def readFlag (name : String) (fallback : Bool) (environment : List (String × String)) :
    Except String Bool :=
  match valueOf? name environment with
  | none => .ok fallback
  | some s =>
    match readBool? s with
    | some b => .ok b
    | none => .error name

/-- The settings of an environment, or the names of those that cannot be read. -/
def read (environment : List (String × String)) : Except (List String) Settings :=
  let level := (valueOf? "LOG_LEVEL" environment).getD standard.logLevel
  match readFlag "LOG_JSON" standard.logJson environment,
    readFlag "TRACE_BUILDS" standard.traceBuilds environment with
  | .ok json, .ok traced => .ok ⟨level, json, traced⟩
  | .error a, .error b => .error [a, b]
  | .error a, .ok _ => .error [a]
  | .ok _, .error b => .error [b]

end Settings

end Intake
