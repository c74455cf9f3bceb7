import Intake.Log.Scrub
import Intake.Settings
import Intake.Tree

/-!
# Loggers

The library logs through a tree of loggers, one for each of its components. An application sets the
level from which on events are written, and binds values that are added to every event. An event is
written as a map of texts to values that can be written as such, ordered by key.
-/

namespace Intake.Log

open Intake.Text

/-- The levels of events. An unset level leaves the choice to the standard level. -/
inductive Level where
  | unset
  | debug
  | info
  | warning
  | error
  | critical
  deriving DecidableEq

namespace Level

/-- The name of a level. -/
def name : Level → String
  | unset => "NOTSET"
  | debug => "DEBUG"
  | info => "INFO"
  | warning => "WARNING"
  | error => "ERROR"
  | critical => "CRITICAL"

/-- The level of a name in capital letters. -/
def ofName? (s : String) : Option Level :=
  match s with
  | "NOTSET" => some unset
  | "DEBUG" => some debug
  | "INFO" => some info
  | "WARN" => some warning
  | "WARNING" => some warning
  | "ERROR" => some error
  | "FATAL" => some critical
  | "CRITICAL" => some critical
  | _ => none

/-- The urgency of a level. -/
def urgency : Level → Nat
  | unset => 0
  | debug => 10
  | info => 20
  | warning => 30
  | error => 40
  | critical => 50

/-- The level from which on events are written when this one is set. -/
def threshold : Level → Level
  | unset => warning
  | level => level

end Level

/-- The name of the logger at the root of the tree. -/
def rootName : String := "guardedstruct"

/-- The components that have a logger. -/
def components : List String := ["builder", "derive", "domain"]

/-- The name of the logger of a component, or of the root. -/
def loggerName (component : Option String) : Except Fault String :=
  match component with
  | none => .ok rootName
  | some c =>
    if components.contains c then .ok (rootName ++ "." ++ c) else .error (.unknownComponent c)

/-- The state of the log: the level that is set, if any, and the values bound. -/
structure Logger where
  level : Option Level
  bound : Tree

namespace Logger

/-- Nothing is set and nothing bound. -/
def fresh : Logger := ⟨none, []⟩

/-- The log with the level of a name set. The empty name stands for the one in the settings; a name
    that is not known, for the standard level. -/
def configure (name : Option String) (settings : Settings) (l : Logger) : Logger :=
  let chosen := (name.filter (!·.isEmpty)).getD settings.logLevel
  { l with level := some ((Level.ofName? (String.ofList (upper chosen.toList))).getD .warning) }

/-- The log with further values bound. -/
def bind (values : Tree) (l : Logger) : Logger :=
  { l with bound := values.foldl (fun t e => t.put e.1 e.2) l.bound }

/-- The log with no values bound. -/
def clear (l : Logger) : Logger :=
  { l with bound := [] }

/-- Events of the level are written. -/
def isEnabled (level : Level) (l : Logger) : Bool :=
  l.level.any fun set => set.threshold.urgency ≤ level.urgency

end Logger

/-- The text that a key is written as. -/
def keyText : Value → String
  | .text s => s
  | .null => "null"
  | .bool b => if b then "true" else "false"
  | v => v.form

/-- The entries in the order of their keys. -/
def sorted (es : List (Value × Value)) : List (Value × Value) :=
  es.mergeSort fun a b => decide (keyText a.1 ≤ keyText b.1)

mutual
/-- A value as it is written: numbers, texts, lists and maps stand for themselves, other values are
    written by their form. -/
def written (v : Value) : Value :=
  match v with
  | .list items => .list (writtenItems items)
  | .tuple items => .list (writtenItems items)
  | .map entries => .map (sorted (writtenEntries entries))
  | .null => .null
  | .bool b => .bool b
  | .int n => .int n
  | .float x => .float x
  | .text s => .text s
  | v => .text v.form
termination_by structural v

/-- Items as they are written. -/
def writtenItems (vs : List Value) : List Value :=
  match vs with
  | [] => []
  | v :: rest => written v :: writtenItems rest
termination_by structural vs

/-- Entries as they are written. -/
def writtenEntries (es : List (Value × Value)) : List (Value × Value) :=
  match es with
  | [] => []
  | (k, v) :: rest => (.text (keyText k), written v) :: writtenEntries rest
termination_by structural es
end

/-- The name of a level in an event. -/
def eventLevel (level : Level) : Value :=
  .text (lowerString level.name)

/-- The key of the time at which an event is written. -/
def timeKey : String := "timestamp"

namespace Logger

/-- The event as it is written, but for the time. Its own details go before the values bound; its
    name, its level and its logger go before the details. -/
def event (logger : String) (level : Level) (name : String) (details : Tree) (l : Logger) : Value :=
  let merged := ((details.foldl (fun t e => t.put e.1 e.2) l.bound).put "event" (.text name))
  let tagged := (merged.put "logger" (.text logger)).put "level" (eventLevel level)
  let labelled := if tagged.has "library" then tagged else tagged.put "library" (.text rootName)
  written (scrub (Tree.toValue (labelled.filter (·.1 != timeKey))))

/-- What is written of an event: nothing if its level is below the one set. -/
def emit (component : Option String) (level : Level) (name : String) (details : Tree)
    (l : Logger) : Except Fault (List Value) := do
  let logger ← loggerName component
  return if l.isEnabled level then [l.event logger level name details] else []

end Logger

end Intake.Log
