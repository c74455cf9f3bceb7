import Intake.Markup.Event
import Intake.Net.Url
import Intake.Pattern.Flaw
import Intake.Reply
import Intake.Rule.Malformed

/-!
# Faults

What ends a run without an answer: a function of the user that answers outside of its contract or
fails, a node that has to raise its failures, a schema or a rule that is written wrongly, and values
that an operation cannot deal with.
-/

namespace Intake

/-- What is wrong with a schema. -/
inductive SchemaFlaw where
  | name (v : Value)
  | reserved (name : String)
  | nestedTwice (name : String)
  | generator (name : String)
  | validator (name : String)
  | noCandidates (group : String)
  | candidate (group : String) (v : Value)
  | candidateName (name group : String)
  | duplicates (schema : String) (names : List Value)
  | entry (schema : String) (v : Value)
  | domain (text : List Char) (m : Rule.Malformed)

namespace SchemaFlaw

/-- What the message says. -/
def message : SchemaFlaw → String
  | .name v => "Invalid field name: " ++ v.form
  | .reserved n => "Field name " ++ Text.quotedString n ++ " is reserved by the model namespace"
  | .nestedTwice n => "Field " ++ Text.quotedString n ++ " cannot be both nested and nested_list"
  | .generator n =>
    "Field " ++ Text.quotedString n ++ ": auto must be a callable or (callable, arg)"
  | .validator n => "Field " ++ Text.quotedString n ++ ": validator must be callable"
  | .noCandidates group =>
    "Alternatives " ++ Text.quotedString group ++ " need at least one candidate"
  | .candidate group v => "Invalid candidate for " ++ Text.quotedString group ++ ": " ++ v.form
  | .candidateName n group =>
    "Candidate " ++ Text.quotedString n ++ " does not match group " ++ Text.quotedString group
  | .duplicates schema names =>
    "Duplicate field names in " ++ Text.quotedString schema ++ ": " ++ (Value.list names).form
  | .entry schema v => "Invalid field entry in " ++ Text.quotedString schema ++ ": " ++ v.form
  | .domain text m =>
    "Invalid domain " ++ String.ofList (Text.quoted text) ++ ": " ++ m.message

end SchemaFlaw

/-- What ends a run without an answer. -/
inductive Fault where
  | contract (role name : String) (returned : Reply)
  | build (payload : Failure.Payload) (schema : String)
  | raised (message : String)
  | noValue (r : Reply)
  | rule (e : Rule.Misread)
  | schema (e : SchemaFlaw)
  | url (e : Net.UrlMisread)
  | pattern (e : Pattern.Flaw)
  | markup (e : Markup.Flaw)
  | index (e : Number.IntMisread)
  | longInteger
  | unhashable (typeName : String)
  | notCallable (typeName : String)
  | noAttribute (typeName name : String)
  | noKey (key : String)
  | bytesWanted
  | unknownComponent (name : String)
  | takenArgument (name : String)

namespace Fault

/-- The fault of an answer outside of its contract, which the message has to write out. -/
def ofContract (role name : String) (returned : Reply) : Fault :=
  if returned.isTooLong then .longInteger else .contract role name returned

/-- The message about a flaw of a pattern where it is not met by a message about the pattern. -/
def patternMessage : Pattern.Flaw → String
  | .malformed cause _ => cause.message
  | .hugeCount => "the repetition number is too large"
  | .longCount digits => Number.IntMisread.message (.tooManyDigits digits)
  | .clashingSets => "ASCII and UNICODE flags are incompatible"

/-- The message about a misread rule. -/
def ruleMessage : Rule.Misread → String
  | .malformed m => m.message
  | .integer e => e.message
  | .unhashable typeName => "unhashable type: '" ++ typeName ++ "'"
  | .overflow => "int too large to convert to float"

/-- What the message says. -/
def message : Fault → String
  | .contract role name returned =>
    role ++ " " ++ Text.quotedString name ++ " returned an unsupported value: " ++ returned.form
  | .build payload node =>
    if node.isEmpty then payload.plain else node ++ ": " ++ payload.plain
  | .raised text => text
  | .noValue r => "no value in Err(" ++ r.contentForm ++ ")"
  | .rule e => ruleMessage e
  | .schema e => e.message
  | .url e => e.message
  | .pattern e => patternMessage e
  | .markup e => e.message
  | .index e => e.message
  | .longInteger => Number.limitText ++ Number.limitAdvice
  | .unhashable typeName => "unhashable type: '" ++ typeName ++ "'"
  | .notCallable typeName => "'" ++ typeName ++ "' object is not callable"
  | .noAttribute typeName name =>
    "'" ++ typeName ++ "' object has no attribute " ++ "'" ++ name ++ "'"
  | .noKey key => Text.quotedString key
  | .bytesWanted => "a bytes-like object is required, not 'str'"
  | .unknownComponent name => "unknown logging component " ++ Text.quotedString name
  | .takenArgument name =>
    "BaseModel.model_construct() got multiple values for argument " ++ Text.quotedString name

end Fault

/-- The form of a value, where all its integers can be written. -/
def Value.show (v : Value) : Except Fault String :=
  if v.isTooLong then .error .longInteger else .ok v.form

end Intake
