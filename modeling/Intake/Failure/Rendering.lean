import Intake.Failure.Basic
import Intake.Value.Rendering

/-!
# Writing failures

The value, the plain text and the form of failures.
-/

namespace Intake.Failure

mutual
/-- The entry as a map. -/
def Entry.toValue (e : Entry) : Value :=
  match e with
  | .field f action message =>
    .map [(.text "field", .text f), (.text "action", .text action),
      (.text "message", .text message)]
  | .nested f errors index =>
    .map ([(.text "field", .text f), (.text "errors", errors.toValue)] ++
      (match index with
       | some i => [(.text "index", .int i)]
       | none => []))
  | .domain f path message =>
    .map [(.text "field", .text f), (.text "field_path", .text path),
      (.text "message", .text message)]
  | .dependent f path message =>
    .map [(.text "field", .text f), (.text "field_path", .text path),
      (.text "message", .text message)]
termination_by structural e

/-- The payload as a map of its kind and its errors. -/
def Payload.toValue (p : Payload) : Value :=
  match p with
  | .required fs =>
    .map [(.text "kind", .text "required_fields"), (.text "errors", .list (fs.map .text))]
  | .authorized fs =>
    .map [(.text "kind", .text "authorized_fields"), (.text "errors", .list (fs.map .text))]
  | .bad es =>
    .map [(.text "kind", .text "bad_parameters"), (.text "errors", .list (entryValues es))]
  | .domain es =>
    .map [(.text "kind", .text "domain_parameters"), (.text "errors", .list (entryValues es))]
  | .dependent es =>
    .map [(.text "kind", .text "dependent_keys"), (.text "errors", .list (entryValues es))]
termination_by structural p

/-- The entries as maps. -/
def entryValues (es : List Entry) : List Value :=
  match es with
  | [] => []
  | e :: rest => e.toValue :: entryValues rest
termination_by structural es
end

namespace Payload

/-- The errors of a payload as a list. -/
def errorValues : Payload → List Value
  | required fs => fs.map .text
  | authorized fs => fs.map .text
  | p => entryValues p.entries

/-- The plain text of a payload: its kind and the list of its errors. -/
def plain (p : Payload) : String :=
  p.kind ++ ": " ++ (Value.list p.errorValues).form

end Payload

/-- The form of the names a payload holds. -/
def nameForms (names : List String) : String :=
  Value.tupleForm (names.map Text.quotedString)

mutual
/-- The form of an entry. -/
def Entry.form (e : Entry) : String :=
  match e with
  | .field f action message =>
    "FieldError(field=" ++ Text.quotedString f ++ ", action=" ++ Text.quotedString action ++
      ", message=" ++ Text.quotedString message ++ ")"
  | .nested f errors index =>
    "NestedError(field=" ++ Text.quotedString f ++ ", errors=" ++ errors.form ++ ", index=" ++
      (match index with
       | some i => toString i
       | none => "None") ++ ")"
  | .domain f path message =>
    "DomainError(field=" ++ Text.quotedString f ++ ", field_path=" ++ Text.quotedString path ++
      ", message=" ++ Text.quotedString message ++ ")"
  | .dependent f path message =>
    "DependentError(field=" ++ Text.quotedString f ++ ", field_path=" ++ Text.quotedString path ++
      ", message=" ++ Text.quotedString message ++ ")"
termination_by structural e

/-- The form of a payload. -/
def Payload.form (p : Payload) : String :=
  match p with
  | .required fs => "RequiredFields(fields=" ++ nameForms fs ++ ")"
  | .authorized fs => "AuthorizedFields(fields=" ++ nameForms fs ++ ")"
  | .bad es => "BadParameters(entries=" ++ Value.tupleForm (entryForms es) ++ ")"
  | .domain es => "DomainParameters(entries=" ++ Value.tupleForm (entryForms es) ++ ")"
  | .dependent es => "DependentKeys(entries=" ++ Value.tupleForm (entryForms es) ++ ")"
termination_by structural p

/-- The forms of entries. -/
def entryForms (es : List Entry) : List String :=
  match es with
  | [] => []
  | e :: rest => e.form :: entryForms rest
termination_by structural es
end

mutual
/-- Equality of entries. -/
def Entry.equals (a b : Entry) : Bool :=
  match a, b with
  | .field f action message, .field f' action' message' =>
    f == f' && action == action' && message == message'
  | .nested f errors index, .nested f' errors' index' =>
    f == f' && errors.equals errors' && index == index'
  | .domain f path message, .domain f' path' message' =>
    f == f' && path == path' && message == message'
  | .dependent f path message, .dependent f' path' message' =>
    f == f' && path == path' && message == message'
  | _, _ => false
termination_by structural a

/-- Equality of payloads. -/
def Payload.equals (p q : Payload) : Bool :=
  match p, q with
  | .required fs, .required gs => fs == gs
  | .authorized fs, .authorized gs => fs == gs
  | .bad es, .bad es' => entriesEqual es es'
  | .domain es, .domain es' => entriesEqual es es'
  | .dependent es, .dependent es' => entriesEqual es es'
  | _, _ => false
termination_by structural p

/-- Equality of lists of entries. -/
def entriesEqual (es es' : List Entry) : Bool :=
  match es, es' with
  | [], [] => true
  | e :: rest, e' :: rest' => e.equals e' && entriesEqual rest rest'
  | _, _ => false
termination_by structural es
end

end Intake.Failure
