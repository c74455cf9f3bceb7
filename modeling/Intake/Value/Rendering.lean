import Intake.Calendar.Rendering
import Intake.Number.Shortest
import Intake.Text.Quoted
import Intake.Value.Basic

/-!
# Writing values

Two texts of a value: its form, in which texts are quoted and parts are named, and its plain text,
which differs from the form for texts, enumerations, identifiers, dates, times and records.
-/

namespace Intake

namespace Value

/-- The texts between brackets, separated by commas. -/
def enclosed (opening closing : String) (parts : List String) : String :=
  opening ++ ", ".intercalate parts ++ closing

/-- A tuple of one part ends in a comma. -/
def tupleForm (parts : List String) : String :=
  match parts with
  | [part] => "(" ++ part ++ ",)"
  | _ => enclosed "(" ")" parts

/-- The form of a set: braces are kept for maps when there are no parts. -/
def setForm (frozen : Bool) (parts : List String) : String :=
  let braced := enclosed "\x7b" "\x7d" parts
  if frozen then "frozenset(" ++ (if parts.isEmpty then "" else braced) ++ ")"
  else if parts.isEmpty then "set()" else braced

/-- The text of a part of a complex number, in which a whole number has no places. -/
def partText (x : Number.Binary64) : String :=
  let s := x.text.toList
  String.ofList (if ['.', '0'].isSuffixOf s then s.take (s.length - 2) else s)

/-- The form of a complex number: a positive zero as the real part is left out. -/
def complexForm (x y : Number.Binary64) : String :=
  let imaginary := partText y
  if x == .finite false 0 then imaginary ++ "j"
  else
    "(" ++ partText x ++ (if imaginary.toList.head? == some '-' then "" else "+") ++ imaginary ++ "j)"

mutual
/-- The form of a value. -/
def form (v : Value) : String :=
  match v with
  | .null => "None"
  | .ellipsis => "Ellipsis"
  | .bool b => if b then "True" else "False"
  | .int n => toString n
  | .float x => x.text
  | .complex x y => complexForm x y
  | .text s => Text.quotedString s
  | .bytes bs => String.ofList (Text.quotedBytes bs)
  | .list items => enclosed "[" "]" (forms items)
  | .tuple items => tupleForm (forms items)
  | .set frozen items => setForm frozen (forms items)
  | .map entries => enclosed "\x7b" "\x7d" (entryForms entries)
  | .symbol kind member value => "<" ++ kind ++ "." ++ member ++ ": " ++ value.form ++ ">"
  | .uuid u => u.form
  | .date d => d.form
  | .moment m => m.form
  | .time t => t.form
  | .record name fields => name ++ enclosed "(" ")" (fieldForms fields)
termination_by structural v

/-- The forms of values. -/
def forms (vs : List Value) : List String :=
  match vs with
  | [] => []
  | v :: rest => v.form :: forms rest
termination_by structural vs

/-- The forms of the entries of a map. -/
def entryForms (es : List (Value × Value)) : List String :=
  match es with
  | [] => []
  | (k, v) :: rest => (k.form ++ ": " ++ v.form) :: entryForms rest
termination_by structural es

/-- The forms of the fields of a record. -/
def fieldForms (fs : List (String × Value)) : List String :=
  match fs with
  | [] => []
  | (name, v) :: rest => (name ++ "=" ++ v.form) :: fieldForms rest
termination_by structural fs
end

/-- The plain text of a value. -/
def plain : Value → String
  | text s => s
  | symbol kind member _ => kind ++ "." ++ member
  | uuid u => u.text
  | date d => d.text
  | moment m => m.textWith " "
  | time t => t.text
  | record _ fields => " ".intercalate (fieldForms fields)
  | v => v.form

end Value

end Intake
