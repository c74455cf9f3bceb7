import Intake.Value.Equality

/-!
# Rules

A rule says how the value of a field is cleaned and checked. It consists of stages, a stage of
directives, and a directive is the name of an operation with or without an argument: a scalar, a
list of directives, an enumeration of the values allowed, or the name of a function.
-/

namespace Intake.Rule

/-- An enumeration of values of one kind. -/
structure EnumSet where
  kind : String
  items : List Value

/-- The name of a function, perhaps inside a namespace. -/
structure FunctionRef where
  name : String
  scope : Option String
  deriving DecidableEq

namespace FunctionRef

/-- The full name under which the function is looked up first. -/
def key (f : FunctionRef) : String :=
  match f.scope with
  | none => f.name
  | some scope => if scope.isEmpty then f.name else scope ++ "." ++ f.name

/-- The form of a reference. -/
def form (f : FunctionRef) : String :=
  "FunctionRef(name=" ++ Text.quotedString f.name ++ ", namespace=" ++
    (match f.scope with
     | none => "None"
     | some scope => Text.quotedString scope) ++ ")"

end FunctionRef

mutual
/-- An operation with its argument. -/
structure Directive where
  name : String
  argument : Argument

/-- The argument of a directive. Directives in a list that can change are no operations to choose
    from; only a caller, never a text, hands them over. -/
inductive Argument where
  | none
  | literal (v : Value)
  | operations (ds : List Directive)
  | changeable (ds : List Directive)
  | members (s : EnumSet)
  | function (f : FunctionRef)
end

namespace Directive

/-- The directive has no argument. -/
def isBare (d : Directive) : Bool :=
  match d.argument with
  | .none => true
  | .literal .null => true
  | _ => false

end Directive

/-- A stage: its name and its directives. -/
abbrev Stage := String × List Directive

/-- The stages of a rule, each name once. -/
abbrev Stages := List Stage

namespace Stages

/-- The directives of a stage. -/
def directives (stages : Stages) (name : String) : List Directive :=
  (stages.lookup name).getD []

/-- The stages with directives added to the stage of the given name. -/
def add (name : String) (ds : List Directive) : Stages → Stages
  | [] => [(name, ds)]
  | s :: rest => if s.1 == name then (name, s.2 ++ ds) :: rest else s :: add name ds rest

end Stages

namespace EnumSet

/-- The kinds of enumerations a text can declare. -/
def kinds : List String := ["String", "Atom", "Integer", "Float", "Map"]

/-- The form of an enumeration. -/
def form (s : EnumSet) : String :=
  "EnumSet(kind=" ++ Text.quotedString s.kind ++ ", items=" ++
    (Value.tuple s.items).form ++ ")"

/-- The plain text of an enumeration. -/
def plain (s : EnumSet) : String :=
  s.kind ++ "[" ++ ", ".intercalate (s.items.map Value.plain) ++ "]"

/-- The value belongs to the enumeration. Each kind looks at values of its own types only; a member
    of an enumeration type counts as a symbol by its name or by its value. -/
def contains (s : EnumSet) (v : Value) : Bool :=
  match s.kind with
  | "String" => v.isText && v.isIn s.items
  | "Atom" =>
    match v with
    | .symbol _ member value => (Value.text member).isIn s.items || value.isIn s.items
    | .text _ => v.isIn s.items
    | _ => false
  | "Integer" =>
    match v with
    | .int _ => v.isIn s.items
    | _ => false
  | "Float" =>
    match v with
    | .int _ => v.isIn s.items
    | .float _ => v.isIn s.items
    | _ => false
  | "Map" => v.isMap && v.isIn s.items
  | _ => false

end EnumSet

mutual
/-- The form of a directive. -/
def Directive.form (d : Directive) : String :=
  match d with
  | ⟨name, a⟩ =>
    "Directive(name=" ++ Text.quotedString name ++ ", value=" ++ a.form ++ ")"
termination_by structural d

/-- The form of an argument. -/
def Argument.form (a : Argument) : String :=
  match a with
  | .none => "None"
  | .literal v => v.form
  | .operations ds => Value.tupleForm (directiveForms ds)
  | .changeable ds => Value.enclosed "[" "]" (directiveForms ds)
  | .members s => s.form
  | .function f => f.form
termination_by structural a

/-- The forms of directives. -/
def directiveForms (ds : List Directive) : List String :=
  match ds with
  | [] => []
  | d :: rest => d.form :: directiveForms rest
termination_by structural ds
end

mutual
/-- The directive holds an integer that is too long to be written. -/
def Directive.isTooLong (d : Directive) : Bool :=
  match d with
  | ⟨_, a⟩ => a.isTooLong
termination_by structural d

/-- The argument holds an integer that is too long to be written. -/
def Argument.isTooLong (a : Argument) : Bool :=
  match a with
  | .literal v => v.isTooLong
  | .operations ds => directivesTooLong ds
  | .changeable ds => directivesTooLong ds
  | .members s => Value.areTooLong s.items
  | _ => false
termination_by structural a

/-- One of the directives holds an integer that is too long to be written. -/
def directivesTooLong (ds : List Directive) : Bool :=
  match ds with
  | [] => false
  | d :: rest => d.isTooLong || directivesTooLong rest
termination_by structural ds
end

end Intake.Rule
