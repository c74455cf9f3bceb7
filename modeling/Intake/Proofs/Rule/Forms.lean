import Intake.Proofs.Number
import Intake.Rule.Reading

/-!
# The notation of rules

The texts of rules as syntax trees. A tree holds everything a text is made of, the blanks included,
and its parts carry what makes them well formed: a name is a name, a quoted text is free of its
quote, an integer has no more digits than are read.

A tree has a text (`text`), and it stands for stages, directives and arguments (`directive`,
`argument`).
-/

namespace Intake.Rule.Form

open Intake.Text

/-! ### Words -/

/-- Blanks, perhaps none. -/
structure Gap where
  text : List Char
  blank : allBlank text = true

/-- The name of a stage or an operation. -/
structure Name where
  text : List Char
  identifier : isIdentifier text = true

/-- Names with points between them. -/
structure DottedName where
  text : List Char
  dotted : isDotted text = true

/-- A sign in front of an integer. -/
inductive Sign where
  | none
  | plus
  | minus
  deriving DecidableEq

/-- A sign as it is written. -/
def Sign.text : Sign → List Char
  | none => []
  | plus => ['+']
  | minus => ['-']

/-- A decimal integer. -/
structure Numeral where
  sign : Sign
  digits : List Char
  nonempty : digits ≠ []
  decimal : digits.all isDecimalDigit = true
  few : digits.length ≤ Number.digitLimit

namespace Numeral

/-- An integer as it is written. -/
def text (n : Numeral) : List Char :=
  n.sign.text ++ n.digits

/-- The integer that is written. -/
def value (n : Numeral) : Int :=
  let m : Int := Number.ofDigits 10 (n.digits.map Number.digitValue)
  if n.sign = .minus then -m else m

end Numeral

/-- A text between quotes that it is free of. -/
structure Quotation where
  quote : Char
  content : List Char
  isQuote : isQuote quote = true
  free : quote ∉ content

/-- A quoted text as it is written. -/
def Quotation.text (q : Quotation) : List Char :=
  q.quote :: (q.content ++ [q.quote])

/-- An item of an enumeration without quotes: it holds no quotes, brackets and separators, and no
    blanks around it. -/
structure Word where
  text : List Char
  nonempty : text ≠ []
  trimmed : trim text = text
  plain : ∀ c ∈ text, isQuote c = false ∧ isOpening c = false ∧ isClosing c = false ∧ c ≠ ','
  noColons : ¬ "::".toList <:+: text
  noArrows : ¬ ">>".toList <:+: text

/-- An item of an enumeration of texts. -/
inductive Item where
  | word (w : Word)
  | quotation (q : Quotation)

namespace Item

/-- An item as it is written. -/
def text : Item → List Char
  | word w => w.text
  | quotation q => q.text

/-- The text an item stands for. -/
def value : Item → Value
  | word w => .text (String.ofList w.text)
  | quotation q => .text (String.ofList q.content)

end Item

/-! ### Blanks around parts -/

/-- A text with blanks around it. -/
def pad (before : Gap) (s : List Char) (after : Gap) : List Char :=
  before.text ++ s ++ after.text

/-- A part of a text with blanks around it. -/
structure Padded (α : Type) where
  before : Gap
  content : α
  after : Gap

/-- A part with its blanks as it is written. -/
def Padded.text {α : Type} (text : α → List Char) (p : Padded α) : List Char :=
  pad p.before (text p.content) p.after

/-- Parts with commas between them. -/
def commaText (parts : List (List Char)) : List Char :=
  List.intercalate [','] parts

/-- Parts with commas between them, in brackets. -/
def bracketText (parts : List (List Char)) : List Char :=
  '[' :: (commaText parts ++ [']'])

/-! ### Operations -/

/-- The reference to a function: its name, or in brackets its name or its namespace and name. -/
inductive FunctionForm where
  | plain (name : DottedName)
  | bracketed (name : Padded DottedName)
  | qualified (scope name : Padded DottedName)

namespace FunctionForm

/-- A reference as it is written. -/
def text : FunctionForm → List Char
  | plain name => name.text
  | bracketed name => bracketText [name.text DottedName.text]
  | qualified scope name => bracketText [scope.text DottedName.text, name.text DottedName.text]

/-- The function a reference stands for. -/
def reference : FunctionForm → FunctionRef
  | plain name => ⟨String.ofList name.text, none⟩
  | bracketed name => ⟨String.ofList name.content.text, none⟩
  | qualified scope name =>
    ⟨String.ofList name.content.text, some (String.ofList scope.content.text)⟩

end FunctionForm

/-- The kinds of enumerations of texts. -/
inductive TextKind where
  | string
  | atom

/-- The name of a kind. -/
def TextKind.name : TextKind → String
  | string => "String"
  | atom => "Atom"

/-- The name of the operation that calls a function. -/
def customName : List Char := "custom".toList

mutual
/-- An operation with the blanks around it: a name, the call of a function, or a name and a
    value. -/
inductive Operation where
  | bare (before : Gap) (name : Name) (after : Gap)
  | custom (before behind lead : Gap) (f : FunctionForm) (after : Gap)
  | assign (before : Gap) (name : Name) (ordinary : name.text ≠ customName) (behind lead : Gap)
      (v : Val) (after : Gap)

/-- The value of an operation. -/
inductive Val where
  | integer (n : Numeral)
  | quotation (q : Quotation)
  | symbol (name : DottedName)
  | operations (first : Operation) (rest : List Operation)
  | texts (kind : TextKind) (first : Padded Item) (rest : List (Padded Item))
  | integers (first : Padded Numeral) (rest : List (Padded Numeral))
end

/-- An enumeration of a kind as it is written. -/
def enumText (kind : String) (parts : List (List Char)) : List Char :=
  kind.toList ++ bracketText parts

mutual
/-- An operation as it is written. -/
def Operation.text (o : Operation) : List Char :=
  match o with
  | .bare before name after => pad before name.text after
  | .custom before behind lead f after =>
    pad before (customName ++ behind.text ++ '=' :: (lead.text ++ f.text)) after
  | .assign before name _ behind lead v after =>
    pad before (name.text ++ behind.text ++ '=' :: (lead.text ++ v.text)) after
termination_by structural o

/-- The value of an operation as it is written. -/
def Val.text (v : Val) : List Char :=
  match v with
  | .integer n => n.text
  | .quotation q => q.text
  | .symbol name => name.text
  | .operations first rest => bracketText (first.text :: operationTexts rest)
  | .texts kind first rest =>
    enumText kind.name ((first :: rest).map (Padded.text Item.text))
  | .integers first rest =>
    enumText "Integer" ((first :: rest).map (Padded.text Numeral.text))
termination_by structural v

/-- Operations as they are written. -/
def operationTexts (os : List Operation) : List (List Char) :=
  match os with
  | [] => []
  | o :: rest => o.text :: operationTexts rest
termination_by structural os
end

mutual
/-- The directive an operation stands for. -/
def Operation.directive (o : Operation) : Directive :=
  match o with
  | .bare _ name _ => ⟨String.ofList name.text, .none⟩
  | .custom _ _ _ f _ => ⟨"custom", .function f.reference⟩
  | .assign _ name _ _ _ v _ => ⟨String.ofList name.text, v.argument⟩
termination_by structural o

/-- The argument a value stands for. -/
def Val.argument (v : Val) : Argument :=
  match v with
  | .integer n => .literal (.int n.value)
  | .quotation q => .literal (.text (String.ofList q.content))
  | .symbol name => .literal (.text (String.ofList name.text))
  | .operations first rest => .operations (first.directive :: directivesOf rest)
  | .texts kind first rest =>
    .members ⟨kind.name, (first :: rest).map fun p => p.content.value⟩
  | .integers first rest =>
    .members ⟨"Integer", (first :: rest).map fun p => .int p.content.value⟩
termination_by structural v

/-- The directives operations stand for. -/
def directivesOf (os : List Operation) : List Directive :=
  match os with
  | [] => []
  | o :: rest => o.directive :: directivesOf rest
termination_by structural os
end

/-! ### Stages and rules -/

/-- A stage with the blanks in front of it. -/
structure StageForm where
  before : Gap
  name : Name
  behind : Gap
  first : Operation
  rest : List Operation

namespace StageForm

/-- A stage as it is written, without the blanks in front of it. -/
def core (s : StageForm) : List Char :=
  s.name.text ++ s.behind.text ++
    '(' :: (commaText (s.first.text :: operationTexts s.rest) ++ [')'])

/-- A stage as it is written. -/
def text (s : StageForm) : List Char :=
  s.before.text ++ s.core

/-- The name of the stage. -/
def title (s : StageForm) : String :=
  String.ofList s.name.text

/-- The directives of the stage. -/
def directives (s : StageForm) : List Directive :=
  s.first.directive :: directivesOf s.rest

end StageForm

/-- A rule: its stages and the blanks behind the last one. -/
structure RuleForm where
  first : StageForm
  rest : List StageForm
  after : Gap

namespace RuleForm

/-- The stages of the rule. -/
def stages (r : RuleForm) : List StageForm :=
  r.first :: r.rest

/-- A rule as it is written. -/
def text (r : RuleForm) : List Char :=
  r.stages.flatMap StageForm.text ++ r.after.text

end RuleForm

end Intake.Rule.Form
