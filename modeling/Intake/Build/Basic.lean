import Intake.Path
import Intake.Raising
import Intake.Schema.Order
import Intake.Tree

/-!
# Builds

A build makes a record of the input of a node, or a payload that tells why it cannot. What is known
while it runs: the context of the whole build, the tree of the node as far as it is resolved, and
the tree of the root, where anchored paths begin.
-/

namespace Intake.Build

open Intake.Schema Intake.Failure

/-- Whether a record is created or edited. Editing asks for no required fields. -/
inductive Mode where
  | create
  | edit
  deriving DecidableEq

/-- The name of a mode. -/
def Mode.name : Mode → String
  | create => "CREATE"
  | edit => "EDIT"

/-- What holds for a build as a whole: its mode, and whether its steps are logged. -/
structure Context where
  mode : Mode
  traced : Bool

/-- Where an entry is evaluated: the tree of its node and the tree of the root, as far as they are
    resolved. -/
structure Scope where
  context : Context
  tree : Tree
  root : Tree

namespace Scope

/-- What is present at a path. -/
def lookup (s : Scope) (path : String) : Except Fault (Option Value) :=
  (Path.ofString path).resolve s.tree.toValue s.root.toValue

end Scope

/-- What a node gives: a record, or why there is none. -/
abbrev Result := Except Payload Value

/-- The building of a node from the entries of a map. The root is the tree of the root node; at the
    root itself none is given, and its own tree is taken. With the result comes the resolved
    tree. -/
abbrev Builder := Context → Option Tree → List (Value × Value) → Run (Result × Tree)

/-- The value of a present entry, and what the tree holds for it: for a record, the tree that it was
    made of. -/
structure Resolved where
  value : Value
  tree : Value

/-- What the evaluation of an entry gives: its value if it is present, its failures, and the clauses
    of the field that was evaluated. -/
structure Outcome where
  resolved : Option Resolved
  failures : List Failure.Entry
  clauses : List Domain.Clause

namespace Outcome

/-- The entry is absent. -/
def absent : Outcome := ⟨none, [], []⟩

/-- The entry is passed over, for failures or for none. -/
def skipped (failures : List Failure.Entry) : Outcome := ⟨none, failures, []⟩

/-- The entry of a field is present with a value, and perhaps failures. -/
def present (f : Field) (v : Value) (failures : List Failure.Entry) : Outcome :=
  ⟨some ⟨v, v⟩, failures, f.clauses⟩

/-- The entry has no failures. -/
def isClean (o : Outcome) : Bool :=
  o.failures.isEmpty

end Outcome

end Intake.Build
