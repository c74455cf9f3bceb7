import Intake.Build.Basic

/-!
# Gates and fills

Whether a field is looked at, and with which value. A field behind a gate is passed over while
nothing is present at the path of the gate; if it was sent all the same, this is a failure. A field
that was not sent is copied from its source, and what is then still missing or empty is generated.

The candidates of a group share what they are filled with, so that a generator is called once for
all of them that ask for the same.
-/

namespace Intake.Build

open Intake.Schema

/-- The path of the gate of a field, if nothing is present there. -/
def blocked? (s : Scope) (f : Field) : Except Fault (Option String) :=
  match f.gated? with
  | none => .ok none
  | some path => (s.lookup path).map fun found => if found.isSome then none else some path

/-- The value a field has by itself: the one that was sent, or the one at its source. A source without
    segments is the whole tree; the field gets the tree as it stands now, not the tree that goes on
    being resolved. -/
def given (s : Scope) (f : Field) : Except Fault (Option Value) :=
  match s.tree.sent? f.name, f.copied? with
  | some v, _ => .ok (some v)
  | none, some path => s.lookup path
  | none, none => .ok none

/-- The value a field is evaluated with: its own, or a generated one where this is missing or
    empty. A generated null is no value. -/
def filled (s : Scope) (f : Field) : Run (Option Value) := do
  let own ← Run.ofExcept (given s f)
  match f.auto with
  | none => return own
  | some auto =>
    if own.any (!·.isEmpty) then return own
    else
      let v ← Run.generate auto.generator auto.argument
      return if v.isNull then none else some v

/-- What a fill depends on besides the tree: the source, and the generator with its argument. -/
structure FillKey where
  source : Option String
  auto : Option Auto

namespace FillKey

/-- Two generators with their arguments are the same. -/
def sameAuto : Option Auto → Option Auto → Bool
  | none, none => true
  | some a, some b =>
    a.generator.label == b.generator.label &&
      (match a.argument, b.argument with
       | none, none => true
       | some v, some w => v.equals w
       | _, _ => false)
  | _, _ => false

/-- Two fills are the same. -/
def equals (a b : FillKey) : Bool :=
  a.source == b.source && sameAuto a.auto b.auto

/-- The key of the fill of a field. -/
def ofField (f : Field) : FillKey := ⟨f.source, f.auto⟩

end FillKey

/-- The fills that the candidates of a group have had so far. -/
abbrev Fills := List (FillKey × Option Value)

/-- The value a field is evaluated with, taken from an earlier fill if there is the same one. -/
def fill (s : Scope) (f : Field) (fills : Fills) : Run (Option Value × Fills) :=
  let key := FillKey.ofField f
  match fills.find? (·.1.equals key) with
  | some (_, v) => return (v, fills)
  | none => do
    let v ← filled s f
    return (v, fills ++ [(key, v)])

end Intake.Build
