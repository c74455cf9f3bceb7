import Intake.Failure.Basic
import Intake.Schema.Basic

/-!
# The shape of payloads

Payloads form a tree of the shape of the schema (`Payload.Fits`). The payload of a node names some of
its required names, or names that it does not declare, or it is the refusal of the main validator;
else it holds what failed. What failed stands in the order of declaration: first the failures of the
entries themselves, then those of their clauses.

The failures of an entry are of one kind (`FitEntry`): those of the field, that of its gate, the
payload of the node below, or the payloads of the nodes below with their indices. The payloads below
are again of the shape of the nodes there.
-/

namespace Intake.Failure

open Schema (Node)

/-- The entries are about clauses of a field of an entry of the schema. -/
def FitClauses (e : Schema.Entry) (es : List Entry) : Prop :=
  ∀ x ∈ es, ∃ f ∈ e.fields, ∃ c ∈ f.clauses, ∃ missing, x = .ofDomain e.name c.path missing

mutual
/-- The payload is of the shape of the node. -/
inductive Payload.Fits : Payload → Node → Prop
  | required {n : Node} {names : List String} :
    names ≠ [] → names.Sublist n.required → Payload.Fits (.required names) n
  | authorized {n : Node} {names : List String} :
    n.closed = true → names ≠ [] → (∀ x ∈ names, x ∉ n.names) → Payload.Fits (.authorized names) n
  | main {n : Node} {message : String} :
    n.main.isSome = true → Payload.Fits (.bad [.field n.name "main_validator" message]) n
  | collected {n : Node} {p : Payload} {failures rejections : Schema.Entry → List Entry} :
    p.entries? = some (n.entries.flatMap failures ++ n.entries.flatMap rejections) →
      p.entries ≠ [] → (∀ e ∈ n.entries, FitEntry e (failures e)) →
        (∀ e ∈ n.entries, FitClauses e (rejections e)) → p.Fits n

/-- The entries are the failures of an entry of the schema, those of its clauses apart. -/
inductive FitEntry : Schema.Entry → List Entry → Prop
  | field {e : Schema.Entry} {es : List Entry} :
    (∀ x ∈ es, ∃ action message, x = .field e.name action message) → FitEntry e es
  | gate {e : Schema.Entry} {f : Schema.Field} {path : String} :
    f ∈ e.fields → f.gated? = some path → FitEntry e [.ofDependency e.name path]
  | single {e : Schema.Entry} {f : Schema.Field} {m : Node} {p : Payload} :
    f ∈ e.fields → f.child = .single m → p.Fits m → FitEntry e [.nested e.name p none]
  | many {e : Schema.Entry} {f : Schema.Field} {m : Node} {items : List (Nat × Payload)} :
    f ∈ e.fields → f.child = .many m → (items.map Prod.fst).Pairwise (· < ·) →
      (∀ item ∈ items, item.2.Fits m) →
        FitEntry e (items.map fun item => .nested e.name item.2 (some item.1))
end

/-- No failures are of the shape of every entry. -/
theorem FitEntry.nil (e : Schema.Entry) : FitEntry e [] :=
  .field fun _ hx => absurd hx List.not_mem_nil

end Intake.Failure
