import Intake.Journal

/-!
# Raising

A failure that is not answered but raised: the payload becomes a fault that ends the run, and the
event is logged.
-/

namespace Intake

/-- Raises a payload as the failure of a node. -/
def raisePayload {α : Type} (p : Failure.Payload) (node : String) : Run α := do
  Run.log "build_error_raised" [("schema", .text node), ("kind", .text p.kind)]
  throw (.build p node)

namespace Reply

/-- What is wrong with an error value that is raised as if it were a payload: it has no kind, or a
    kind of the wrong type. -/
def kindFault (v : Value) : Fault :=
  match v with
  | .record _ fields =>
    match fields.lookup "kind" with
    | some kind => .noAttribute kind.fullTypeName "value"
    | none => .noAttribute v.typeName "kind"
  | _ => .noAttribute v.fullTypeName "kind"

/-- The value accepted; a payload is raised. -/
def orRaise (node : String) : Reply → Run Value
  | ok v => return v
  | refused p => raisePayload p node
  | err v => throw (kindFault v)
  | plain v => throw (.ofContract "result" node (.plain v))

/-- The value accepted, else a fault. -/
def unwrap : Reply → Except Fault Value
  | ok v => .ok v
  | plain v => .error (.noAttribute v.fullTypeName "unwrap")
  | r => .error (if r.isTooLong then .longInteger else .noValue r)

/-- The answer of a function to the value accepted; refusals stay. -/
def andThen (f : Function) : Reply → Except String Reply
  | ok v => f v
  | r => .ok r

end Reply

end Intake
