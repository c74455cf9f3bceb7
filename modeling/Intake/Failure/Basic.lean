/-!
# Failures

Why an input was not accepted. A payload names fields, or it holds entries: failures of fields, of
domain clauses and of dependencies, and the payloads of nested nodes. Payloads thus form a tree of
the shape of the schema.
-/

namespace Intake.Failure

mutual
/-- One failure. A nested payload of a list of nodes carries the index of the node. -/
inductive Entry where
  | field (field action message : String)
  | nested (field : String) (errors : Payload) (index : Option Int)
  | domain (field path message : String)
  | dependent (field path message : String)

/-- The failures of a node. The first two kinds are found before any field is looked at. -/
inductive Payload where
  | required (fields : List String)
  | authorized (fields : List String)
  | bad (entries : List Entry)
  | domain (entries : List Entry)
  | dependent (entries : List Entry)
end

namespace Entry

/-- The field that the entry is about. -/
def owner : Entry → String
  | field name _ _ => name
  | nested name _ _ => name
  | domain name _ _ => name
  | dependent name _ _ => name

/-- The entry is about a field itself or about a node below it. -/
def isBad : Entry → Bool
  | field _ _ _ => true
  | nested _ _ _ => true
  | _ => false

/-- The entry is about a dependency. -/
def isDependent : Entry → Bool
  | dependent _ _ _ => true
  | _ => false

/-- The entry of a domain clause that is not satisfied; `missing` tells that the place of a required
    clause holds no value. -/
def ofDomain (field path : String) (missing : Bool) : Entry :=
  .domain field path
    ("Based on field " ++ field ++ " input you have to send authorized data" ++
      (if missing then " and required key" else ""))

/-- The entry of a field that was sent although the path it depends on was not. -/
def ofDependency (field path : String) : Entry :=
  .dependent field path
    ("The " ++ field ++ " field depends on " ++ path ++ ", which was not sent")

end Entry

namespace Payload

/-- The kind of a payload. -/
def kind : Payload → String
  | required _ => "required_fields"
  | authorized _ => "authorized_fields"
  | bad _ => "bad_parameters"
  | domain _ => "domain_parameters"
  | dependent _ => "dependent_keys"

/-- The name of a payload's variant. -/
def variant : Payload → String
  | required _ => "RequiredFields"
  | authorized _ => "AuthorizedFields"
  | bad _ => "BadParameters"
  | domain _ => "DomainParameters"
  | dependent _ => "DependentKeys"

/-- The payload is found before any field is looked at. -/
def shortCircuits : Payload → Bool
  | required _ => true
  | authorized _ => true
  | _ => false

/-- The entries of a payload, if it is of a kind that has some. -/
def entries? : Payload → Option (List Entry)
  | required _ => none
  | authorized _ => none
  | bad es => some es
  | domain es => some es
  | dependent es => some es

/-- The entries of a payload. -/
def entries (p : Payload) : List Entry :=
  p.entries?.getD []

/-- The entries about a field. -/
def entriesFor (p : Payload) (field : String) : List Entry :=
  p.entries.filter (·.owner == field)

/-- The fields a payload names. Of entries each field is named once. -/
def fields : Payload → List String
  | required fs => fs
  | authorized fs => fs
  | p => (p.entries.map Entry.owner).eraseDups

end Payload

/-- The payload of collected entries. It is bad when an entry is about a field or a node below one,
    else it is about dependencies when one of its entries is. -/
def aggregate (entries : List Entry) : Option Payload :=
  if entries.isEmpty then none
  else if entries.any Entry.isBad then some (.bad entries)
  else if entries.any Entry.isDependent then some (.dependent entries)
  else some (.domain entries)

end Intake.Failure
