import Provisioning.Datum
import Provisioning.Repetition
import Provisioning.SortedMap

/-!
# Grants to an instance

A role gathers the statements that say what its instance may do.  A statement
that the role holds already is not taken up again.  The statements make a policy
document in the order in which they were first granted.
-/

namespace Provisioning

set_option autoImplicit false

/-- Whether a statement permits or forbids. -/
inductive PolicyEffect where
  | allow
  | deny
  deriving DecidableEq

/-- The word for an effect. -/
def PolicyEffect.name : PolicyEffect → String
  | .allow => "Allow"
  | .deny => "Deny"

/-- Values that keys must have, by comparison operator. -/
abbrev Conditions := SortedMap String (SortedMap String String)

/-- A statement about actions on resources. -/
structure PolicyStatement where
  effect : PolicyEffect
  actions : List String
  resources : List String
  conditions : Conditions
  deriving DecidableEq

namespace PolicyStatement

/-- Permits actions on resources under no condition. -/
def allow (actions resources : List String) : PolicyStatement where
  effect := .allow
  actions := actions
  resources := resources
  conditions := ∅

/-- Adds a condition.  A later value for a key under the same operator replaces
the earlier one. -/
def withCondition (s : PolicyStatement) (operator key value : String) : PolicyStatement :=
  { s with
    conditions := s.conditions.alter operator ∅ (·.insert key value) }

/-- Whether the statement is about an action. -/
def hasAction (s : PolicyStatement) (action : String) : Bool :=
  s.actions.contains action

/-- Conditions as data. -/
def conditionDatum (conditions : Conditions) : Datum :=
  .record (conditions.entries.map fun (operator, values) =>
    (operator, .record (values.entries.map fun (key, value) => (key, .string value))))

/-- The statement as data; conditions are left out when there are none. -/
def toDatum (s : PolicyStatement) : Datum :=
  .record ([
    ("Effect", .string s.effect.name),
    ("Action", .strings s.actions),
    ("Resource", .strings s.resources)]
    ++ if s.conditions.entries.isEmpty then [] else [("Condition", conditionDatum s.conditions)])

end PolicyStatement

/-- A policy as it is attached to a role. -/
structure PolicyDocument where
  statements : List PolicyStatement
  deriving DecidableEq

namespace PolicyDocument

/-- The version of the policy language. -/
def version : String := "2012-10-17"

/-- The first statement about an action. -/
def findAction (d : PolicyDocument) (action : String) : Option PolicyStatement :=
  d.statements.find? (·.hasAction action)

/-- The document as data. -/
def toDatum (d : PolicyDocument) : Datum :=
  .record [
    ("Version", .string version),
    ("Statement", .array (d.statements.map PolicyStatement.toDatum))]

end PolicyDocument

/-- What an instance has been granted, in the order of the first grants. -/
structure InstanceRole where
  statements : List PolicyStatement
  deriving DecidableEq

namespace InstanceRole

/-- A role without grants. -/
def empty : InstanceRole := ⟨[]⟩

/-- Adds a statement unless the role holds it. -/
def grant (r : InstanceRole) (s : PolicyStatement) : InstanceRole :=
  ⟨appendNew r.statements s⟩

/-- Adds several statements, one after another. -/
def grantAll (r : InstanceRole) (statements : List PolicyStatement) : InstanceRole :=
  statements.foldl grant r

/-- The policy that the role is given. -/
def document (r : InstanceRole) : PolicyDocument := ⟨r.statements⟩

end InstanceRole

end Provisioning
