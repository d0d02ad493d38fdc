import Provisioning.Error

/-!
# Segment ids and source subnets as text

A segment id is made of ASCII letters, digits, `.`, `_` and `-`, and starts with a
letter or a digit, so that it can be written into a boot script as it is.  A
source subnet is written as `<id>,<Role>,<Status>`.  Only the roles that
registration may give are admitted in that form.
-/

namespace Provisioning

set_option autoImplicit false

/-! ## Segment ids -/

/-- A character of a segment id. -/
def isSubnetIdChar (c : Char) : Bool :=
  c.isAlphanum || c == '.' || c == '_' || c == '-'

/-- Whether a text can stand for a segment. -/
def isSubnetId (id : String) : Bool :=
  match id.toList with
  | [] => false
  | c :: rest => c.isAlphanum && rest.all isSubnetIdChar

/-- Checks a segment id. -/
def checkSubnetId (id : String) : Result Unit :=
  if id = "" then .error (.config .emptySubnetId)
  else if isSubnetId id then .ok ()
  else .error (.config (.unsafeSubnetId id))

/-- The empty text is no segment id. -/
theorem isSubnetId_empty : isSubnetId "" = false := by decide

/-- The check accepts exactly the segment ids. -/
theorem checkSubnetId_eq_ok_iff {id : String} : checkSubnetId id = .ok () ↔ isSubnetId id = true := by
  unfold checkSubnetId
  split
  next empty => subst empty; simp [isSubnetId_empty]
  next => split <;> simp_all

/-! ## Roles and statuses by name -/

/-- Reads the name of a role. -/
def ClientRole.read (name : String) : Result ClientRole :=
  match ofName? name with
  | some role => .ok role
  | none => .error (.config (.unknownRole name))

/-- Reads the name of a status. -/
def RegistrationStatus.read (name : String) : Result RegistrationStatus :=
  match ofName? name with
  | some status => .ok status
  | none => .error (.config (.unknownStatus name))

/-- Whether registration may give the role. -/
def ClientRole.isRegistrable : ClientRole → Bool
  | .administrator => false
  | _ => true

/-! ## Source subnets -/

namespace SourceSubnet

/-- The text of a source subnet. -/
def text (s : SourceSubnet) : String :=
  s.subnetId ++ "," ++ s.role.name ++ "," ++ s.status.name

/-- The source subnet of a text. -/
def ofText? (text : String) : Option SourceSubnet :=
  match text.toList.splitOn ',' with
  | [id, role, status] => do
    let id := String.ofList id
    let role ← ClientRole.ofName? (String.ofList role)
    let status ← RegistrationStatus.ofName? (String.ofList status)
    if isSubnetId id && role.isRegistrable then some ⟨id, role, status⟩ else none
  | _ => none

/-- Reads the text of a source subnet. -/
def read (text : String) : Result SourceSubnet :=
  match ofText? text with
  | some s => .ok s
  | none => .error (.config (.notSourceSubnet text))

end SourceSubnet

end Provisioning
