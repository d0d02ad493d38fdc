import Provisioning.Proofs.Text.Separator
import Provisioning.Registration.SourceSubnet

/-!
# Segment ids and source subnets as text

No character outside of its alphabet can occur in a segment id.  So a comma in the
text of a source subnet always separates two of its parts, and the text is read as
the source subnet that it was made of.  Nothing else is read: each part that is read is
written in one way only, so a text that is read is the text of what is read from it.
-/

namespace Provisioning

set_option autoImplicit false

/-! ## Segment ids -/

section SubnetId

variable {id : String} {c : Char}

theorem isSubnetIdChar_of_isAlphanum (alphanum : c.isAlphanum = true) :
    isSubnetIdChar c = true := by
  simp [isSubnetIdChar, alphanum]

/-- A segment id begins with a letter or a digit. -/
theorem exists_cons_of_isSubnetId (valid : isSubnetId id = true) :
    ∃ first rest, id.toList = first :: rest ∧ first.isAlphanum = true ∧
      ∀ c ∈ rest, isSubnetIdChar c = true := by
  unfold isSubnetId at valid
  split at valid
  next => cases valid
  next first rest chars =>
    rw [Bool.and_eq_true, List.all_eq_true] at valid
    exact ⟨first, rest, chars, valid⟩

theorem toList_ne_nil_of_isSubnetId (valid : isSubnetId id = true) : id.toList ≠ [] := by
  obtain ⟨first, rest, chars, _⟩ := exists_cons_of_isSubnetId valid
  rw [chars]
  exact List.cons_ne_nil first rest

theorem isSubnetIdChar_of_mem (valid : isSubnetId id = true) (mem : c ∈ id.toList) :
    isSubnetIdChar c = true := by
  obtain ⟨first, rest, chars, alphanum, others⟩ := exists_cons_of_isSubnetId valid
  rw [chars, List.mem_cons] at mem
  rcases mem with rfl | mem
  · exact isSubnetIdChar_of_isAlphanum alphanum
  · exact others c mem

/-- What is no character of segment ids does not occur in one. -/
theorem not_mem_of_isSubnetId (foreign : isSubnetIdChar c = false)
    (valid : isSubnetId id = true) : c ∉ id.toList := by
  intro mem
  rw [isSubnetIdChar_of_mem valid mem] at foreign
  cases foreign

end SubnetId

/-! ## Roles and statuses by name -/

namespace ClientRole

variable {role : ClientRole} {name : String}

theorem ofName?_eq_some_iff : ofName? name = some role ↔ name = role.name := by
  refine ⟨fun named => ?_, fun named => named ▸ ofName?_name role⟩
  unfold ofName? at named
  split at named
  next isServer => cases named; exact isServer
  next =>
    split at named
    next isClient => cases named; exact isClient
    next =>
      split at named
      next isAdministrator => cases named; exact isAdministrator
      next => cases named

/-- Registration gives every role but the administrator's. -/
theorem isRegistrable_iff : role.isRegistrable = true ↔ role ≠ .administrator := by
  cases role <;> decide

theorem isRegistrable_iff_name_mem :
    role.isRegistrable = true ↔ role.name ∈ ["Server", "Client"] := by
  cases role <;> decide

theorem exists_name_eq (mem : name ∈ ["Server", "Client"]) : ∃ role : ClientRole, name = role.name := by
  simp only [List.mem_cons, List.not_mem_nil, or_false] at mem
  rcases mem with rfl | rfl
  · exact ⟨.server, rfl⟩
  · exact ⟨.client, rfl⟩

end ClientRole

namespace RegistrationStatus

variable {status : RegistrationStatus} {name : String}

theorem ofName?_eq_some_iff : ofName? name = some status ↔ name = status.name := by
  refine ⟨fun named => ?_, fun named => named ▸ ofName?_name status⟩
  unfold ofName? at named
  split at named
  next isPending => cases named; exact isPending
  next =>
    split at named
    next isRegistered => cases named; exact isRegistered
    next =>
      split at named
      next isRevoked => cases named; exact isRevoked
      next => cases named

theorem name_mem (status : RegistrationStatus) :
    status.name ∈ ["Pending", "Registered", "Revoked"] := by
  cases status <;> decide

theorem exists_name_eq (mem : name ∈ ["Pending", "Registered", "Revoked"]) :
    ∃ status : RegistrationStatus, name = status.name := by
  simp only [List.mem_cons, List.not_mem_nil, or_false] at mem
  rcases mem with rfl | rfl | rfl
  · exact ⟨.pending, rfl⟩
  · exact ⟨.registered, rfl⟩
  · exact ⟨.revoked, rfl⟩

end RegistrationStatus

/-! ## Source subnets -/

namespace SourceSubnet

/-- Callers can register the source subnet: its id is a segment id, and its role is one
that registration may give. -/
structure IsRegistrable (s : SourceSubnet) : Prop where
  isSubnetId : isSubnetId s.subnetId = true
  role : s.role.isRegistrable = true

theorem toList_text (s : SourceSubnet) :
    s.text.toList =
      s.subnetId.toList ++ ',' :: (s.role.name.toList ++ ',' :: s.status.name.toList) := by
  simp [text]

theorem comma_not_mem_name_role (role : ClientRole) : ',' ∉ role.name.toList := by
  cases role with
  | server => decide
  | client => decide
  | administrator => decide

theorem comma_not_mem_name_status (status : RegistrationStatus) : ',' ∉ status.name.toList := by
  cases status with
  | pending => decide
  | registered => decide
  | revoked => decide

/-- The commas in the text divide it into the id, the role and the status. -/
theorem splitOn_text {s : SourceSubnet} (valid : Provisioning.isSubnetId s.subnetId = true) :
    s.text.toList.splitOn ',' =
      [s.subnetId.toList, s.role.name.toList, s.status.name.toList] := by
  rw [toList_text,
    List.splitOn_append_cons_self_of_not_mem (not_mem_of_isSubnetId (by decide) valid),
    List.splitOn_append_cons_self_of_not_mem (comma_not_mem_name_role s.role),
    List.splitOn_eq_singleton (comma_not_mem_name_status s.status)]

/-- The text of a source subnet that can be registered is read as that source subnet. -/
theorem read_text {s : SourceSubnet} (registrable : s.IsRegistrable) : read s.text = .ok s := by
  have known : ofText? s.text = some s := by
    rw [ofText?, splitOn_text registrable.isSubnetId]
    simp [registrable.isSubnetId, registrable.role]
  rw [read, known]

/-- A text is read as a source subnet exactly when it is its text and it can be registered. -/
theorem read_eq_ok_iff {text : String} {s : SourceSubnet} :
    read text = .ok s ↔ text = s.text ∧ s.IsRegistrable := by
  refine ⟨fun accepted => ?_, fun ⟨written, registrable⟩ => written ▸ read_text registrable⟩
  unfold read at accepted
  split at accepted
  next found known =>
    cases accepted
    unfold ofText? at known
    split at known
    next id roleName statusName parts =>
      obtain ⟨role, isRole, known⟩ := Option.bind_eq_some_iff.mp known
      obtain ⟨status, isStatus, known⟩ := Option.bind_eq_some_iff.mp known
      split at known
      next allowed =>
        cases known
        rw [Bool.and_eq_true] at allowed
        refine ⟨String.toList_injective ?_, allowed.1, allowed.2⟩
        rw [toList_text, ← ClientRole.ofName?_eq_some_iff.mp isRole,
          ← RegistrationStatus.ofName?_eq_some_iff.mp isStatus,
          Text.eq_intercalate_of_splitOn parts]
        simp
      next => cases known
    next => cases known
  next => cases accepted

/-- Whatever is read as a source subnet can be registered. -/
theorem isRegistrable_of_read {text : String} {s : SourceSubnet} (accepted : read text = .ok s) :
    s.IsRegistrable :=
  (read_eq_ok_iff.mp accepted).2

/-- **Writing and reading a source subnet are exact inverses.**  A text is read exactly when it
is a segment id, the name of a role other than the administrator's and the name of a status
with commas between them; what is read from a text has that text; and a source subnet with a
segment id and such a role is read back from its text. -/
theorem read_inverse_text :
    (∀ text : String, (∃ s, read text = .ok s) ↔
      ∃ id role status : String, text = id ++ "," ++ role ++ "," ++ status ∧
        checkSubnetId id = .ok () ∧ role ∈ ["Server", "Client"] ∧
        status ∈ ["Pending", "Registered", "Revoked"]) ∧
    (∀ (text : String) (s : SourceSubnet), read text = .ok s → s.text = text) ∧
    ∀ s : SourceSubnet, checkSubnetId s.subnetId = .ok () → s.role ≠ .administrator →
      read s.text = .ok s := by
  refine ⟨fun text => ⟨?_, ?_⟩, fun text s accepted => ?_, fun s valid notAdministrator => ?_⟩
  · rintro ⟨s, accepted⟩
    obtain ⟨rfl, registrable⟩ := read_eq_ok_iff.mp accepted
    refine ⟨s.subnetId, s.role.name, s.status.name, rfl, ?_, ?_, s.status.name_mem⟩
    · exact checkSubnetId_eq_ok_iff.mpr registrable.isSubnetId
    · exact ClientRole.isRegistrable_iff_name_mem.mp registrable.role
  · rintro ⟨id, roleName, statusName, rfl, valid, isRole, isStatus⟩
    obtain ⟨role, rfl⟩ := ClientRole.exists_name_eq isRole
    obtain ⟨status, rfl⟩ := RegistrationStatus.exists_name_eq isStatus
    refine ⟨⟨id, role, status⟩, read_eq_ok_iff.mpr ⟨rfl, ?_, ?_⟩⟩
    · exact checkSubnetId_eq_ok_iff.mp valid
    · exact ClientRole.isRegistrable_iff_name_mem.mpr isRole
  · exact (read_eq_ok_iff.mp accepted).1.symm
  · refine read_text ⟨checkSubnetId_eq_ok_iff.mp valid, ?_⟩
    exact ClientRole.isRegistrable_iff.mpr notAdministrator

/-- The text of a client's segment is read, and a server's segment is read back. -/
theorem read_inverse_text_segments :
    read "subnet-0abc,Client,Pending" = .ok ⟨"subnet-0abc", .client, .pending⟩ ∧
      SourceSubnet.text ⟨"subnet-0abc", .client, .pending⟩ = "subnet-0abc,Client,Pending" ∧
      checkSubnetId "rq.tier_1" = .ok () ∧ ClientRole.server ≠ .administrator ∧
      read (SourceSubnet.text ⟨"rq.tier_1", .server, .revoked⟩) =
        .ok ⟨"rq.tier_1", .server, .revoked⟩ := by
  obtain ⟨_, text_of_read, read_back⟩ := read_inverse_text
  have accepted : read "subnet-0abc,Client,Pending" = .ok ⟨"subnet-0abc", .client, .pending⟩ := by
    rfl
  have valid : checkSubnetId "rq.tier_1" = .ok () := checkSubnetId_eq_ok_iff.mpr (by decide)
  have notAdministrator : ClientRole.server ≠ .administrator := by decide
  exact ⟨accepted, text_of_read _ _ accepted, valid, notAdministrator,
    read_back ⟨"rq.tier_1", .server, .revoked⟩ valid notAdministrator⟩

end SourceSubnet

end Provisioning
