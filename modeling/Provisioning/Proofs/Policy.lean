import Provisioning.Policy
import Provisioning.Proofs.Repetition

/-!
# Grants in the order of the first grants

Whatever a role is granted, and however often, it holds the list of its grants without
their repetitions: each statement stands where it was granted first.
-/

namespace Provisioning

set_option autoImplicit false

namespace InstanceRole

variable {r : InstanceRole} {given : List PolicyStatement}

/-- A grant comes behind the earlier grants. -/
theorem statements_grant (held : r.statements = given.eraseDups) (statement : PolicyStatement) :
    (r.grant statement).statements = (given ++ [statement]).eraseDups := by
  rw [grant, held, appendNew_eraseDups]

/-- Several grants come behind the earlier grants, one after another. -/
theorem statements_grantAll (held : r.statements = given.eraseDups)
    (more : List PolicyStatement) :
    (r.grantAll more).statements = (given ++ more).eraseDups := by
  induction more generalizing r given with
  | nil =>
    rw [List.append_nil]
    exact held
  | cons statement rest ih =>
    have granted := ih (statements_grant held statement)
    rwa [List.append_assoc] at granted

/-- Grants that do not repeat come behind the earlier grants as far as they are new. -/
theorem statements_grantAll_of_nodup (held : r.statements = given.eraseDups)
    {more : List PolicyStatement} (nodup : more.Nodup) :
    (r.grantAll more).statements =
      given.eraseDups ++ more.filter (· ∉ given.eraseDups) := by
  have sameTest : more.removeAll given = more.filter (· ∉ given.eraseDups) := by
    simp [List.removeAll, List.mem_eraseDups]
  rw [statements_grantAll held, List.eraseDups_append, sameTest,
    eraseDups_of_nodup (nodup.filter _)]

/-- **A role holds what it was granted, each statement where it was granted first.** -/
theorem isFirsts_statements_grantAll (given : List PolicyStatement) :
    IsFirsts (empty.grantAll given).statements given := by
  have noGrants : empty.statements = [].eraseDups := rfl
  rw [statements_grantAll noGrants, List.nil_append]
  exact isFirsts_eraseDups given

end InstanceRole

end Provisioning
