import Provisioning.Options.Registration
import Provisioning.Proofs.Result

/-!
# What checked options are like

A check of options refuses one fault after another.  Options that pass have none of them,
and the lemmas here read off what later parts rely on.
-/

namespace Provisioning

set_option autoImplicit false

/-! ## Instances -/

theorem Capacity.check_eq_ok_iff {c : Capacity} : c.check = .ok () ↔ c = .single := by
  rw [check, Result.require_eq_ok_iff]

/-- An instance with checked options is alone in its group. -/
theorem InstanceOptions.capacity_of_check {o : InstanceOptions} (passed : o.check = .ok ()) :
    o.capacity = .single := by
  rw [check] at passed
  obtain ⟨_, passed⟩ := Result.refuse_bind_eq_ok_iff.mp passed
  obtain ⟨_, passed⟩ := Result.refuse_bind_eq_ok_iff.mp passed
  obtain ⟨_, passed⟩ := Result.refuse_bind_eq_ok_iff.mp passed
  exact Capacity.check_eq_ok_iff.mp (Result.check_bind_eq_ok_iff.mp passed).1

/-! ## Registrations -/

namespace RegistrationOptions

variable {o : RegistrationOptions}

/-- The connection subnets pass when there are some, each of them is a segment id, and none
is given twice. -/
theorem checkConnectionSubnets_eq_ok_iff :
    o.checkConnectionSubnets = .ok () ↔
      o.connectionSubnets ≠ [] ∧ (∀ id ∈ o.connectionSubnets, isSubnetId id = true) ∧
        o.connectionSubnets.Nodup := by
  rw [checkConnectionSubnets, Result.refuse_bind_eq_ok_iff, Result.check_bind_eq_ok_iff,
    Result.forM_eq_ok_iff, List.isEmpty_iff, ← firstRepeated_nil_eq_none_iff]
  simp only [checkSubnetId_eq_ok_iff]
  refine and_congr_right fun _ => and_congr_right fun _ => ?_
  cases firstRepeated [] o.connectionSubnets with
  | none => exact iff_of_true rfl rfl
  | some id => exact iff_of_false (fun passed => by cases passed) (fun none => by cases none)

/-- A registration with checked options has a region and sound connection subnets. -/
theorem region_of_check (passed : o.check = .ok ()) :
    o.region ≠ "" ∧ o.checkConnectionSubnets = .ok () := by
  rw [check] at passed
  obtain ⟨hasRegion, passed⟩ := Result.refuse_bind_eq_ok_iff.mp passed
  exact ⟨hasRegion, (Result.check_bind_eq_ok_iff.mp passed).1⟩

end RegistrationOptions

end Provisioning
