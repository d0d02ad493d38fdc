import Provisioning.Instance.Basic
import Provisioning.Proofs.Result

/-!
# What can be done with an open instance

An instance is open while it is not rendered and its deployment is not finalized.
Only then does it take setup, log streams and grants, and each of these operations
changes its own part of the instance and nothing else.
-/

namespace Provisioning

set_option autoImplicit false

namespace ProvisioningInstance

variable {i i' : ProvisioningInstance} {d d' : Deployment}

/-- An instance is open while it is not rendered and its deployment is not finalized. -/
theorem checkOpen_eq_ok_iff :
    i.checkOpen d = .ok () ↔ i.isRendered = false ∧ d.isFinalized = false := by
  rw [checkOpen, Result.refuse_bind_eq_ok_iff, Bool.not_eq_true]
  exact and_congr_right fun _ => Result.refuse_eq_ok_iff.trans (Bool.not_eq_true _).to_iff

theorem addSetup_eq_ok_iff {items : List ScriptItem} :
    i.addSetup d items = .ok i' ↔
      i.checkOpen d = .ok () ∧ i' = { i with setup := i.setup ++ items } := by
  rw [addSetup]
  exact Result.guarded_eq_ok_iff

theorem addLogStream_eq_ok_iff {name path : String} :
    i.addLogStream d name path = .ok i' ↔
      i.checkOpen d = .ok () ∧
        i' = { i with logStreams := appendNew i.logStreams (name, path) } := by
  rw [addLogStream]
  exact Result.guarded_eq_ok_iff

theorem grant_eq_ok_iff {statement : PolicyStatement} :
    i.grant d statement = .ok i' ↔
      i.checkOpen d = .ok () ∧ i' = { i with role := i.role.grant statement } := by
  rw [grant]
  exact Result.guarded_eq_ok_iff

/-- An instance is declared when its options are sound and the deployment takes its path,
and it begins with nothing but its options. -/
theorem declare_eq_ok_iff {path : String} {options : InstanceOptions} :
    declare d path options = .ok (i, d') ↔
      options.check = .ok () ∧
        ∃ signal id, CompletionSignal.create options.executionTimeout = .ok signal ∧
          d.addResource path = .ok (id, d') ∧
          i = { id, options, signal, setup := [], logStreams := [], role := .empty,
                isRendered := false } := by
  rw [declare, Result.check_bind_eq_ok_iff, Result.bind_eq_ok_iff]
  refine and_congr_right fun _ => ⟨?_, ?_⟩
  · rintro ⟨signal, isSignal, rest⟩
    obtain ⟨⟨id, _⟩, added, same⟩ := Result.bind_eq_ok_iff.mp rest
    cases same
    exact ⟨signal, id, isSignal, added, rfl⟩
  · rintro ⟨signal, id, isSignal, added, rfl⟩
    exact ⟨signal, isSignal, Result.bind_eq_ok_iff.mpr ⟨(id, d'), added, rfl⟩⟩

/-- An instance that was just declared has no setup and is not rendered. -/
theorem setup_of_declare {path : String} {options : InstanceOptions}
    (declared : declare d path options = .ok (i, d')) : i.setup = [] ∧ i.isRendered = false := by
  obtain ⟨_, _, _, _, _, rfl⟩ := declare_eq_ok_iff.mp declared
  exact ⟨rfl, rfl⟩

end ProvisioningInstance

end Provisioning
