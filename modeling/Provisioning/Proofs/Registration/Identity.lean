import Provisioning.Proofs.Instance.Basic
import Provisioning.Registration.Identity

/-!
# What an identity registration starts with

The setup of a registration that was just declared ends with the command that
applies its store, and the store is empty.
-/

namespace Provisioning

set_option autoImplicit false

namespace IdentityRegistration

/-- Grants change nothing but the role. -/
theorem eq_of_grantAll {i i' : ProvisioningInstance} {d : Deployment}
    {statements : List PolicyStatement} (granted : grantAll i d statements = .ok i') :
    i' = { i with role := i.role.grantAll statements } := by
  induction statements generalizing i with
  | nil =>
    cases granted
    rfl
  | cons statement rest ih =>
    rw [grantAll, List.foldlM_cons, Result.bind_eq_ok_iff] at granted
    obtain ⟨next, first, others⟩ := granted
    obtain ⟨_, rfl⟩ := ProvisioningInstance.grant_eq_ok_iff.mp first
    exact ih (i := { i with role := i.role.grant statement }) others

/-- A registration that is declared has checked options, an instance that was granted what
it needs, and an empty store.  The deployment is left with the resource of the instance and
nothing else. -/
theorem eq_of_declare {d : Deployment} {path : String} {o : RegistrationOptions}
    {storeId : StoreId} {declared : IdentityRegistration}
    (success : declare d path o storeId = .ok declared) :
    ∃ object signal, o.check = .ok () ∧ o.scriptObject = .ok object ∧
      o.effectiveInstanceOptions.check = .ok () ∧
      d.addResource path = .ok (declared.host.id, declared.deployment) ∧
      declared.host = {
        id := declared.host.id
        options := o.effectiveInstanceOptions
        signal
        setup := (o.preparation object).map .line ++
          [.deferred (.registration (o.command storeId))]
        logStreams := []
        role := InstanceRole.empty.grantAll (o.statements object)
        isRendered := false } ∧
      declared.store = .create declared.host.id o.connectionSubnets := by
  rw [declare, Result.check_bind_eq_ok_iff, Result.bind_eq_ok_iff] at success
  obtain ⟨checked, object, isObject, rest⟩ := success
  obtain ⟨⟨bare, d'⟩, isDeclared, rest⟩ := Result.bind_eq_ok_iff.mp rest
  obtain ⟨granted, isGranted, rest⟩ := Result.bind_eq_ok_iff.mp rest
  obtain ⟨prepared, isPrepared, rest⟩ := Result.bind_eq_ok_iff.mp rest
  obtain ⟨host, isHost, rest⟩ := Result.bind_eq_ok_iff.mp rest
  cases rest
  obtain ⟨instanceChecked, signal, id, _, added, rfl⟩ :=
    ProvisioningInstance.declare_eq_ok_iff.mp isDeclared
  cases eq_of_grantAll isGranted
  obtain ⟨_, rfl⟩ := ProvisioningInstance.addSetup_eq_ok_iff.mp isPrepared
  obtain ⟨_, rfl⟩ := ProvisioningInstance.addSetup_eq_ok_iff.mp isHost
  refine ⟨object, signal, checked, isObject, instanceChecked, added, ?_, rfl⟩
  rw [List.nil_append]

/-- A registration begins with an open instance whose setup ends with the command that
applies the store, and with a store without registrations.  The deployment is left with
the resource of the instance and nothing else. -/
theorem exists_of_declare {d : Deployment} {path : String} {o : RegistrationOptions}
    {storeId : StoreId} {declared : IdentityRegistration}
    (success : declare d path o storeId = .ok declared) :
    ∃ object, o.scriptObject = .ok object ∧
      declared.host.setup = (o.preparation object).map .line ++
        [.deferred (.registration (o.command storeId))] ∧
      declared.host.isRendered = false ∧
      declared.store = .create declared.host.id o.connectionSubnets ∧
      d.addResource path = .ok (declared.host.id, declared.deployment) := by
  obtain ⟨object, _, _, isObject, _, added, isHost, isStore⟩ := eq_of_declare success
  refine ⟨object, isObject, ?_, ?_, isStore, added⟩
  · rw [isHost]
  · rw [isHost]

end IdentityRegistration

end Provisioning
