import Provisioning.Proofs.Reconcile.Plan

/-!
# Managed settings that share a name

Nothing keeps a repository from holding several managed settings of one name.  A plan
knows them by their name, and of those with the same name it sees the last one only.  So
a managed setting that is not as it is wanted is changed or deleted when no combination
covers its name any more, or when it is the last of its name.  All others of a covered
name are left as they are, whatever role or status they give.
-/

namespace Provisioning

set_option autoImplicit false

open RegistrationSetting

/-- The change replaces or deletes the setting with an id. -/
def SettingAction.Targets (id : String) : SettingAction → Prop
  | .create _ => False
  | .update s => s.id = id
  | .delete s => s.id = id

section Targets

variable {prior : List RegistrationSetting} {desired : DesiredSettings}
  {actions : List SettingAction} {s : RegistrationSetting}

/-- A managed setting that no combination covers is deleted. -/
theorem exists_targets_of_not_covers (planned : plan prior desired = .ok actions)
    (mem : s ∈ managed prior) (uncovered : desired.covers s = false) :
    ∃ action ∈ actions, action.Targets s.id :=
  ⟨.delete s, (mem_plan_iff planned).mpr (.inl ⟨s, mem, uncovered, rfl⟩), rfl⟩

/-- The last setting of its name is replaced when it is covered but not as it is wanted. -/
theorem exists_targets_of_last (planned : plan prior desired = .ok actions)
    (last : LastOfName (managed prior) s) (covered : desired.covers s = true)
    (unwanted : ¬ desired.Wants s) : ∃ action ∈ actions, action.Targets s.id := by
  obtain ⟨checked, wanted, run, _⟩ := plan_eq_ok_iff.mp planned
  have isManaged := (mem_managed.mp last.mem).2
  obtain ⟨pair, there, named⟩ := (DesiredSettings.covers_iff isManaged).mp covered
  obtain ⟨w, _, made⟩ := Result.exists_of_forall₂_left run there
  have sameName : s.name = w.name :=
    named.trans (DesiredSettings.describes_of_wanted made).name_eq.symm
  have differs := mt (DesiredSettings.wants_iff_eq_withId
    (DesiredSettings.check_eq_ok_iff.mp checked).2 there made isManaged sameName).mpr unwanted
  have settles : settle (managed prior) w = some (.update { w with id := s.id }) := by
    rw [last.settle_eq sameName, if_neg differs]
  exact ⟨_, (mem_plan_iff planned).mpr (.inr ⟨pair, there, w, made, settles⟩), rfl⟩

/-- **Which managed settings a plan changes or deletes**: those that no combination covers,
and those that are the last of their name and not as they are wanted. -/
theorem exists_targets_iff (distinctIds : (prior.map (·.id)).Nodup)
    (planned : plan prior desired = .ok actions) (mem : s ∈ managed prior) :
    (∃ action ∈ actions, action.Targets s.id) ↔
      desired.covers s = false ∨ (LastOfName (managed prior) s ∧ ¬ desired.Wants s) := by
  constructor
  · rintro ⟨action, there, targets⟩
    rcases (mem_plan_iff planned).mp there with
      ⟨t, gone, uncovered, rfl⟩ | ⟨pair, wantedPair, w, made, settles⟩
    · have same : t = s :=
        eq_of_id_eq distinctIds (mem_managed.mp gone).1 (mem_managed.mp mem).1 targets
      exact .inl (same ▸ uncovered)
    · rcases settle_cases (managed prior) w with
        ⟨creates, _⟩ | ⟨old, last, named, ⟨updates, differs⟩ | ⟨keeps, _⟩⟩
      · cases creates.symm.trans settles
        cases targets
      · cases updates.symm.trans settles
        have same : old = s :=
          eq_of_id_eq distinctIds (mem_managed.mp last.mem).1 (mem_managed.mp mem).1 targets
        subst same
        obtain ⟨checked, _⟩ := plan_eq_ok_iff.mp planned
        have wants_iff := DesiredSettings.wants_iff_eq_withId
          (DesiredSettings.check_eq_ok_iff.mp checked).2 wantedPair made (mem_managed.mp mem).2 named
        exact .inr ⟨last, mt wants_iff.mp differs⟩
      · cases keeps.symm.trans settles
  · rintro (uncovered | ⟨last, unwanted⟩)
    · exact exists_targets_of_not_covers planned mem uncovered
    · cases covered : desired.covers s with
      | false => exact exists_targets_of_not_covers planned mem covered
      | true => exact exists_targets_of_last planned last covered unwanted

end Targets

/-- **The last setting of a name does not survive when it is stale**: it is as it is wanted, or
the plan replaces or deletes it.  A setting before it is deleted together with it when no
combination covers their name, and otherwise nothing in the plan is about it. -/
theorem last_of_name_does_not_survive {prior : List RegistrationSetting}
    {desired : DesiredSettings} {actions : List SettingAction}
    (distinctIds : (prior.map (·.id)).Nodup) (planned : plan prior desired = .ok actions) :
    ∀ s ∈ managed prior,
      (LastOfName (managed prior) s → desired.Wants s ∨ ∃ action ∈ actions, action.Targets s.id) ∧
      (¬ LastOfName (managed prior) s →
        ((∃ action ∈ actions, action.Targets s.id) ↔ desired.covers s = false)) := by
  intro s mem
  have targets_iff := exists_targets_iff distinctIds planned mem
  refine ⟨fun last => ?_, fun notLast => ?_⟩
  · by_cases wants : desired.Wants s
    · exact .inl wants
    · exact .inr (targets_iff.mpr (.inr ⟨last, wants⟩))
  · rw [targets_iff]
    exact or_iff_left fun ⟨last, _⟩ => notLast last

/-! ## A status that was withdrawn -/

/-- The setting for the office under an id, with a status. -/
def officeWith (id : String) (status : RegistrationStatus) : RegistrationSetting where
  id := id
  name := "FarmsteadSubnet|front|office"
  connectionFilter := .ofPattern "10.0.0.*"
  sourceFilter := .ofPattern "10.1.*.*"
  isEnabled := true
  role := .client
  status := status

/-- The office is revoked. -/
def officeRevoked : DesiredSettings where
  connections := ["front"]
  sources := [⟨"office", .client, .revoked⟩]
  networks := [("front", "10.0.0.0/24"), ("office", "10.1.0.0/16")]

/-- The office was registered before. -/
def officeTwice (last : RegistrationStatus) : List RegistrationSetting :=
  [officeWith "1" .registered, officeWith "2" last]

/-- When the last of the two settings of the office is stale, it is replaced. -/
theorem last_of_name_does_not_survive_office :
    ((officeTwice .pending).map (·.id)).Nodup ∧
      plan (officeTwice .pending) officeRevoked = .ok [.update (officeWith "2" .revoked)] ∧
      officeWith "2" .pending ∈ managed (officeTwice .pending) ∧
      (officeRevoked.Wants (officeWith "2" .pending) ∨
        ∃ action ∈ [SettingAction.update (officeWith "2" .revoked)], action.Targets "2") := by
  have distinct : ((officeTwice .pending).map (·.id)).Nodup := by decide
  have planned : plan (officeTwice .pending) officeRevoked =
      .ok [.update (officeWith "2" .revoked)] := by rfl
  have mem : officeWith "2" .pending ∈ managed (officeTwice .pending) := by decide
  have last : LastOfName (managed (officeTwice .pending)) (officeWith "2" .pending) :=
    ⟨[officeWith "1" .registered], [], by rfl, fun _ there => absurd there List.not_mem_nil⟩
  exact ⟨distinct, planned, mem, (last_of_name_does_not_survive distinct planned _ mem).1 last⟩

/-- **A stale setting survives** when a later one of its name is as it is wanted: the plan is
empty, and the office stays registered. -/
theorem stale_setting_survives :
    ¬ ∀ (prior : List RegistrationSetting) (desired : DesiredSettings)
        (actions : List SettingAction),
      (prior.map (·.id)).Nodup → plan prior desired = .ok actions →
        ∀ s ∈ managed prior, desired.Wants s ∨ ∃ action ∈ actions, action.Targets s.id := by
  intro always
  have planned : plan (officeTwice .revoked) officeRevoked = .ok [] := by rfl
  have mem : officeWith "1" .registered ∈ managed (officeTwice .revoked) := by decide
  rcases always _ _ _ (by decide) planned _ mem with ⟨pair, there, describes⟩ | ⟨_, nothing, _⟩
  · cases List.mem_singleton.mp there
    cases describes.status_eq
  · cases nothing

end Provisioning
