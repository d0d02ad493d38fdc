import Provisioning.Proofs.Reconcile.Convergence

/-!
# A plan changes nothing that is as it is wanted

A repository meets the wishes when its managed settings are one for each wanted
combination, as it is wanted.  A plan for such a repository is empty: every managed
setting is covered, and the setting that is found for a combination is the wanted one
but for its id.  Carrying out a plan leads to such a repository, so a second plan for
the same wishes is empty, whatever was there before.
-/

namespace Provisioning

set_option autoImplicit false

open RegistrationSetting SettingAction

/-- The managed settings of a repository are one for each wanted combination, as it is
wanted. -/
def DesiredSettings.IsMetBy (d : DesiredSettings) (settings : List RegistrationSetting) : Prop :=
  ∃ settled, List.Forall₂ d.Describes d.pairs settled ∧ settled.Perm (managed settings)

section Stability

variable {prior settings wanted : List RegistrationSetting} {desired : DesiredSettings}

/-- In a repository that meets the wishes every managed setting is as it is wanted. -/
theorem DesiredSettings.IsMetBy.wants (met : desired.IsMetBy settings) {s : RegistrationSetting}
    (mem : s ∈ managed settings) : desired.Wants s := by
  obtain ⟨settled, describe, perm⟩ := met
  obtain ⟨pair, there, describes⟩ :=
    Result.exists_of_forall₂_right describe (perm.mem_iff.mpr mem)
  exact ⟨pair, there, describes⟩

/-- In a repository that meets the wishes there is a managed setting for every combination. -/
theorem DesiredSettings.IsMetBy.exists_describes (met : desired.IsMetBy settings)
    {pair : String × SourceSubnet} (mem : pair ∈ desired.pairs) :
    ∃ s ∈ managed settings, desired.Describes pair s := by
  obtain ⟨settled, describe, perm⟩ := met
  obtain ⟨s, there, describes⟩ := Result.exists_of_forall₂_left describe mem
  exact ⟨s, perm.mem_iff.mp there, describes⟩

/-- A repository that meets the wishes is left alone.  Its settings need not have distinct
names for that: all that share a name are as they are wanted, so the last one is, too. -/
theorem plan_eq_nil_of_isMetBy (checked : desired.check = .ok ())
    (run : List.Forall₂ (fun pair s => desired.wanted pair.1 pair.2 = .ok s) desired.pairs wanted)
    (met : desired.IsMetBy settings) : plan settings desired = .ok [] := by
  have distinctSources := (DesiredSettings.check_eq_ok_iff.mp checked).2
  have noDeletion : (managed settings).filter (!desired.covers ·) = [] := by
    refine List.filter_eq_nil_iff.mpr fun s mem => ?_
    obtain ⟨pair, there, describes⟩ := met.wants mem
    simp [(DesiredSettings.covers_iff (mem_managed.mp mem).2).mpr ⟨pair, there, describes.name_eq⟩]
  have noChange : wanted.filterMap (settle (managed settings)) = [] := by
    refine List.filterMap_eq_nil_iff.mpr fun s mem => ?_
    obtain ⟨pair, there, made⟩ := Result.exists_of_forall₂_right run mem
    obtain ⟨t, here, describes⟩ := met.exists_describes there
    obtain ⟨last, isLast, sameName⟩ := exists_lastOfName here
    have named : last.name = s.name := by
      rw [sameName, describes.name_eq, (DesiredSettings.describes_of_wanted made).name_eq]
    have same := (DesiredSettings.wants_iff_eq_withId distinctSources there made
      (mem_managed.mp isLast.mem).2 named).mp (met.wants isLast.mem)
    rw [isLast.settle_eq named, if_pos same]
  refine plan_eq_ok_iff.mpr ⟨checked, wanted, run, ?_⟩
  rw [noDeletion, noChange]
  rfl

/-- A plan that is carried out leads to a repository that meets the wishes. -/
theorem isMetBy_applyAll (fits : WellPosed prior desired) {steps : List (SettingAction × String)}
    (planned : plan prior desired = .ok (steps.map (·.1))) (fresh : FreshIds steps prior) :
    desired.IsMetBy (applyAll steps prior) := by
  obtain ⟨settled, settles, perm⟩ := (Progress.of_plan fits planned fresh).managed_perm
  refine ⟨settled, settles.imp fun _ _ isSettled => isSettled.1, ?_⟩
  simpa using perm.symm

end Stability

/-- **A plan holds nothing superfluous.**  It is empty exactly when the repository meets the
wishes already, and after it was carried out the plan for the same wishes is empty. -/
theorem plan_nothing_superfluous {prior : List RegistrationSetting} {desired : DesiredSettings}
    {actions : List SettingAction} (fits : WellPosed prior desired)
    (planned : plan prior desired = .ok actions) :
    (actions = [] ↔ desired.IsMetBy prior) ∧
      ∀ steps : List (SettingAction × String), steps.map (·.1) = actions → FreshIds steps prior →
        plan (applyAll steps prior) desired = .ok [] := by
  obtain ⟨checked, wanted, run, _⟩ := plan_eq_ok_iff.mp planned
  refine ⟨⟨?_, fun met => ?_⟩, ?_⟩
  · rintro rfl
    change desired.IsMetBy (applyAll [] prior)
    exact isMetBy_applyAll fits planned trivial
  · exact Except.ok.inj (planned.symm.trans (plan_eq_nil_of_isMetBy checked run met))
  · rintro steps rfl fresh
    exact plan_eq_nil_of_isMetBy checked run (isMetBy_applyAll fits planned fresh)

/-- The plan for the office and the workers has three changes.  After these nothing is left
to do, although there is a setting made by hand, and the new one has the id of the one that
was deleted. -/
theorem plan_nothing_superfluous_officeAndWorkers :
    let prior := [handmadeSetting, leavingSetting, outdatedSetting]
    let steps := [(SettingAction.delete leavingSetting, ""), (.update officeSetting, ""),
      (.create workersSetting, "2")]
    WellPosed prior officeAndWorkers ∧ plan prior officeAndWorkers = .ok (steps.map (·.1)) ∧
      ¬ officeAndWorkers.IsMetBy prior ∧ FreshIds steps prior ∧
      plan (applyAll steps prior) officeAndWorkers = .ok [] := by
  intro prior steps
  have fits : WellPosed prior officeAndWorkers :=
    ⟨by decide, by decide, by decide, by decide, by decide⟩
  have planned : plan prior officeAndWorkers = .ok (steps.map (·.1)) := by rfl
  have fresh : FreshIds steps prior := by
    refine ⟨nofun, nofun, fun s _ => ?_, trivial⟩
    decide
  obtain ⟨empty_iff, again⟩ := plan_nothing_superfluous fits planned
  have notMet : ¬ officeAndWorkers.IsMetBy prior := fun met => by
    cases empty_iff.mpr met
  exact ⟨fits, planned, notMet, fresh, again steps rfl fresh⟩

end Provisioning
