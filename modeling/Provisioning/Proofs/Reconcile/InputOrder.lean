import Mathlib.Data.List.Find
import Mathlib.Data.List.Perm.Basic
import Provisioning.Proofs.Reconcile.Convergence

/-!
# A plan does not depend on the order of its inputs

The settings of a repository, the connections and the sources are lists, but a plan reads
what they hold and not where it stands.  Connections and sources decide by membership what
is deleted, their combinations are settled each by itself, and a managed setting is found by
its name, of which there is only one as long as the names are distinct.  So rearranged
inputs rearrange the plan, and they have a plan exactly when the inputs themselves have one.

The hypothesis on the names is needed: of several managed settings with one name a plan sees
the last one.
-/

namespace Provisioning

set_option autoImplicit false

open RegistrationSetting

/-! ## Rearranged wishes -/

/-- Wishes for the same connections and sources in another order, where every subnet has the
same network. -/
structure DesiredSettings.Rearranges (d d' : DesiredSettings) : Prop where
  connections : d.connections.Perm d'.connections
  sources : d.sources.Perm d'.sources
  network_eq : ∀ subnetId, d.network? subnetId = d'.network? subnetId

namespace DesiredSettings.Rearranges

variable {d d' : DesiredSettings}

theorem symm (same : d.Rearranges d') : d'.Rearranges d :=
  ⟨same.connections.symm, same.sources.symm, fun subnetId => (same.network_eq subnetId).symm⟩

theorem check (same : d.Rearranges d') (checked : d.check = .ok ()) : d'.check = .ok () := by
  obtain ⟨someConnection, distinctSources⟩ := check_eq_ok_iff.mp checked
  refine check_eq_ok_iff.mpr ⟨fun none => someConnection ?_, ?_⟩
  · exact (none ▸ same.connections).eq_nil
  · exact (same.sources.map _).nodup_iff.mp distinctSources

/-- What is wanted for one combination does not depend on the others. -/
theorem wanted_eq (same : d.Rearranges d') (connection : String) (source : SourceSubnet) :
    d.wanted connection source = d'.wanted connection source := by
  have patternOf_eq (subnetId : String) : d.patternOf subnetId = d'.patternOf subnetId := by
    rw [patternOf, patternOf, same.network_eq]
  rw [wanted, wanted, patternOf_eq, patternOf_eq]

theorem pairs_perm (same : d.Rearranges d') : d.pairs.Perm d'.pairs :=
  same.connections.product same.sources

/-- Rearranged wishes cover the same settings. -/
theorem covers_eq (same : d.Rearranges d') (s : RegistrationSetting) :
    d.covers s = d'.covers s := by
  unfold covers
  split
  next connection source _ =>
    have sameIds := same.sources.map (·.subnetId)
    rw [same.connections.contains_eq, sameIds.contains_eq]
  next => rfl

end DesiredSettings.Rearranges

/-! ## Rearranged plans -/

/-- All deletions among changes stand in front of the other changes. -/
def DeletionsFirst (actions : List SettingAction) : Prop :=
  ∃ (gone : List RegistrationSetting) (changes : List SettingAction),
    actions = gone.map .delete ++ changes ∧ ∀ s, .delete s ∉ changes

section Plans

variable {prior prior' settings settings' : List RegistrationSetting}
  {desired desired' : DesiredSettings} {actions : List SettingAction}

/-- What a wanted setting leads to does not depend on the order of settings with distinct
names, for at most one of them has the wanted name. -/
theorem settle_eq_of_perm (distinctNames : (settings.map (·.name)).Nodup)
    (perm : settings.Perm settings') (wanted : RegistrationSetting) :
    settle settings wanted = settle settings' wanted := by
  have reversed : settings.reverse.Perm settings'.reverse :=
    settings.reverse_perm.trans (perm.trans settings'.reverse_perm.symm)
  have one : { s | s ∈ settings.reverse ∧ (decide (s.name = wanted.name)) = true }.Subsingleton := by
    rintro s ⟨mem, named⟩ t ⟨mem', named'⟩
    refine List.inj_on_of_nodup_map distinctNames (List.mem_reverse.mp mem)
      (List.mem_reverse.mp mem') ?_
    exact (of_decide_eq_true named).trans (of_decide_eq_true named').symm
  rw [settle, settle, List.find?_eq_find?_of_perm reversed one]

/-- A setting that is wanted is not settled by a deletion. -/
theorem settle_ne_delete {wanted s : RegistrationSetting} :
    settle settings wanted ≠ some (.delete s) := by
  intro deletes
  rcases settle_cases settings wanted with
    ⟨creates, _⟩ | ⟨_, _, _, ⟨updates, _⟩ | ⟨keeps, _⟩⟩
  · cases creates.symm.trans deletes
  · cases updates.symm.trans deletes
  · cases keeps.symm.trans deletes

theorem deletionsFirst_of_plan (planned : plan prior desired = .ok actions) :
    DeletionsFirst actions := by
  obtain ⟨_, wanted, _, rfl⟩ := plan_eq_ok_iff.mp planned
  refine ⟨_, _, rfl, fun s mem => ?_⟩
  obtain ⟨_, _, deletes⟩ := List.mem_filterMap.mp mem
  exact settle_ne_delete deletes

/-- Rearranged inputs have a rearranged plan. -/
theorem exists_plan_perm (distinctNames : ((managed prior).map (·.name)).Nodup)
    (rearranged : prior.Perm prior') (same : desired.Rearranges desired')
    (planned : plan prior desired = .ok actions) :
    ∃ actions', plan prior' desired' = .ok actions' ∧ actions.Perm actions' := by
  obtain ⟨checked, wanted, run, rfl⟩ := plan_eq_ok_iff.mp planned
  obtain ⟨wanted', run', wantedPerm⟩ := List.perm_comp_forall₂ same.pairs_perm.symm run
  have managedPerm : (managed prior).Perm (managed prior') := rearranged.filter _
  refine ⟨_, plan_eq_ok_iff.mpr ⟨same.check checked, wanted', ?_, rfl⟩, ?_⟩
  · exact run'.imp fun pair _ made => (same.wanted_eq pair.1 pair.2).symm.trans made
  · have sameSettle : settle (managed prior) = settle (managed prior') :=
      funext (settle_eq_of_perm distinctNames managedPerm)
    have deletions := (managedPerm.filter (!desired.covers ·)).map SettingAction.delete
    have changes := wantedPerm.symm.filterMap (settle (managed prior))
    rw [funext same.covers_eq] at deletions ⊢
    rw [← sameSettle]
    exact deletions.append changes

end Plans

/-- **A plan does not depend on the order of its inputs.**  When the managed settings have
distinct names, rearranged inputs have a plan exactly when the inputs have one, the two plans
hold the same changes equally often, and in both the deletions come first. -/
theorem plan_rearranged {prior prior' : List RegistrationSetting}
    {desired desired' : DesiredSettings} (distinctNames : ((managed prior).map (·.name)).Nodup)
    (rearranged : prior.Perm prior') (same : desired.Rearranges desired') :
    ((∃ actions, plan prior desired = .ok actions) ↔
        ∃ actions, plan prior' desired' = .ok actions) ∧
      ∀ actions actions', plan prior desired = .ok actions → plan prior' desired' = .ok actions' →
        actions.Perm actions' ∧ DeletionsFirst actions ∧ DeletionsFirst actions' := by
  have distinctNames' : ((managed prior').map (·.name)).Nodup :=
    ((rearranged.filter _).map _).nodup_iff.mp distinctNames
  refine ⟨⟨?_, ?_⟩, fun actions actions' planned planned' => ⟨?_, ?_, ?_⟩⟩
  · rintro ⟨actions, planned⟩
    obtain ⟨actions', planned', _⟩ := exists_plan_perm distinctNames rearranged same planned
    exact ⟨actions', planned'⟩
  · rintro ⟨actions', planned'⟩
    obtain ⟨actions, planned, _⟩ :=
      exists_plan_perm distinctNames' rearranged.symm same.symm planned'
    exact ⟨actions, planned⟩
  · obtain ⟨other, isPlan, perm⟩ := exists_plan_perm distinctNames rearranged same planned
    rw [Except.ok.inj (planned'.symm.trans isPlan)]
    exact perm
  · exact deletionsFirst_of_plan planned
  · exact deletionsFirst_of_plan planned'

/-- The office and the workers in the other order. -/
def workersAndOffice : DesiredSettings :=
  { officeAndWorkers with sources := officeAndWorkers.sources.reverse }

/-- The plan for the workers and the office, in a repository in the other order, creates
first and replaces then. -/
theorem plan_rearranged_workersAndOffice :
    let prior := [handmadeSetting, leavingSetting, outdatedSetting]
    let actions := [SettingAction.delete leavingSetting, .update officeSetting,
      .create workersSetting]
    let actions' := [SettingAction.delete leavingSetting, .create workersSetting,
      .update officeSetting]
    ((managed prior).map (·.name)).Nodup ∧ prior.Perm prior.reverse ∧
      officeAndWorkers.Rearranges workersAndOffice ∧
      plan prior officeAndWorkers = .ok actions ∧
      plan prior.reverse workersAndOffice = .ok actions' ∧
      actions.Perm actions' ∧ DeletionsFirst actions' := by
  intro prior actions actions'
  have distinct : ((managed prior).map (·.name)).Nodup := by decide
  have reversed : prior.Perm prior.reverse := prior.reverse_perm.symm
  have same : officeAndWorkers.Rearranges workersAndOffice :=
    ⟨.refl _, (List.reverse_perm _).symm, fun _ => rfl⟩
  have planned : plan prior officeAndWorkers = .ok actions := by rfl
  have planned' : plan prior.reverse workersAndOffice = .ok actions' := by rfl
  obtain ⟨perm, _, deletionsFirst⟩ :=
    (plan_rearranged distinct reversed same).2 actions actions' planned planned'
  exact ⟨distinct, reversed, same, planned, planned', perm, deletionsFirst⟩

end Provisioning
