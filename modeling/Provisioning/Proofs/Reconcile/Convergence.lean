import Provisioning.Proofs.Reconcile.Plan

/-!
# A plan that is carried out reaches its aim

Carrying out a plan deletes first and then settles the wanted combinations one by
one.  The invariant of the second part divides the managed settings of the
repository in two: those that describe the combinations settled so far, and the
old ones whose names are still to come.  At the end nothing is left of the second
kind, and no step has touched a setting that is not managed.

Changes find their setting by its id.  This is where distinct ids matter, and it
is why a setting that is created must get an id that no other setting has at that
time.
-/

namespace Provisioning

set_option autoImplicit false

open RegistrationSetting

/-! ## Carrying out changes -/

namespace SettingAction

/-- Every setting that is created gets an id that no setting of the repository has
at that time. -/
def FreshIds : List (SettingAction × String) → List RegistrationSetting → Prop
  | [], _ => True
  | (action, freshId) :: rest, settings =>
    (∀ s, action = .create s → freshId ∉ settings.map (·.id)) ∧
      FreshIds rest (action.apply freshId settings)

theorem applyAll_append (first second : List (SettingAction × String))
    (settings : List RegistrationSetting) :
    applyAll (first ++ second) settings = applyAll second (applyAll first settings) := by
  induction first generalizing settings with
  | nil => rfl
  | cons step rest ih => exact ih (step.1.apply step.2 settings)

theorem FreshIds.of_append {first second : List (SettingAction × String)}
    {settings : List RegistrationSetting} (fresh : FreshIds (first ++ second) settings) :
    FreshIds second (applyAll first settings) := by
  induction first generalizing settings with
  | nil => exact fresh
  | cons step rest ih => exact ih fresh.2

/-- Deletions leave the settings with other ids. -/
theorem applyAll_deletions {steps : List (SettingAction × String)}
    {gone : List RegistrationSetting} (deletes : steps.map (·.1) = gone.map .delete)
    (settings : List RegistrationSetting) :
    applyAll steps settings = settings.filter (·.id ∉ gone.map (·.id)) := by
  induction gone generalizing steps settings with
  | nil =>
    rw [List.map_eq_nil_iff.mp deletes]
    simp [applyAll]
  | cons s gone ih =>
    obtain ⟨step, rest, rfl, first, others⟩ := List.map_eq_cons_iff.mp deletes
    rw [applyAll, ih others, first, apply, List.filter_filter]
    refine List.filter_congr fun old _ => ?_
    by_cases same : old.id = s.id
    · simp [same]
    · simp [same]

end SettingAction

open SettingAction

/-! ## Replacing a setting under its id -/

section Replacing

variable {settings : List RegistrationSetting} {old : RegistrationSetting}
  (kept : RegistrationSetting)

/-- An update with a setting whose id does not occur changes nothing. -/
theorem apply_update_of_id_ne (absent : ∀ s ∈ settings, s.id ≠ kept.id) (freshId : String) :
    (update kept).apply freshId settings = settings := by
  rw [apply, List.map_congr_left fun s mem => if_neg (absent s mem), List.map_id']

/-- An update keeps all ids. -/
theorem map_id_apply_update (freshId : String) :
    ((update kept).apply freshId settings).map (·.id) = settings.map (·.id) := by
  rw [apply, List.map_map]
  refine List.map_congr_left fun s _ => ?_
  by_cases same : s.id = kept.id
  · simp [same]
  · simp [same]

/-- An update that keeps the name of the setting it replaces commutes with a
selection of settings by name. -/
theorem filter_apply_update {p : RegistrationSetting → Bool}
    (byName : ∀ s t : RegistrationSetting, s.name = t.name → p s = p t)
    (distinct : (settings.map (·.id)).Nodup) (mem : old ∈ settings) (sameId : kept.id = old.id)
    (sameName : kept.name = old.name) (freshId : String) :
    ((update kept).apply freshId settings).filter p =
      (update kept).apply freshId (settings.filter p) := by
  rw [apply, List.filter_map]
  refine congrArg _ (List.filter_congr fun s here => ?_)
  by_cases same : s.id = kept.id
  · have isOld : s = old := eq_of_id_eq distinct here mem (same.trans sameId)
    simp [same, byName kept s (isOld ▸ sameName)]
  · simp [same]

end Replacing

/-! ## Settling the wanted combinations one by one -/

/-- A setting describes a combination and has the id of the setting that stood for
the combination before, if there was one. -/
def Settled (desired : DesiredSettings) (prior : List RegistrationSetting)
    (pair : String × SourceSubnet) (s : RegistrationSetting) : Prop :=
  desired.Describes pair s ∧ ∀ old ∈ prior, old.name = s.name → s.id = old.id

/-- The repository while a plan is carried out: the combinations `done` are settled,
and those managed settings are left whose names are among the settings `todo`. -/
structure Progress (desired : DesiredSettings) (prior : List RegistrationSetting)
    (done : List (String × SourceSubnet)) (todo settings : List RegistrationSetting) : Prop where
  distinctIds : (settings.map (·.id)).Nodup
  unmanaged_eq : unmanaged settings = unmanaged prior
  managed_perm : ∃ settled, List.Forall₂ (Settled desired prior) done settled ∧
    (managed settings).Perm
      (settled ++ (managed prior).filter (·.name ∈ todo.map (·.name)))

section Steps

variable {prior settings todo : List RegistrationSetting} {desired : DesiredSettings}
  {done : List (String × SourceSubnet)} {pair : String × SourceSubnet}
  {wanted old : RegistrationSetting}

/-- Of the managed settings whose names are still to come, one comes next. -/
theorem perm_filter_name_of_mem (distinctNames : ((managed prior).map (·.name)).Nodup)
    (mem : old ∈ managed prior) (named : old.name = wanted.name)
    (notAgain : wanted.name ∉ todo.map (·.name)) :
    ((managed prior).filter (·.name ∈ (wanted :: todo).map (·.name))).Perm
      (old :: (managed prior).filter (·.name ∈ todo.map (·.name))) := by
  have nodup : (managed prior).Nodup := List.Nodup.of_map _ distinctNames
  refine (List.perm_ext_iff_of_nodup (nodup.filter _) ?_).mpr fun s => ?_
  · refine List.nodup_cons.mpr ⟨fun again => ?_, nodup.filter _⟩
    have later : old.name ∈ todo.map (·.name) := by simpa using (List.mem_filter.mp again).2
    exact notAgain (named ▸ later)
  · simp only [List.mem_filter, List.map_cons, List.mem_cons, decide_eq_true_eq]
    constructor
    · rintro ⟨here, same | later⟩
      · exact .inl (List.inj_on_of_nodup_map distinctNames here mem (same.trans named.symm))
      · exact .inr ⟨here, later⟩
    · rintro (rfl | ⟨here, later⟩)
      · exact ⟨mem, .inl named⟩
      · exact ⟨here, .inr later⟩

/-- The old setting that comes next is settled when it is as it is wanted. -/
theorem Progress.keep (distinctNames : ((managed prior).map (·.name)).Nodup)
    (progress : Progress desired prior done (wanted :: todo) settings)
    (describes : desired.Describes pair wanted) (notAgain : wanted.name ∉ todo.map (·.name))
    (mem : old ∈ managed prior) (named : old.name = wanted.name)
    (same : old = { wanted with id := old.id })
    (keepsId : ∀ other ∈ prior, other.name = old.name → old.id = other.id) :
    Progress desired prior (done ++ [pair]) todo settings := by
  obtain ⟨settled, done_settled, perm⟩ := progress.managed_perm
  have oldSettled : Settled desired prior pair old := ⟨same ▸ describes.withId old.id, keepsId⟩
  refine ⟨progress.distinctIds, progress.unmanaged_eq, settled ++ [old],
    List.rel_append done_settled (.cons oldSettled .nil), perm.trans ?_⟩
  rw [List.append_assoc]
  exact (perm_filter_name_of_mem distinctNames mem named notAgain).append_left settled

/-- The old setting that comes next is settled by replacing it under its id. -/
theorem Progress.update (distinctNames : ((managed prior).map (·.name)).Nodup)
    (progress : Progress desired prior done (wanted :: todo) settings)
    (describes : desired.Describes pair wanted) (notAgain : wanted.name ∉ todo.map (·.name))
    (mem : old ∈ managed prior) (named : old.name = wanted.name)
    (keepsId : ∀ other ∈ prior, other.name = old.name → old.id = other.id) (freshId : String) :
    Progress desired prior (done ++ [pair]) todo
      ((SettingAction.update { wanted with id := old.id }).apply freshId settings) := by
  obtain ⟨settled, done_settled, perm⟩ := progress.managed_perm
  have perm := perm.trans
    ((perm_filter_name_of_mem distinctNames mem named notAgain).append_left settled)
  have here : old ∈ managed settings := perm.mem_iff.mpr (by simp)
  have inRepository : old ∈ settings := (mem_managed.mp here).1
  have keptSettled : Settled desired prior pair { wanted with id := old.id } :=
    ⟨describes.withId old.id, fun other there same => keepsId other there (same.trans named.symm)⟩
  -- No other setting of the division has the id of the replaced one.
  have distinct : ((settled ++ old :: (managed prior).filter (·.name ∈ todo.map (·.name))).map
      (·.id)).Nodup :=
    (perm.map _).nodup_iff.mp (progress.distinctIds.sublist (List.filter_sublist.map _))
  rw [List.map_append, List.map_cons, List.nodup_middle, List.nodup_cons, ← List.map_append]
    at distinct
  have others : ∀ s ∈ settled ++ (managed prior).filter (·.name ∈ todo.map (·.name)),
      s.id ≠ old.id :=
    fun s there same => distinct.1 (List.mem_map.mpr ⟨s, there, same⟩)
  have leaves (p : RegistrationSetting → Bool)
      (byName : ∀ s t : RegistrationSetting, s.name = t.name → p s = p t) :=
    filter_apply_update { wanted with id := old.id } byName progress.distinctIds inRepository rfl
      named.symm freshId
  refine ⟨?_, ?_, settled ++ [{ wanted with id := old.id }],
    List.rel_append done_settled (.cons keptSettled .nil), ?_⟩
  · rw [map_id_apply_update]
    exact progress.distinctIds
  · rw [unmanaged, leaves _ fun s t same => congrArg _ (isManaged_congr same)]
    refine (apply_update_of_id_ne _ (fun s there same => ?_) freshId).trans progress.unmanaged_eq
    have isOld : s = old :=
      eq_of_id_eq progress.distinctIds (List.mem_filter.mp there).1 inRepository same
    rw [isOld, List.mem_filter, (mem_managed.mp here).2] at there
    exact absurd there.2 (by decide)
  · rw [managed, leaves _ fun s t same => isManaged_congr same]
    refine (perm.map _).trans ?_
    have left := apply_update_of_id_ne { wanted with id := old.id }
      (fun s there => others s (List.mem_append_left _ there)) freshId
    have right := apply_update_of_id_ne { wanted with id := old.id }
      (fun s there => others s (List.mem_append_right _ there)) freshId
    rw [apply] at left right
    rw [List.map_append, List.map_cons, left, right, if_pos rfl, List.append_assoc]
    rfl

/-- A combination that no old setting stands for is settled by a new setting. -/
theorem Progress.create (progress : Progress desired prior done (wanted :: todo) settings)
    (describes : desired.Describes pair wanted) (isManaged : wanted.isManaged = true)
    (absent : ∀ old ∈ managed prior, old.name ≠ wanted.name) {freshId : String}
    (fresh : freshId ∉ settings.map (·.id)) :
    Progress desired prior (done ++ [pair]) todo
      ((SettingAction.create wanted).apply freshId settings) := by
  obtain ⟨settled, done_settled, perm⟩ := progress.managed_perm
  have newSettled : Settled desired prior pair { wanted with id := freshId } := by
    refine ⟨describes.withId freshId, fun old there same => absurd same (absent old ?_)⟩
    exact mem_managed.mpr ⟨there, (isManaged_congr same).trans isManaged⟩
  have sameRest : (managed prior).filter (·.name ∈ (wanted :: todo).map (·.name)) =
      (managed prior).filter (·.name ∈ todo.map (·.name)) := by
    refine List.filter_congr fun old there => ?_
    simp [absent old there]
  rw [sameRest] at perm
  have newManaged : RegistrationSetting.isManaged { wanted with id := freshId } = true := isManaged
  refine ⟨?_, ?_, settled ++ [{ wanted with id := freshId }],
    List.rel_append done_settled (.cons newSettled .nil), ?_⟩
  · rw [apply, List.map_append]
    refine progress.distinctIds.append (List.nodup_singleton _) ?_
    simpa using fresh
  · rw [apply, unmanaged, List.filter_append, List.filter_singleton, newManaged]
    exact (List.append_nil _).trans progress.unmanaged_eq
  · rw [apply, managed, List.filter_append, List.filter_singleton, newManaged, List.append_assoc]
    refine (perm.append_right _).trans ?_
    rw [List.append_assoc]
    exact List.perm_append_comm.append_left settled

end Steps

/-! ## From the first step to the last -/

section Runs

variable {prior : List RegistrationSetting} {desired : DesiredSettings}

/-- After the deletions no combination is settled, and exactly those managed settings
are left whose names are wanted. -/
theorem Progress.start (fits : WellPosed prior desired) {wanted : List RegistrationSetting}
    (describe : List.Forall₂ desired.Describes desired.pairs wanted)
    {steps : List (SettingAction × String)}
    (deletes : steps.map (·.1) =
      ((managed prior).filter (!desired.covers ·)).map SettingAction.delete) :
    Progress desired prior [] wanted (applyAll steps prior) := by
  have left : applyAll steps prior = prior.filter fun s => !s.isManaged || desired.covers s := by
    rw [applyAll_deletions deletes]
    refine List.filter_congr fun s mem => ?_
    have gone : s.id ∈ ((managed prior).filter (!desired.covers ·)).map (·.id) ↔
        s.isManaged = true ∧ desired.covers s = false := by
      constructor
      · intro hasId
        obtain ⟨t, there, same⟩ := List.mem_map.mp hasId
        obtain ⟨isManaged, uncovered⟩ := List.mem_filter.mp there
        obtain ⟨inPrior, isManaged⟩ := mem_managed.mp isManaged
        rw [eq_of_id_eq fits.distinctIds mem inPrior same.symm]
        exact ⟨isManaged, by simpa using uncovered⟩
      · rintro ⟨isManaged, uncovered⟩
        exact List.mem_map_of_mem
          (List.mem_filter.mpr ⟨mem_managed.mpr ⟨mem, isManaged⟩, by simp [uncovered]⟩)
    rw [Bool.eq_iff_iff, decide_eq_true_iff, gone]
    cases isManaged : s.isManaged with
    | false => simp
    | true => simp
  have wantedName (s : RegistrationSetting) :
      s.name ∈ wanted.map (·.name) ↔
        ∃ pair ∈ desired.pairs, s.name = SettingName.text pair.1 pair.2.subnetId := by
    rw [DesiredSettings.map_name_eq describe, List.mem_map]
    exact exists_congr fun pair => and_congr_right fun _ => eq_comm
  refine ⟨?_, ?_, [], .nil, ?_⟩
  · exact fits.distinctIds.sublist ((left ▸ List.filter_sublist).map _)
  · rw [left, unmanaged, unmanaged, List.filter_filter]
    refine List.filter_congr fun s _ => ?_
    cases s.isManaged <;> rfl
  · rw [left, managed, List.filter_filter, List.nil_append, managed, List.filter_filter]
    refine .of_eq (List.filter_congr fun s _ => ?_)
    cases isManaged : s.isManaged with
    | false => simp
    | true =>
      rw [Bool.eq_iff_iff]
      simpa using (DesiredSettings.covers_iff isManaged).trans (wantedName s).symm

/-- Of the settings in a repository, only the managed one has its name. -/
theorem WellPosed.id_eq_of_name_eq (fits : WellPosed prior desired)
    {old other : RegistrationSetting} (mem : old ∈ managed prior) (there : other ∈ prior)
    (same : other.name = old.name) : old.id = other.id := by
  have isManaged : other ∈ managed prior :=
    mem_managed.mpr ⟨there, (isManaged_congr same).trans (mem_managed.mp mem).2⟩
  rw [List.inj_on_of_nodup_map fits.distinctNames isManaged mem same]

/-- Every change of a plan settles the next combination.  The induction is on the
combinations that are still to come. -/
theorem Progress.run (fits : WellPosed prior desired) {pairs : List (String × SourceSubnet)}
    {wanted : List RegistrationSetting}
    (describe : List.Forall₂ desired.Describes pairs wanted)
    (isManaged : ∀ s ∈ wanted, s.isManaged = true) (distinct : (wanted.map (·.name)).Nodup)
    {done : List (String × SourceSubnet)} {settings : List RegistrationSetting}
    (progress : Progress desired prior done wanted settings)
    {steps : List (SettingAction × String)}
    (settles : steps.map (·.1) = wanted.filterMap (settle (managed prior)))
    (fresh : FreshIds steps settings) :
    Progress desired prior (done ++ pairs) [] (applyAll steps settings) := by
  induction describe generalizing done settings steps with
  | nil =>
    rw [List.filterMap_nil, List.map_eq_nil_iff] at settles
    subst settles
    rwa [List.append_nil]
  | @cons pair s pairs wanted describes _ ih =>
    rw [List.map_cons, List.nodup_cons] at distinct
    have isManaged' : ∀ s ∈ wanted, s.isManaged = true :=
      fun s mem => isManaged s (List.mem_cons_of_mem _ mem)
    have split : done ++ pair :: pairs = (done ++ [pair]) ++ pairs := by simp
    rw [split]
    rcases settle_cases (managed prior) s with
      ⟨creates, absent⟩ | ⟨old, last, named, ⟨updates, _⟩ | ⟨keeps, same⟩⟩
    · rw [List.filterMap_cons_some creates] at settles
      obtain ⟨⟨action, freshId⟩, rest, rfl, rfl, later⟩ := List.map_eq_cons_iff.mp settles
      exact ih isManaged' distinct.2
        (progress.create describes (isManaged s List.mem_cons_self) absent (fresh.1 s rfl))
        later fresh.2
    · rw [List.filterMap_cons_some updates] at settles
      obtain ⟨⟨action, freshId⟩, rest, rfl, rfl, later⟩ := List.map_eq_cons_iff.mp settles
      exact ih isManaged' distinct.2
        (progress.update fits.distinctNames describes distinct.1 last.mem named
          (fun _ there => fits.id_eq_of_name_eq last.mem there) freshId)
        later fresh.2
    · rw [List.filterMap_cons_none keeps] at settles
      exact ih isManaged' distinct.2
        (progress.keep fits.distinctNames describes distinct.1 last.mem named same
          fun _ there => fits.id_eq_of_name_eq last.mem there)
        settles fresh

/-- A plan that was carried out has settled every combination. -/
theorem Progress.of_plan (fits : WellPosed prior desired) {steps : List (SettingAction × String)}
    (planned : plan prior desired = .ok (steps.map (·.1))) (fresh : FreshIds steps prior) :
    Progress desired prior desired.pairs [] (applyAll steps prior) := by
  obtain ⟨checked, wanted, run, actions⟩ := plan_eq_ok_iff.mp planned
  have describe : List.Forall₂ desired.Describes desired.pairs wanted :=
    run.imp fun _ _ made => DesiredSettings.describes_of_wanted made
  have distinct : (wanted.map (·.name)).Nodup := by
    rw [DesiredSettings.map_name_eq describe]
    exact fits.nodup_names (DesiredSettings.check_eq_ok_iff.mp checked).2
  have isManaged : ∀ s ∈ wanted, s.isManaged = true := by
    intro s mem
    have named : s.name ∈ wanted.map (·.name) := List.mem_map_of_mem mem
    rw [DesiredSettings.map_name_eq describe] at named
    obtain ⟨pair, there, same⟩ := List.mem_map.mp named
    obtain ⟨connectionValid, sourceValid⟩ := fits.isSubnetId_of_mem_pairs there
    exact isManaged_of_name_eq connectionValid sourceValid same.symm
  obtain ⟨deletions, changes, rfl, deletes, settles⟩ := List.map_eq_append_iff.mp actions
  rw [applyAll_append]
  exact (Progress.start fits describe deletes).run fits describe isManaged distinct settles
    fresh.of_append

end Runs

/-- **A plan that is carried out reaches its aim**: no unmanaged setting has changed,
and there is exactly one managed setting for each wanted combination, as it is
wanted and under the id of the setting that stood for the combination before. -/
theorem applyAll_plan {prior : List RegistrationSetting} {desired : DesiredSettings}
    (fits : WellPosed prior desired) {steps : List (SettingAction × String)}
    (planned : plan prior desired = .ok (steps.map (·.1))) (fresh : FreshIds steps prior) :
    unmanaged (applyAll steps prior) = unmanaged prior ∧
      ∃ settled,
        List.Forall₂ (fun pair s => desired.Describes pair s ∧
          ∀ old ∈ prior, old.name = s.name → s.id = old.id) desired.pairs settled ∧
        settled.Perm (managed (applyAll steps prior)) := by
  have progress := Progress.of_plan fits planned fresh
  obtain ⟨settled, settles, perm⟩ := progress.managed_perm
  refine ⟨progress.unmanaged_eq, settled, settles, ?_⟩
  simpa using perm.symm

/-! ## A repository of three settings -/

/-- A setting made by hand. -/
def handmadeSetting : RegistrationSetting where
  id := "1"
  name := "Workshop"
  connectionFilter := .ofPattern "10.*.*.*"
  sourceFilter := .ofPattern "*.*.*.*"
  isEnabled := false
  role := .administrator
  status := .registered

/-- A setting for a source that clients no longer come from. -/
def leavingSetting : RegistrationSetting where
  id := "2"
  name := "FarmsteadSubnet|front|attic"
  connectionFilter := .ofPattern "10.0.0.*"
  sourceFilter := .ofPattern "10.9.*.*"
  isEnabled := true
  role := .client
  status := .registered

/-- A setting for a source whose network has changed. -/
def outdatedSetting : RegistrationSetting where
  id := "3"
  name := "FarmsteadSubnet|front|office"
  connectionFilter := .ofPattern "10.0.0.*"
  sourceFilter := .ofPattern "10.1.*.*"
  isEnabled := true
  role := .server
  status := .pending

/-- The office has moved, and there are workers now. -/
def officeAndWorkers : DesiredSettings where
  connections := ["front"]
  sources := [⟨"office", .server, .pending⟩, ⟨"workers", .client, .registered⟩]
  networks := [("front", "10.0.0.0/24"), ("office", "10.1.4.0/22"), ("workers", "10.2.0.0/16")]

/-- The setting for the office as it is wanted. -/
def officeSetting : RegistrationSetting :=
  { outdatedSetting with sourceFilter := .ofPattern "10.1.4-7.*" }

/-- The setting for the workers as it is wanted. -/
def workersSetting : RegistrationSetting where
  id := ""
  name := "FarmsteadSubnet|front|workers"
  connectionFilter := .ofPattern "10.0.0.*"
  sourceFilter := .ofPattern "10.2.*.*"
  isEnabled := true
  role := .client
  status := .registered

/-- The plan for the office and the workers deletes one setting, replaces another, and
gives the setting that it creates the id of the deleted one. -/
theorem applyAll_plan_officeAndWorkers :
    let prior := [handmadeSetting, leavingSetting, outdatedSetting]
    let steps := [(SettingAction.delete leavingSetting, ""), (.update officeSetting, ""),
      (.create workersSetting, "2")]
    WellPosed prior officeAndWorkers ∧ plan prior officeAndWorkers = .ok (steps.map (·.1)) ∧
      FreshIds steps prior ∧ unmanaged (applyAll steps prior) = [handmadeSetting] := by
  intro prior steps
  have fits : WellPosed prior officeAndWorkers :=
    ⟨by decide, by decide, by decide, by decide, by decide⟩
  have planned : plan prior officeAndWorkers = .ok (steps.map (·.1)) := by rfl
  have fresh : FreshIds steps prior := by
    refine ⟨nofun, nofun, fun s _ => ?_, trivial⟩
    decide
  exact ⟨fits, planned, fresh, (applyAll_plan fits planned fresh).1.trans (by rfl)⟩

end Provisioning
