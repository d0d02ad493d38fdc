import Provisioning.Proofs.Instance.BootScript
import Provisioning.Proofs.Policy
import Provisioning.Proofs.Text.Base64

/-!
# Artifacts that agree with each other

The tag of a group, the condition of the policy, the target of the signal and the encoded
script are made by different tasks, and an instance can only end itself, and be waited
for, when they speak of the same things.  Here this is read off what a render makes.
-/

namespace Provisioning

set_option autoImplicit false

/-! ## Agreement -/

/-- The artifacts of a render agree with each other and with the instance that was
rendered, which was granted some statements in the place of a stack and a region, and with
what became of it. -/
structure RenderedInstance.Coherent (artifacts : RenderedInstance) (stack region : String)
    (grants : List PolicyStatement) (i after : ProvisioningInstance) : Prop where
  logicalId : artifacts.scalingGroup.logicalId = i.groupId
  groupId : i.groupId = ResourceId.uniqueId ⟨i.id.path ++ "/Group"⟩
  logs : artifacts.logs.toDatum = agentTree i.options.logs i.shippedFiles
  /-- The script signals the group, and a guard acts in the region. -/
  script : ∃ texts minutes,
    IsLeast {n | 0 < n ∧ i.options.logs.flushIntervalSecs ≤ 60 * n} minutes ∧
    artifacts.script = String.join
      ((i.bootLines stack region artifacts.scalingGroup.logicalId texts minutes).map (· ++ "\n"))
  userData : Text.Base64.decode? artifacts.scalingGroup.userData.toList =
    some artifacts.script.toUTF8.toList
  capacity : artifacts.scalingGroup.capacity = { min := 1, max := 1, desired := 1 }
  role : after.role.statements = artifacts.policy.statements
  /-- An instance that ends itself may resize the groups with its own tag. -/
  guarded : i.options.selfTerminate = true →
    artifacts.scalingGroup.tags.entries = [("resourceLogicalId", i.id.uniqueId)] ∧
    artifacts.policy.statements =
      grants ++ [resizeGrant i.id.uniqueId, lookupGrant].filter (· ∉ grants) ∧
    ∀ statement ∈ artifacts.policy.statements, statement ∉ grants →
      "autoscaling:UpdateAutoScalingGroup" ∈ statement.actions →
        (statement.conditions.get? "StringEquals").bind
          (·.get? "autoscaling:ResourceTag/resourceLogicalId") = some i.id.uniqueId
  /-- An instance that stays may do what it was granted. -/
  unguarded : i.options.selfTerminate = false →
    artifacts.scalingGroup.tags.entries = [] ∧ artifacts.policy.statements = grants

namespace ProvisioningInstance

section Parts

variable (i : ProvisioningInstance) (d : Deployment) (texts : List String)

theorem scalingGroup_artifacts :
    (i.artifacts d texts).scalingGroup =
      .create i.groupId i.options i.signal (i.bootTags d) (i.artifacts d texts).script := by
  rw [artifacts]

theorem policy_artifacts : (i.artifacts d texts).policy = (i.bootRole d).document := by
  rw [artifacts]

theorem logs_artifacts : (i.artifacts d texts).logs = i.shippedLogs := by
  rw [artifacts]

end Parts

variable {i : ProvisioningInstance} {given : List PolicyStatement}

/-- **Artifacts agree with each other.** -/
theorem coherent_artifacts (single : i.options.capacity = .single)
    (held : i.role.statements = given.eraseDups) (d : Deployment) (texts : List String) :
    (i.artifacts d texts).Coherent d.stack d.region given.eraseDups i (i.sealedBy d) where
  logicalId := by rw [scalingGroup_artifacts, ScalingGroup.create]
  groupId := i.groupId_eq
  logs := by
    rw [logs_artifacts]
    exact LogShipping.toDatum_addStreams_forBoot i.options.logs i.logStreams
  script := by
    refine ⟨texts, i.shippedLogs.graceMinutes, i.isLeast_graceMinutes_shippedLogs, ?_⟩
    rw [script_artifacts, scalingGroup_artifacts, ScalingGroup.create]
    exact i.bootScript_eq d texts
  userData := by
    rw [scalingGroup_artifacts, ScalingGroup.create]
    exact Text.Base64.decode?_toList_base64 _
  capacity := by
    rw [scalingGroup_artifacts, ScalingGroup.create]
    exact single
  role := by
    rw [policy_artifacts]
    rfl
  guarded terminates := by
    have policy := InstanceRole.statements_grantAll_of_nodup held
      (i.terminationGuard d).nodup_statements
    rw [scalingGroup_artifacts, ScalingGroup.create, policy_artifacts, InstanceRole.document,
      bootTags, if_pos terminates, bootRole, if_pos terminates]
    refine ⟨rfl, policy, fun statement mem isNew resizes => ?_⟩
    rw [policy, List.mem_append, List.mem_filter] at mem
    obtain ⟨ofGuard, _⟩ := mem.resolve_left isNew
    exact (i.terminationGuard d).condition_of_mem_actions ofGuard resizes
  unguarded stays := by
    have notTerminates : ¬ i.options.selfTerminate = true := by simp [stays]
    rw [scalingGroup_artifacts, ScalingGroup.create, policy_artifacts, InstanceRole.document,
      bootTags, if_neg notTerminates, bootRole, if_neg notTerminates]
    exact ⟨rfl, held⟩

end ProvisioningInstance

end Provisioning
