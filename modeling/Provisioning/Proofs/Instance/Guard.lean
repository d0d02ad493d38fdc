import Provisioning.Instance.Guard
import Provisioning.Proofs.Policy

/-!
# Guards, written out

What a guard runs on the instance and what it needs to be permitted, word for word.  Everything
else says of a guard is said with these texts and statements.
-/

namespace Provisioning

set_option autoImplicit false

/-- What an instance runs at the end to scale its group in the region to zero, after some
minutes. -/
def guardLines (region : String) (minutes : Nat) : List String :=
  ["sleep " ++ toString minutes ++ "m",
    "TOKEN=$(curl -s -X PUT \"" ++ "http://169.254.169.254/latest"
      ++ "/api/token\" -H \"X-aws-ec2-metadata-token-ttl-seconds: 30\")",
    "INSTANCE=\"$(curl -s -H \"X-aws-ec2-metadata-token: $TOKEN\" "
      ++ "http://169.254.169.254/latest" ++ "/meta-data/instance-id)\"",
    "ASG=\"$(aws --region " ++ region
      ++ " ec2 describe-tags --filters \"Name=resource-id,Values=$\x7bINSTANCE\x7d\" \"Name=key,Values="
      ++ "aws:autoscaling:groupName" ++ "\" --query \"Tags[0].Value\" --output text)\"",
    "aws --region " ++ region
      ++ " autoscaling update-auto-scaling-group --auto-scaling-group-name \"$\x7bASG\x7d\""
      ++ " --min-size 0 --max-size 0 --desired-capacity 0"]

/-- The permission to change the size of the groups whose tag has the value. -/
def resizeGrant (tagValue : String) : PolicyStatement where
  effect := .allow
  actions := ["autoscaling:UpdateAutoScalingGroup"]
  resources := ["*"]
  conditions := ⟨[("StringEquals",
    ⟨[("autoscaling:ResourceTag/resourceLogicalId", tagValue)], List.pairwise_singleton _ _⟩)],
    List.pairwise_singleton _ _⟩

/-- The permission to look up tags. -/
def lookupGrant : PolicyStatement where
  effect := .allow
  actions := ["ec2:DescribeTags"]
  resources := ["*"]
  conditions := ∅

namespace TerminationGuard

variable (g : TerminationGuard)

/-- A guard needs these two grants. -/
theorem statements_eq : g.statements = [resizeGrant g.tagValue, lookupGrant] := rfl

/-- The two grants of a guard differ. -/
theorem nodup_statements : g.statements.Nodup := by
  have differ : resizeGrant g.tagValue ≠ lookupGrant := by
    intro same
    have actions : ["autoscaling:UpdateAutoScalingGroup"] = ["ec2:DescribeTags"] :=
      congrArg (·.actions) same
    revert actions
    decide
  simpa [statements_eq] using differ

/-- A grant of the guard that resizes groups is bound to the tag. -/
theorem condition_of_mem_actions {statement : PolicyStatement} (mem : statement ∈ g.statements)
    (resizes : "autoscaling:UpdateAutoScalingGroup" ∈ statement.actions) :
    (statement.conditions.get? "StringEquals").bind
        (·.get? "autoscaling:ResourceTag/resourceLogicalId") = some g.tagValue := by
  rw [statements_eq, List.mem_cons, List.mem_singleton] at mem
  rcases mem with rfl | rfl
  · rfl
  · exact absurd resizes
      (show "autoscaling:UpdateAutoScalingGroup" ∉ ["ec2:DescribeTags"] by decide)

end TerminationGuard

end Provisioning
