import Provisioning.LogShipping
import Provisioning.Policy
import Provisioning.Script.Sequence

/-!
# Guards that end an instance

An instance that terminates itself waits until its logs have been shipped, finds
out which group it belongs to, and scales that group to zero.  The permission to
do so holds only for groups with a tag that carries the unique id of the
instance, so it can never be used on another group.
-/

namespace Provisioning

set_option autoImplicit false

/-- What an instance needs to end itself. -/
structure TerminationGuard where
  /-- The value of the tag. -/
  tagValue : String
  region : String
  graceMinutes : Nat
  deriving DecidableEq

namespace TerminationGuard

/-- The guard of an instance that ships its logs. -/
def create (instanceId : ResourceId) (region : String) (logs : LogShipping) :
    TerminationGuard where
  tagValue := instanceId.uniqueId
  region := region
  graceMinutes := logs.graceMinutes

/-! ## Permission -/

/-- The key of the tag. -/
def tagKey : String := "resourceLogicalId"

/-- The action of changing the size of a group. -/
def updateGroupAction : String := "autoscaling:UpdateAutoScalingGroup"

/-- The action of looking up tags. -/
def describeTagsAction : String := "ec2:DescribeTags"

/-- The permission to change the size of groups with the tag. -/
def resizeStatement (g : TerminationGuard) : PolicyStatement :=
  (PolicyStatement.allow [updateGroupAction] ["*"]).withCondition
    "StringEquals" ("autoscaling:ResourceTag/" ++ tagKey) g.tagValue

/-- The permission to find out which group an instance belongs to. -/
def lookupStatement : PolicyStatement :=
  .allow [describeTagsAction] ["*"]

/-- What the instance must be granted. -/
def statements (g : TerminationGuard) : List PolicyStatement :=
  [g.resizeStatement, lookupStatement]

/-! ## Commands -/

/-- Where a machine learns about itself. -/
def metadataEndpoint : String := "http://169.254.169.254/latest"

/-- The tag that names the group of an instance. -/
def groupNameTag : String := "aws:autoscaling:groupName"

/-- Waits for the logs. -/
def waitCommand (g : TerminationGuard) : String :=
  "sleep " ++ Text.decimal g.graceMinutes ++ "m"

/-- Asks for leave to ask about the machine. -/
def tokenCommand : String :=
  "TOKEN=$(curl -s -X PUT \"" ++ metadataEndpoint
    ++ "/api/token\" -H \"X-aws-ec2-metadata-token-ttl-seconds: 30\")"

/-- Asks for the id of the machine. -/
def identifyCommand : String :=
  "INSTANCE=\"$(curl -s -H \"X-aws-ec2-metadata-token: $TOKEN\" " ++ metadataEndpoint
    ++ "/meta-data/instance-id)\""

/-- Asks for the name of the group. -/
def lookupCommand (g : TerminationGuard) : String :=
  "ASG=\"$(aws --region " ++ g.region
    ++ " ec2 describe-tags --filters \"Name=resource-id,Values=$\x7bINSTANCE\x7d\" \"Name=key,Values="
    ++ groupNameTag ++ "\" --query \"Tags[0].Value\" --output text)\""

/-- Scales the group to zero. -/
def resizeCommand (g : TerminationGuard) : String :=
  "aws --region " ++ g.region
    ++ " autoscaling update-auto-scaling-group --auto-scaling-group-name \"$\x7bASG\x7d\""
    ++ " --min-size 0 --max-size 0 --desired-capacity 0"

/-- The commands, in order. -/
def commands (g : TerminationGuard) : List String :=
  [g.waitCommand, tokenCommand, identifyCommand, g.lookupCommand, g.resizeCommand]

/-! ## Arming -/

/-- What a guard is attached to: the tags of a group, the role of its instance
and the commands of its boot. -/
structure Guarded where
  tags : SortedMap String String
  role : InstanceRole
  sequence : CommandSequence
  deriving DecidableEq

/-- Attaches the guard to everything, or, when no command can be added any more,
to nothing. -/
def apply (g : TerminationGuard) (target : Guarded) : Result Guarded := do
  let sequence ← target.sequence.addOnExit g.commands
  pure {
    tags := target.tags.insert tagKey g.tagValue
    role := target.role.grantAll g.statements
    sequence }

end TerminationGuard

end Provisioning
