import Provisioning.Options.Instance
import Provisioning.SortedMap
import Provisioning.Text.Base64

/-!
# Scaling groups

The declaration of the group that holds one instance: its size, its place, its
machine, and the boot script in Base64.
-/

namespace Provisioning

set_option autoImplicit false

/-- A scaling group. -/
structure ScalingGroup where
  logicalId : String
  capacity : Capacity
  subnets : List String
  instanceType : String
  machineImage : String
  keyName : Option String
  securityGroup : Option String
  tags : SortedMap String String
  /-- The boot script in Base64. -/
  userData : String
  /-- What the controller waits for. -/
  signal : CompletionSignal
  deriving DecidableEq

namespace ScalingGroup

/-- The group of an instance with the given boot script. -/
def create (logicalId : String) (o : InstanceOptions) (signal : CompletionSignal)
    (tags : SortedMap String String) (script : String) : ScalingGroup where
  logicalId := logicalId
  capacity := o.capacity
  subnets := o.subnets
  instanceType := o.instanceType
  machineImage := o.machineImage
  keyName := o.keyName
  securityGroup := o.securityGroup
  tags := tags
  userData := Text.base64 script
  signal := signal

/-- A field that is left out when it has no value. -/
def optionalField (name : String) : Option String → List (String × Datum)
  | none => []
  | some value => [(name, .string value)]

/-- The group as data. -/
def toDatum (g : ScalingGroup) : Datum :=
  .record ([
    ("LogicalId", .string g.logicalId),
    ("MinSize", .natural g.capacity.min),
    ("MaxSize", .natural g.capacity.max),
    ("DesiredCapacity", .natural g.capacity.desired),
    ("Subnets", .strings g.subnets),
    ("InstanceType", .string g.instanceType),
    ("MachineImage", .string g.machineImage)]
    ++ optionalField "KeyName" g.keyName
    ++ optionalField "SecurityGroup" g.securityGroup
    ++ [
      ("Tags", .record (g.tags.entries.map fun (key, value) => (key, .string value))),
      ("UserData", .string g.userData),
      ("CreationPolicy", .record [
        ("Count", .natural g.signal.count),
        ("Timeout", .string g.signal.timeoutText)])])

end ScalingGroup

end Provisioning
