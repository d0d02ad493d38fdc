import Provisioning.Datum.Record
import Provisioning.Datum.Toml
import Provisioning.Deployment.Signal
import Provisioning.Text.WhiteSpace
import Provisioning.TextFile

/-!
# Options of an instance

Options are plain data.  They may be written as a record in which most fields can
be left out, and they are checked before anything is built from them.  An
instance that provisions is alone in its group, so its capacity is one in every
respect.
-/

namespace Provisioning

set_option autoImplicit false

/-! ## Capacity -/

/-- The number of machines in a scaling group. -/
structure Capacity where
  min : Nat
  max : Nat
  desired : Nat
  deriving DecidableEq

namespace Capacity

/-- Exactly one machine. -/
def single : Capacity where
  min := 1
  max := 1
  desired := 1

/-- The names of the fields. -/
def fieldNames : List String := ["min", "max", "desired"]

/-- The capacity as data. -/
def toDatum (c : Capacity) : Datum :=
  .record (fieldNames.zip [.natural c.min, .natural c.max, .natural c.desired])

/-- The capacity that data stand for. -/
def ofDatum? (format : Datum.Format) (d : Datum) : Option Capacity := do
  let [min, max, desired] ← d.fields? format fieldNames | none
  pure {
    min := ← Datum.required Datum.toNatural32? min
    max := ← Datum.required Datum.toNatural32? max
    desired := ← Datum.required Datum.toNatural32? desired }

/-- Accepts one machine only. -/
def check (c : Capacity) : Result Unit :=
  if c = single then .ok () else .error (.config (.capacityNotOne c.min c.max c.desired))

end Capacity

/-! ## Logs -/

/-- Where the logs of an instance go, and how often. -/
structure LogOptions where
  groupName : String := "farmstead-provisioning"
  /-- Written in front of the name of every stream. -/
  streamPrefix : String := ""
  retentionDays : Option Nat := none
  flushIntervalSecs : Nat := 15
  deriving DecidableEq

namespace LogOptions

/-- The options when nothing is given. -/
def standard : LogOptions := {}

/-- The names of the fields. -/
def fieldNames : List String :=
  ["group_name", "stream_prefix", "retention_days", "flush_interval_secs"]

/-- The options as data. -/
def toDatum (o : LogOptions) : Datum :=
  .record (fieldNames.zip [
    .string o.groupName, .string o.streamPrefix, .optionalNatural o.retentionDays,
    .natural o.flushIntervalSecs])

/-- The options that data stand for. -/
def ofDatum? (format : Datum.Format) (d : Datum) : Option LogOptions := do
  let [groupName, streamPrefix, retentionDays, flushIntervalSecs] ←
    d.fields? format fieldNames | none
  pure {
    groupName := ← Datum.withDefault standard.groupName Datum.toString? groupName
    streamPrefix := ← Datum.withDefault standard.streamPrefix Datum.toString? streamPrefix
    retentionDays := ← Datum.withDefault none (Datum.toOptional? Datum.toNatural32?) retentionDays
    flushIntervalSecs :=
      ← Datum.withDefault standard.flushIntervalSecs Datum.toNatural64? flushIntervalSecs }

/-- Checks that there is a group and an interval. -/
def check (o : LogOptions) : Result Unit := do
  if o.groupName = "" then throw (.config .emptyLogGroup)
  if o.flushIntervalSecs = 0 then throw (.config .zeroFlushInterval)

end LogOptions

/-! ## Instances -/

/-- What an instance is to be like. -/
structure InstanceOptions where
  name : String
  /-- The subnets in which the instance may be placed. -/
  subnets : List String
  securityGroup : Option String := none
  machineImage : String :=
    "resolve:ssm:/aws/service/ami-amazon-linux-latest/amzn2-ami-hvm-x86_64-gp2"
  instanceType : String := "t3.small"
  keyName : Option String := none
  executionTimeoutSecs : Nat := CompletionSignal.defaultTimeout.secs
  selfTerminate : Bool := true
  capacity : Capacity := .single
  logs : LogOptions := .standard
  deriving DecidableEq

namespace InstanceOptions

/-- Options of which only the name and the subnets are given. -/
def ofName (name : String) (subnets : List String) : InstanceOptions where
  name := name
  subnets := subnets

/-- How long the controller waits for the instance. -/
def executionTimeout (o : InstanceOptions) : Duration :=
  .ofSecs o.executionTimeoutSecs

/-- Sets how long the controller waits, in whole seconds. -/
def withExecutionTimeout (o : InstanceOptions) (timeout : Duration) : InstanceOptions :=
  { o with executionTimeoutSecs := timeout.secs }

/-! ### Data -/

/-- The names of the fields. -/
def fieldNames : List String := [
  "name", "subnets", "security_group", "machine_image", "instance_type", "key_name",
  "execution_timeout_secs", "self_terminate", "capacity", "logs"]

/-- The options as data. -/
def toDatum (o : InstanceOptions) : Datum :=
  .record (fieldNames.zip [
    .string o.name, .strings o.subnets, .optionalString o.securityGroup, .string o.machineImage,
    .string o.instanceType, .optionalString o.keyName, .natural o.executionTimeoutSecs,
    .bool o.selfTerminate, o.capacity.toDatum, o.logs.toDatum])

/-- The options that data stand for. -/
def ofDatum? (format : Datum.Format) (d : Datum) : Option InstanceOptions := do
  let [name, subnets, securityGroup, machineImage, instanceType, keyName, executionTimeoutSecs,
    selfTerminate, capacity, logs] ← d.fields? format fieldNames | none
  let given := ofName (← Datum.required Datum.toString? name)
    (← Datum.required (Datum.toList? Datum.toString?) subnets)
  pure { given with
    securityGroup := ← Datum.withDefault none (Datum.toOptional? Datum.toString?) securityGroup
    machineImage := ← Datum.withDefault given.machineImage Datum.toString? machineImage
    instanceType := ← Datum.withDefault given.instanceType Datum.toString? instanceType
    keyName := ← Datum.withDefault none (Datum.toOptional? Datum.toString?) keyName
    executionTimeoutSecs :=
      ← Datum.withDefault given.executionTimeoutSecs Datum.toNatural64? executionTimeoutSecs
    selfTerminate := ← Datum.withDefault given.selfTerminate Datum.toBool? selfTerminate
    capacity := ← Datum.withDefault given.capacity (Capacity.ofDatum? format) capacity
    logs := ← Datum.withDefault given.logs (LogOptions.ofDatum? format) logs }

/-! ### Checks -/

/-- Checks that the controller supports the timeout. -/
def checkTimeout (o : InstanceOptions) : Result Unit :=
  if o.executionTimeout.isZero || o.executionTimeout.isLongerThan CompletionSignal.maxTimeout then
    .error (.config
      (.timeoutOutOfRange CompletionSignal.maxTimeout.secs o.executionTimeoutSecs))
  else .ok ()

/-- Checks the options.  Of several faults the first in this order is reported. -/
def check (o : InstanceOptions) : Result Unit := do
  if Text.isBlank o.name then throw (.config .blankInstanceName)
  if o.subnets.isEmpty then throw (.config (.noInstanceSubnet o.name))
  if o.instanceType = "" ∨ o.machineImage = "" then throw (.config (.noMachine o.name))
  o.capacity.check
  o.checkTimeout
  o.logs.check

/-- Reads options from a TOML text and checks them. -/
def ofToml (text : String) : Result InstanceOptions :=
  match (Datum.ofToml? text).bind (ofDatum? .toml) with
  | none => .error (.config .invalidToml)
  | some o => o.check.map fun _ => o

/-- Reads options from a TOML file and checks them. -/
def load (file : TextFile) : Result InstanceOptions :=
  file.read.bind ofToml

end InstanceOptions

end Provisioning
