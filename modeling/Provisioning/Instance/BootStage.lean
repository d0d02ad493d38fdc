/-!
# Stages of a boot

An instance passes through its stages in one order, without repetition.  The
order branches only at the end: after the signal the instance either scales its
group to zero or stays up.
-/

namespace Provisioning

set_option autoImplicit false

/-- A stage of a boot. -/
inductive BootStage where
  | pendingBoot
  | loggingConfigured
  | taskExecuting
  | signaled
  /-- The group is scaled to zero once buffered logs had time to arrive. -/
  | terminating
  /-- The instance stays up for inspection. -/
  | idle
  deriving DecidableEq

namespace BootStage

/-- The name of a stage. -/
def name : BootStage → String
  | .pendingBoot => "PendingBoot"
  | .loggingConfigured => "LoggingConfigured"
  | .taskExecuting => "TaskExecuting"
  | .signaled => "Signaled"
  | .terminating => "Terminating"
  | .idle => "Idle"

/-- All stages. -/
def all : List BootStage :=
  [.pendingBoot, .loggingConfigured, .taskExecuting, .signaled, .terminating, .idle]

/-- The stage of a name. -/
def ofName? (name : String) : Option BootStage :=
  all.find? (·.name = name)

/-- The stage that follows, given whether the instance terminates itself. -/
def next (selfTerminate : Bool) : BootStage → Option BootStage
  | .pendingBoot => some .loggingConfigured
  | .loggingConfigured => some .taskExecuting
  | .taskExecuting => some .signaled
  | .signaled => some (if selfTerminate then .terminating else .idle)
  | .terminating => none
  | .idle => none

/-- Whether nothing follows. -/
def isTerminal : BootStage → Bool
  | .terminating => true
  | .idle => true
  | _ => false

/-- A stage and the stages after it, at most `count` of them. -/
def onward (selfTerminate : Bool) : (count : Nat) → BootStage → List BootStage
  | 0, stage => [stage]
  | count + 1, stage =>
    match stage.next selfTerminate with
    | none => [stage]
    | some following => stage :: onward selfTerminate count following

/-- Every stage an instance passes through, in order: the first stage and the
four that follow it. -/
def sequence (selfTerminate : Bool) : List BootStage :=
  onward selfTerminate 4 .pendingBoot

/-- Nothing follows the last stage of the sequence. -/
theorem isTerminal_getLast_sequence (selfTerminate : Bool) :
    (sequence selfTerminate).getLast?.any isTerminal = true := by
  cases selfTerminate <;> decide

end BootStage

end Provisioning
