import Provisioning.Error

/-!
# Events worth an operator's attention

Warnings and errors that an operation reports beside its result.  An event names
what happened; its message and the named texts that come with it are worded
here.
-/

namespace Provisioning

set_option autoImplicit false

/-- How serious an event is. -/
inductive Severity where
  | warning
  | error
  deriving DecidableEq

/-- The name of a severity. -/
def Severity.name : Severity → String
  | .warning => "WARN"
  | .error => "ERROR"

/-- What an operation reports beside its result. -/
inductive Event where
  /-- A segment was registered whose clients also connect as the front door. -/
  | frontDoorOverlap (segment : String)
  | bootReportedFailure (exitCode : Int) (reason : Option String)
  | senderDropped
  | signalTimedOut (window : Duration)
  | renderTaskFailed (instanceId : ResourceId) (task : String) (error : Error)
  | renderFailed (instanceId : ResourceId) (error : Error)
  | foreignCredentials (region credentialsRegion : String)
  deriving DecidableEq

namespace Event

/-- How serious the event is. -/
def severity : Event → Severity
  | .renderTaskFailed .. => .error
  | _ => .warning

/-- The wording of the event. -/
def message : Event → String
  | .frontDoorOverlap _ =>
    "Source segment is also a connection segment; use dedicated subnets for clients so "
      ++ "registration rules stay distinct"
  | .bootReportedFailure _ _ => "Completion signal reported failure"
  | .senderDropped => "Signal sender dropped before reporting"
  | .signalTimedOut _ => "Completion signal timed out"
  | .renderTaskFailed .. => "Render task failed"
  | .renderFailed .. => "Render failed"
  | .foreignCredentials .. => "Credentials live in a different region than the repository"

/-- A reason that may be missing, as a value. -/
def inspectReason : Option String → String
  | none => "None"
  | some reason => "Some(" ++ Text.quoted reason ++ ")"

/-- The named texts of the event. -/
def fields : Event → List (String × String)
  | .frontDoorOverlap segment => [("segment", segment)]
  | .bootReportedFailure exitCode reason =>
    [("exit_code", Text.signedDecimal exitCode), ("reason", inspectReason reason)]
  | .senderDropped => []
  | .signalTimedOut window => [("timeout", window.text)]
  | .renderTaskFailed id task error =>
    [("instance", id.path), ("task", task), ("error", error.message)]
  | .renderFailed id error => [("instance", id.path), ("error", error.message)]
  | .foreignCredentials region credentialsRegion =>
    [("region", region), ("credentials_region", credentialsRegion)]

end Event

end Provisioning
