import Provisioning.Event

/-!
# Completion signals

The controller waits for exactly one signal per instance.  A report of success
completes the resource; a report of failure, a sender that disappears without
reporting, and silence until the window ends all fail the deployment.
-/

namespace Provisioning

set_option autoImplicit false

/-- What an instance reports when its main sequence ends. -/
structure CompletionReport where
  exitCode : Int
  reason : Option String
  deriving DecidableEq

/-- Whether the main sequence succeeded. -/
def CompletionReport.isSuccess (r : CompletionReport) : Bool :=
  r.exitCode == 0

/-- What becomes of a sender: after some time it reports, or disappears. -/
structure Sender where
  delay : Duration
  report : Option CompletionReport

/-- Where an instance addresses its signal. -/
structure SignalTarget where
  stack : String
  resource : String
  region : String

/-- The command that reports the value of a shell variable.  A report that cannot
be delivered is noted and otherwise ignored: the controller then runs into the
end of its window. -/
def SignalTarget.command (t : SignalTarget) (variableName : String) : String :=
  "/opt/aws/bin/cfn-signal --stack " ++ t.stack ++ " --resource " ++ t.resource ++ " --region "
    ++ t.region ++ " -e $" ++ variableName ++ " || echo 'Failed to send completion signal'"

/-- How long the controller waits, and for how many signals. -/
structure CompletionSignal where
  count : Nat
  timeout : Duration
  deriving DecidableEq

namespace CompletionSignal

/-- The window when nothing else is asked for: a quarter of an hour. -/
def defaultTimeout : Duration := .ofSecs 900

/-- The longest window the controller supports: half a day. -/
def maxTimeout : Duration := .ofSecs 43200

/-- One signal within the default window. -/
def standard : CompletionSignal where
  count := 1
  timeout := defaultTimeout

/-- One signal within the given window. -/
def create (timeout : Duration) : Result CompletionSignal :=
  if timeout.isZero then .error (.config .zeroTimeout)
  else if timeout.isLongerThan maxTimeout then
    .error (.config (.excessiveTimeout timeout maxTimeout))
  else .ok { count := 1, timeout }

/-- A part of a duration with the letter of its unit; nothing when it is zero. -/
def part (n : Nat) (unit : String) : String :=
  if n = 0 then "" else Text.decimal n ++ unit

/-- Whole seconds as an ISO 8601 duration of hours, minutes and seconds. -/
def isoText (secs : Nat) : String :=
  let parts := part (secs / 3600) "H" ++ part (secs % 3600 / 60) "M" ++ part (secs % 60) "S"
  "PT" ++ if parts = "" then "0S" else parts

/-- The window in whole seconds, as an ISO 8601 duration. -/
def timeoutText (s : CompletionSignal) : String :=
  isoText s.timeout.secs

/-- Waits for a sender.  A report that comes in time is the result, with a warning
when it tells of a failure. -/
def await (s : CompletionSignal) (sender : Sender) : Result CompletionReport × List Event :=
  if sender.delay.isLongerThan s.timeout then
    (.error (.timeout s.timeout), [.signalTimedOut s.timeout])
  else
    match sender.report with
    | none => (.error (.timeout s.timeout), [.senderDropped])
    | some report =>
      if report.isSuccess then (.ok report, [])
      else
        (.error (.bootFailed report.exitCode),
          [.bootReportedFailure report.exitCode report.reason])

end CompletionSignal

end Provisioning
