import Provisioning.Datum.Printer
import Provisioning.Options.Instance
import Provisioning.Repetition

/-!
# Shipping of logs

An agent on the instance ships files to streams of a log group.  The boot script
writes the agent's configuration with a here-document and starts the agent with
it.  The names in the configuration may be any text: as JSON strings never hold a
raw line break, no line of the document can be mistaken for its end.
-/

namespace Provisioning

set_option autoImplicit false

/-- A file and the stream it is shipped to. -/
structure LogStream where
  name : String
  path : String
  deriving DecidableEq

/-- What the agent ships, and how. -/
structure LogShipping where
  groupName : String
  streamPrefix : String
  flushInterval : Duration
  streams : List LogStream
  deriving DecidableEq

namespace LogShipping

/-- What the agent replaces by the id of the machine it runs on. -/
def machinePlaceholder : String := "\x7binstance_id\x7d"

/-- The full name of a stream. -/
def streamName (s : LogShipping) (name : String) : String :=
  s.streamPrefix ++ name ++ "-" ++ machinePlaceholder

/-- Ships one more file, unless the file is shipped under that name already. -/
def addStream (s : LogShipping) (name path : String) : LogShipping :=
  { s with streams := appendNew s.streams ⟨s.streamName name, path⟩ }

/-- Ships several more files, one after another. -/
def addStreams (s : LogShipping) (streams : List (String × String)) : LogShipping :=
  streams.foldl (fun s (name, path) => s.addStream name path) s

/-- Ships nothing yet. -/
def ofOptions (o : LogOptions) : LogShipping where
  groupName := o.groupName
  streamPrefix := o.streamPrefix
  flushInterval := .ofSecs o.flushIntervalSecs
  streams := []

/-- Ships the log of the boot. -/
def forBoot (o : LogOptions) : LogShipping :=
  (ofOptions o).addStream "cloud-init-output" "/var/log/cloud-init-output.log"

/-- The whole minutes after which everything written so far has been shipped. -/
def graceMinutes (s : LogShipping) : Nat :=
  max 1 ((s.flushInterval.secs + 59) / 60)

/-! ## The configuration of the agent -/

/-- A stream as data. -/
def streamDatum (s : LogShipping) (stream : LogStream) : Datum :=
  .record [
    ("file_path", .string stream.path),
    ("log_group_name", .string s.groupName),
    ("log_stream_name", .string stream.name),
    ("timezone", .string "Local")]

/-- The configuration as data. -/
def toDatum (s : LogShipping) : Datum :=
  .record [
    ("logs", .record [
      ("force_flush_interval", .natural s.flushInterval.secs),
      ("log_stream_name", .string (s.streamName "default")),
      ("logs_collected", .record [
        ("files", .record [("collect_list", .array (s.streams.map s.streamDatum))])])])]

/-! ## Commands -/

/-- Where the agent finds its configuration. -/
def configPath : String := "/opt/aws/amazon-cloudwatch-agent/etc/farmstead.json"

/-- The program that controls the agent. -/
def controlProgram : String := "/opt/aws/amazon-cloudwatch-agent/bin/amazon-cloudwatch-agent-ctl"

/-- The line that ends the here-document. -/
def marker : String := "FARMSTEAD_LOG_CONFIG"

/-- Writes the configuration. -/
def writeCommand (s : LogShipping) : String :=
  Text.joined "\n"
    (["cat > " ++ configPath ++ " <<'" ++ marker ++ "'"] ++ s.toDatum.lines ++ [marker])

/-- Writes the configuration and starts the agent with it. -/
def commands (s : LogShipping) : List String := [
  "mkdir -p \"$(dirname " ++ configPath ++ ")\"",
  s.writeCommand,
  controlProgram ++ " -a fetch-config -m ec2 -s -c file:" ++ configPath]

end LogShipping

end Provisioning
