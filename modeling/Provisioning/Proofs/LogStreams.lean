import Provisioning.LogShipping
import Provisioning.Proofs.Repetition

/-!
# Streams without repetitions

A configuration has a stream once for each name and file that were asked for.  It knows the
streams by their full names, but the prefix and the placeholder that are put around a name are the
same for all streams, so two of them are one only if they were asked for by the same name and with
the same file.  The log of the boot comes first and counts as asked for.
-/

namespace Provisioning

set_option autoImplicit false

namespace LogShipping

variable (s : LogShipping)

/-- The stream that is meant by a name and a file. -/
def stream (asked : String × String) : LogStream :=
  ⟨s.streamName asked.1, asked.2⟩

/-- What stands around a name is the same for all streams. -/
theorem stream_injective : Function.Injective s.stream := by
  rintro ⟨name, path⟩ ⟨name', path'⟩ same
  obtain ⟨fullName, samePath⟩ := LogStream.mk.inj same
  obtain rfl : path = path' := samePath
  have characters := congrArg String.toList fullName
  simp only [streamName, String.toList_append, List.append_assoc, List.append_cancel_left_eq]
    at characters
  rw [String.toList_injective (List.append_cancel_right characters)]

/-! ## Streams one after another -/

theorem addStreams_cons (asked : String × String) (rest : List (String × String)) :
    s.addStreams (asked :: rest) =
      ({ s with streams := appendNew s.streams (s.stream asked) } : LogShipping).addStreams rest :=
  rfl

/-- Streams come behind the earlier ones, one after another, and nothing else changes. -/
theorem addStreams_eq (asked : List (String × String)) :
    s.addStreams asked =
      { s with streams := (asked.map s.stream).foldl appendNew s.streams } := by
  induction asked generalizing s with
  | nil => rfl
  | cons first rest ih =>
    rw [addStreams_cons, ih]
    rfl

/-! ## Behind the log of the boot -/

/-- By what the log of the boot is asked for. -/
def bootLog : String × String :=
  ("cloud-init-output", "/var/log/cloud-init-output.log")

theorem streams_forBoot (o : LogOptions) :
    (forBoot o).streams = [(forBoot o).stream bootLog].eraseDups := rfl

/-- The streams are those that were asked for, the log of the boot before all others. -/
theorem addStreams_forBoot (o : LogOptions) (asked : List (String × String)) :
    (forBoot o).addStreams asked =
      { forBoot o with streams := (bootLog :: asked).eraseDups.map (forBoot o).stream } := by
  have named : (asked.map (forBoot o).stream).foldl appendNew (forBoot o).streams =
      (bootLog :: asked).eraseDups.map (forBoot o).stream := by
    rw [streams_forBoot, foldl_appendNew_eraseDups, List.singleton_append, ← List.map_cons,
      eraseDups_map (forBoot o).stream_injective]
  rw [addStreams_eq, named]

/-- Repetitions may be dropped before the streams are named, or only afterwards. -/
theorem addStreams_eraseDups (o : LogOptions) (asked : List (String × String)) :
    (forBoot o).addStreams asked.eraseDups = (forBoot o).addStreams asked := by
  have once : (bootLog :: asked.eraseDups).eraseDups = (bootLog :: asked).eraseDups :=
    eraseDups_append_eraseDups [bootLog] asked
  rw [addStreams_forBoot, addStreams_forBoot, once]

/-- The configuration ships the log of the boot and then what was asked for, as far as it is
something else, each name with its file once and where it was asked for first. -/
structure ShipsOnce (o : LogOptions) (asked : List (String × String)) : Prop where
  /-- The configuration is the one that takes up what was asked for as it comes. -/
  direct : s = (forBoot o).addStreams asked
  streams : ∃ firsts,
    IsFirsts firsts (asked.filter (· ≠ ("cloud-init-output", "/var/log/cloud-init-output.log"))) ∧
    s.streams =
      ⟨o.streamPrefix ++ "cloud-init-output" ++ "-\x7binstance_id\x7d",
        "/var/log/cloud-init-output.log"⟩ ::
      firsts.map fun (name, path) => ⟨o.streamPrefix ++ name ++ "-\x7binstance_id\x7d", path⟩
  /-- Two streams are one only if they have the same name and the same file. -/
  separate : ∀ name path name' path',
    (⟨s.streamName name, path⟩ : LogStream) = ⟨s.streamName name', path'⟩ →
      name = name' ∧ path = path'

theorem streamName_eq (name : String) :
    s.streamName name = s.streamPrefix ++ name ++ "-\x7binstance_id\x7d" := by
  have suffix : "-" ++ machinePlaceholder = "-\x7binstance_id\x7d" := rfl
  rw [streamName, String.append_assoc, suffix]

/-- **Streams are shipped once**, though an instance drops their repetitions by name and file, and
the configuration drops them again by full name and file. -/
theorem shipsOnce_addStreams (o : LogOptions) (asked : List (String × String)) :
    ((forBoot o).addStreams asked.eraseDups).ShipsOnce o asked where
  direct := addStreams_eraseDups o asked
  streams := by
    have others : asked.filter (fun other => !other == bootLog) = asked.filter (· ≠ bootLog) :=
      List.filter_congr fun other _ => by by_cases same : other = bootLog <;> simp [same]
    have full : (forBoot o).stream = fun (name, path) =>
        ⟨o.streamPrefix ++ name ++ "-\x7binstance_id\x7d", path⟩ :=
      funext fun asked => congrArg (LogStream.mk · asked.2) ((forBoot o).streamName_eq asked.1)
    refine ⟨(asked.filter (· ≠ bootLog)).eraseDups, isFirsts_eraseDups _, ?_⟩
    rw [addStreams_eraseDups, addStreams_forBoot, List.eraseDups_cons, others,
      List.map_cons, full]
    rfl
  separate name path name' path' same := by
    have sameStream : stream _ (name, path) = stream _ (name', path') := same
    exact Prod.mk.inj (stream_injective _ sameStream)

end LogShipping

end Provisioning
