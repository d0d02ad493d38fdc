import Provisioning.LogShipping
import Provisioning.Proofs.Datum.RoundTrip

/-!
# The configuration of the log agent stays in its document

A here-document ends at the first line that is its marker.  The configuration in it is a record
in the pretty form, whose lines start with a brace or a blank, whatever the names of groups,
streams and files are.  The marker starts with a letter, so the line behind the configuration is
the first one to end the document.  What stands in the document is read back as the
configuration, so nothing of the names is lost either.
-/

namespace Provisioning

set_option autoImplicit false

/-! ## Here-documents -/

/-- A here-document read from the lines behind the command it belongs to: its own lines, up to
the first one that is the marker, and the lines behind that one.  Where the marker is quoted in
the command, these lines are taken as they are.  There is no document when no line is the
marker. -/
def Shell.document? (marker : String) : List String → Option (List String × List String)
  | [] => none
  | line :: rest =>
    if line = marker then some ([], rest)
    else (document? marker rest).map fun (body, behind) => (line :: body, behind)

/-- A document without its marker is read up to the marker behind it. -/
theorem Shell.document?_append {marker : String} {body : List String} (notInside : marker ∉ body)
    (behind : List String) : document? marker (body ++ marker :: behind) = some (body, behind) := by
  induction body with
  | nil => rw [List.nil_append, document?, if_pos rfl]
  | cons line rest ih =>
    obtain ⟨differ, notInside⟩ := List.ne_and_not_mem_of_not_mem_cons notInside
    rw [List.cons_append, document?, if_neg (Ne.symm differ), ih notInside, Option.map_some]

/-! ## Records -/

/-- Every line of a record starts with a brace or a blank. -/
theorem Datum.head?_of_mem_lines_record {fields : List (String × Datum)} {line : String}
    (mem : line ∈ (Datum.record fields).lines) :
    ∃ c ∈ ['\x7b', '\x7d', ' '], line.toList.head? = some c := by
  cases fields with
  | nil =>
    rw [lines, List.mem_singleton] at mem
    exact ⟨'\x7b', by decide, mem ▸ rfl⟩
  | cons field rest =>
    rw [lines, bracketed, List.mem_append, List.mem_cons, List.mem_map, List.mem_singleton] at mem
    obtain (rfl | ⟨inner, -, rfl⟩) | rfl := mem
    · exact ⟨'\x7b', by decide, rfl⟩
    · exact ⟨' ', by decide, by simp⟩
    · exact ⟨'\x7d', by decide, rfl⟩

namespace LogShipping

/-! ## The configuration -/

theorem flushInterval_addStreams (s : LogShipping) (streams : List (String × String)) :
    (s.addStreams streams).flushInterval = s.flushInterval := by
  induction streams generalizing s with
  | nil => rfl
  | cons stream rest ih => exact ih (s.addStream stream.1 stream.2)

/-- Nothing in the configuration is kept as it was written elsewhere, and the interval between
two flushes is the only integer in it. -/
theorem isWritten_toDatum (s : LogShipping) (fits : Int → Prop)
    (fit : fits (.ofNat s.flushInterval.secs)) : s.toDatum.IsWritten fits := by
  simpa [toDatum, streamDatum, Datum.natural] using fit

/-- The configuration is read back when the interval fits 64 bits. -/
theorem ofJson?_pretty_toDatum (s : LogShipping) (small : s.flushInterval.secs < Nat.pow 2 64) :
    Datum.ofJson? s.toDatum.pretty = some s.toDatum := by
  have notNegative : 0 ≤ Int.ofNat s.flushInterval.secs := Int.natCast_nonneg _
  have fit : Datum.Json.Fits (.ofNat s.flushInterval.secs) :=
    ⟨by omega, Int.ofNat_lt.mpr small⟩
  exact Datum.ofJson?_pretty (s.isWritten_toDatum _ fit)

/-- No line of the configuration is the marker. -/
theorem marker_not_mem_lines (s : LogShipping) : marker ∉ s.toDatum.lines := by
  intro mem
  obtain ⟨c, isStart, head⟩ := Datum.head?_of_mem_lines_record mem
  obtain rfl : 'F' = c := Option.some.inj head
  exact absurd isStart (by decide)

/-! ## The command -/

/-- The line that opens the here-document. -/
def openingLine : String :=
  "cat > " ++ configPath ++ " <<'" ++ marker ++ "'"

/-- The command is the opening line, the configuration and the marker. -/
theorem linesOf_writeCommand (s : LogShipping) :
    Text.linesOf s.writeCommand = openingLine :: (s.toDatum.lines ++ [marker]) := by
  rw [writeCommand, Text.linesOf_joined]
  · rfl
  · simp
  · simp only [List.forall_mem_append, List.forall_mem_singleton]
    refine ⟨⟨by decide, fun line mem => ?_⟩, by decide⟩
    exact ((s.isWritten_toDatum (fun _ => True) trivial).isClosed line mem).noBreak

/-- **The configuration does not break out of its document.**  Whatever the options and the names
and files of the streams are, what the shell reads as the document is the pretty form of the
configuration, line by line, and nothing of the command is left behind it.  Every line break in
that form stands between lines, outside of strings.  When the interval between two flushes fits
64 bits, what stands in the document is read back as the configuration. -/
theorem configuration_stays_in_document (o : LogOptions) (streams : List (String × String)) :
    let s := (forBoot o).addStreams streams
    (∃ command following,
      s.commands[1]? = some command ∧
      Text.linesOf command = openingLine :: following ∧
      Shell.document? marker following = some (Text.linesOf s.toDatum.pretty, [])) ∧
    (∀ before behind, s.toDatum.pretty.toList = before ++ '\n' :: behind →
      Datum.Place.outside.after before = .outside) ∧
    (o.flushIntervalSecs < Nat.pow 2 64 → Datum.ofJson? s.toDatum.pretty = some s.toDatum) := by
  intro s
  have written := s.isWritten_toDatum (fun _ => True) trivial
  refine ⟨⟨s.writeCommand, s.toDatum.lines ++ [marker], rfl, s.linesOf_writeCommand, ?_⟩, ?_, ?_⟩
  · rw [written.linesOf_pretty]
    exact Shell.document?_append s.marker_not_mem_lines []
  · exact fun before behind parts => written.outside_of_lineBreak parts
  · intro small
    have interval : s.flushInterval = .ofSecs o.flushIntervalSecs :=
      flushInterval_addStreams (forBoot o) streams
    refine s.ofJson?_pretty_toDatum ?_
    rw [interval]
    exact small

/-- A stream whose name has the marker on a line of its own, between line breaks and behind a
quotation mark, does not end the document and is read back; the line break behind the first brace
is outside. -/
theorem configuration_stays_in_document_marker_name :
    let s := (forBoot .standard).addStreams [("a\"\nFARMSTEAD_LOG_CONFIG\n", "/var/log/a.log")]
    (∃ command following,
      s.commands[1]? = some command ∧
      Text.linesOf command = openingLine :: following ∧
      Shell.document? marker following = some (Text.linesOf s.toDatum.pretty, [])) ∧
    (∃ behind, s.toDatum.pretty.toList = ['\x7b'] ++ '\n' :: behind) ∧
      Datum.Place.outside.after ['\x7b'] = .outside ∧
    LogOptions.standard.flushIntervalSecs < Nat.pow 2 64 ∧
      Datum.ofJson? s.toDatum.pretty = some s.toDatum := by
  intro s
  obtain ⟨inDocument, outside, readBack⟩ := configuration_stays_in_document .standard
    [("a\"\nFARMSTEAD_LOG_CONFIG\n", "/var/log/a.log")]
  obtain ⟨behind, parts⟩ :
      ∃ behind, s.toDatum.pretty.toList = ['\x7b'] ++ '\n' :: behind := by
    rw [Datum.pretty, toDatum, Datum.lines, Datum.bracketed, List.cons_append,
      Text.toList_joined_cons rfl _ (by simp)]
    exact ⟨_, rfl⟩
  have small : LogOptions.standard.flushIntervalSecs < Nat.pow 2 64 := by decide
  exact ⟨inDocument, ⟨behind, parts⟩, outside _ behind parts, small, readBack small⟩

end LogShipping

end Provisioning
