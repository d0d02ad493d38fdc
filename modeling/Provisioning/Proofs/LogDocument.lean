import Provisioning.Proofs.LogShipping
import Provisioning.Proofs.LogStreams

/-!
# The commands of the log agent, written out

The boot script writes the configuration of the log agent and starts the agent with it.  Here the
configuration is described by the options and by what is to be shipped: as a tree, which tells the
group, the interval between two flushes and every stream, and line by line, as it stands in the
script.  No term of the agent's own is used for either.
-/

namespace Provisioning

set_option autoImplicit false

/-! ## Blocks of lines -/

namespace Datum

theorem lines_array {items : List Datum} (someItem : items ≠ []) :
    (array items).lines = bracketed "[" "]" (commaSeparated (items.map lines)) := by
  cases items with
  | nil => exact absurd rfl someItem
  | cons d rest => rw [lines, itemLines_eq]

theorem lines_record_cons (field : String × Datum) (rest : List (String × Datum)) :
    (record (field :: rest)).lines = bracketed "\x7b" "\x7d" (commaSeparated
      (labelled field.1 field.2.lines :: rest.map fun field => labelled field.1 field.2.lines)) := by
  rw [lines, fieldLines_eq, List.map_cons]

theorem lines_string (text : String) : (string text).lines = [stringText text] := by
  rw [lines]

theorem lines_integer (n : Int) : (integer n).lines = [Text.signedDecimal n] := by
  rw [lines]

/-- Blocks that are closed by the same line have a comma behind it, all but the last. -/
theorem commaSeparated_closed (closing : String) {blocks : List (List String)}
    (someBlock : blocks ≠ []) :
    commaSeparated (blocks.map (· ++ [closing])) =
      [closing ++ ","].intercalate blocks ++ [closing] := by
  have lastLine (block : List String) :
      withComma (block ++ [closing]) = block ++ [closing ++ ","] := by
    induction block with
    | nil => rfl
    | cons line rest ih =>
      rw [List.cons_append, withComma, ih, List.cons_append]
      simp
  induction blocks with
  | nil => exact absurd rfl someBlock
  | cons block rest ih =>
    cases rest with
    | nil => simp [commaSeparated]
    | cons next others =>
      rw [List.map_cons, commaSeparated, lastLine, ih (List.cons_ne_nil _ _)]
      · simp
      · simp

end Datum

/-! ## The configuration -/

/-- A file that is shipped under a name. -/
def agentFile (o : LogOptions) (asked : String × String) : Datum :=
  .record [
    ("file_path", .string asked.2),
    ("log_group_name", .string o.groupName),
    ("log_stream_name", .string (o.streamPrefix ++ asked.1 ++ "-\x7binstance_id\x7d")),
    ("timezone", .string "Local")]

/-- The configuration that ships the files asked for, each under a name. -/
def agentTree (o : LogOptions) (asked : List (String × String)) : Datum :=
  .record [("logs", .record [
    ("force_flush_interval", .integer o.flushIntervalSecs),
    ("log_stream_name", .string (o.streamPrefix ++ "default-\x7binstance_id\x7d")),
    ("logs_collected", .record [
      ("files", .record [("collect_list", .array (asked.map (agentFile o)))])])])]

/-- The lines of a file that is shipped, but for the brace that closes them. -/
def agentFileLines (o : LogOptions) (asked : String × String) : List String :=
  ["\x7b",
    "  \"file_path\": " ++ Datum.stringText asked.2 ++ ",",
    "  \"log_group_name\": " ++ Datum.stringText o.groupName ++ ",",
    "  \"log_stream_name\": "
      ++ Datum.stringText (o.streamPrefix ++ asked.1 ++ "-\x7binstance_id\x7d") ++ ",",
    "  \"timezone\": \"Local\""]

/-- The lines of the configuration. -/
def agentLines (o : LogOptions) (asked : List (String × String)) : List String :=
  ["\x7b",
    "  \"logs\": \x7b",
    "    \"force_flush_interval\": " ++ toString o.flushIntervalSecs ++ ",",
    "    \"log_stream_name\": "
      ++ Datum.stringText (o.streamPrefix ++ "default-\x7binstance_id\x7d") ++ ",",
    "    \"logs_collected\": \x7b",
    "      \"files\": \x7b",
    "        \"collect_list\": ["]
  ++ (["\x7d,"].intercalate (asked.map (agentFileLines o)) ++ ["\x7d"]).map ("          " ++ ·)
  ++ ["        ]", "      \x7d", "    \x7d", "  \x7d", "\x7d"]

namespace LogShipping

/-- **The configuration holds the options and all that was asked for**: the group and the prefix,
the interval between two flushes, and every file under its name, the log of the boot first. -/
theorem toDatum_addStreams_forBoot (o : LogOptions) (asked : List (String × String)) :
    ((forBoot o).addStreams asked).toDatum = agentTree o (bootLog :: asked).eraseDups := by
  have standard : (forBoot o).streamName "default" =
      o.streamPrefix ++ "default-\x7binstance_id\x7d" :=
    (streamName_eq _ _).trans String.append_assoc
  have file : (forBoot o).streamDatum ∘ (forBoot o).stream = agentFile o := by
    funext asked
    rw [agentFile, Function.comp_apply, stream, streamName_eq]
    rfl
  rw [addStreams_forBoot, agentTree, ← standard, ← file, ← List.map_map]
  rfl

end LogShipping

theorem lines_agentFile (o : LogOptions) (asked : String × String) :
    (agentFile o asked).lines = agentFileLines o asked ++ ["\x7d"] := by
  have filePath : Datum.stringText "file_path" = "\"file_path\"" := by decide
  have groupName : Datum.stringText "log_group_name" = "\"log_group_name\"" := by decide
  have streamName : Datum.stringText "log_stream_name" = "\"log_stream_name\"" := by decide
  have zone : Datum.stringText "timezone" = "\"timezone\"" := by decide
  have zoneName : Datum.stringText "Local" = "\"Local\"" := by decide
  rw [agentFile, agentFileLines]
  simp only [Datum.lines_record_cons, Datum.lines_string, Datum.labelled,
    Datum.commaSeparated, Datum.withComma, Datum.bracketed, filePath, groupName, streamName, zone,
    zoneName, List.map_cons, List.map_nil, List.cons_append, List.nil_append,
    ← String.append_assoc, String.reduceAppend]

/-- Where something is shipped, the configuration is written with these lines. -/
theorem lines_agentTree (o : LogOptions) {asked : List (String × String)} (someFile : asked ≠ []) :
    (agentTree o asked).lines = agentLines o asked := by
  have logs : Datum.stringText "logs" = "\"logs\"" := by decide
  have interval : Datum.stringText "force_flush_interval" = "\"force_flush_interval\"" := by decide
  have streamName : Datum.stringText "log_stream_name" = "\"log_stream_name\"" := by decide
  have collected : Datum.stringText "logs_collected" = "\"logs_collected\"" := by decide
  have files : Datum.stringText "files" = "\"files\"" := by decide
  have list : Datum.stringText "collect_list" = "\"collect_list\"" := by decide
  have seconds : Text.signedDecimal o.flushIntervalSecs = toString o.flushIntervalSecs := rfl
  have blocks : Datum.commaSeparated ((asked.map (agentFile o)).map Datum.lines) =
      ["\x7d,"].intercalate (asked.map (agentFileLines o)) ++ ["\x7d"] := by
    have closed : Datum.lines ∘ agentFile o = (· ++ ["\x7d"]) ∘ agentFileLines o :=
      funext (lines_agentFile o)
    rw [List.map_map, closed, ← List.map_map]
    exact Datum.commaSeparated_closed "\x7d" (mt List.map_eq_nil_iff.mp someFile)
  have indents : (("  " ++ ·) : String → String) ∘ ("  " ++ ·) ∘ ("  " ++ ·) ∘ ("  " ++ ·) ∘
      ("  " ++ ·) = ("          " ++ ·) := by
    funext line
    simp only [Function.comp_apply, ← String.append_assoc, String.reduceAppend]
  rw [agentTree, agentLines, ← blocks, ← indents]
  simp only [Datum.lines_record_cons, Datum.lines_string, Datum.lines_integer,
    Datum.lines_array (mt List.map_eq_nil_iff.mp someFile), Datum.labelled,
    Datum.commaSeparated.eq_2, Datum.commaSeparated.eq_3, Datum.withComma, Datum.bracketed, logs,
    interval, streamName, collected, files, list, seconds, List.map_cons, List.map_nil,
    List.map_append, List.map_map, List.cons_append, List.nil_append, List.append_assoc,
    ← String.append_assoc, String.reduceAppend]

/-- When the interval between two flushes fits 64 bits, the lines are read back as the
configuration. -/
theorem ofJson?_agentLines (o : LogOptions) {asked : List (String × String)}
    (someFile : asked ≠ []) (small : o.flushIntervalSecs < Nat.pow 2 64) :
    Datum.ofJson? (Text.joined "\n" (agentLines o asked)) = some (agentTree o asked) := by
  have notNegative : 0 ≤ (o.flushIntervalSecs : Int) := Int.natCast_nonneg _
  have fit : Datum.Json.Fits o.flushIntervalSecs := ⟨by omega, Int.ofNat_lt.mpr small⟩
  have files : ∀ d ∈ asked.map (agentFile o), d.IsWritten Datum.Json.Fits :=
    List.forall_mem_map.mpr fun file _ => by simp [agentFile]
  have written : (agentTree o asked).IsWritten Datum.Json.Fits := by
    simpa [agentTree, fit] using files
  rw [← lines_agentTree o someFile]
  exact Datum.ofJson?_pretty written

/-! ## The commands -/

/-- The lines of the script that write the configuration and start the agent with it. -/
def agentCommandLines (o : LogOptions) (asked : List (String × String)) : List String :=
  ["mkdir -p \"$(dirname /opt/aws/amazon-cloudwatch-agent/etc/farmstead.json)\"",
    "cat > /opt/aws/amazon-cloudwatch-agent/etc/farmstead.json <<'FARMSTEAD_LOG_CONFIG'"]
  ++ agentLines o asked
  ++ ["FARMSTEAD_LOG_CONFIG",
    "/opt/aws/amazon-cloudwatch-agent/bin/amazon-cloudwatch-agent-ctl -a fetch-config -m ec2 -s"
      ++ " -c file:/opt/aws/amazon-cloudwatch-agent/etc/farmstead.json"]

theorem Text.terminated_append (first second : List String) :
    terminated (first ++ second) = terminated first ++ terminated second := by
  rw [terminated, terminated, terminated, List.map_append, String.join_append]

/-- Lines that are joined to one text are written like lines by themselves. -/
theorem Text.terminated_joined {lines : List String} (someLine : lines ≠ []) :
    terminated [joined "\n" lines] = terminated lines := by
  induction lines with
  | nil => exact absurd rfl someLine
  | cons line rest ih =>
    cases rest with
    | nil => rfl
    | cons next others =>
      have later := ih (List.cons_ne_nil next others)
      simp only [terminated, List.map_cons, List.map_nil, String.join_cons, String.join_nil,
        joined, String.append_assoc] at later ⊢
      rw [later]

/-- **The commands of the agent are these lines.** -/
theorem LogShipping.terminated_commands (o : LogOptions) (asked : List (String × String)) :
    Text.terminated ((forBoot o).addStreams asked).commands =
      Text.terminated (agentCommandLines o (bootLog :: asked).eraseDups) := by
  have someFile : (bootLog :: asked).eraseDups ≠ [] := by
    rw [List.eraseDups_cons]
    exact List.cons_ne_nil _ _
  have document : writeCommand ((forBoot o).addStreams asked) = Text.joined "\n"
      (openingLine :: (agentLines o (bootLog :: asked).eraseDups ++ [marker])) := by
    rw [writeCommand, toDatum_addStreams_forBoot, lines_agentTree o someFile]
    rfl
  have around : ((forBoot o).addStreams asked).commands =
      ["mkdir -p \"$(dirname " ++ configPath ++ ")\""]
        ++ [writeCommand ((forBoot o).addStreams asked)]
        ++ [controlProgram ++ " -a fetch-config -m ec2 -s -c file:" ++ configPath] := rfl
  rw [around, document, Text.terminated_append, Text.terminated_append,
    Text.terminated_joined (List.cons_ne_nil _ _), ← Text.terminated_append,
    ← Text.terminated_append, agentCommandLines]
  simp only [List.append_assoc, List.cons_append, List.nil_append]
  rfl

end Provisioning
