import Mathlib.Order.Bounds.Basic
import Provisioning.Proofs.Instance.Guard
import Provisioning.Proofs.Instance.Render
import Provisioning.Proofs.LogDocument

/-!
# The boot script, written out

What a render makes is described here without its tasks: the script is a list of
lines, and whether there is a script depends on the lazy commands of the setup
alone.  The wait of the guard is described by what it is for.  It is the shortest
positive number of whole minutes in which the agent flushes its logs.
-/

namespace Provisioning

set_option autoImplicit false

/-! ## The wait of the guard -/

namespace LogShipping

/-- The grace is the shortest positive time in whole minutes that covers the
interval between two flushes. -/
theorem isLeast_graceMinutes (s : LogShipping) :
    IsLeast {minutes : Nat | 0 < minutes ∧ s.flushInterval.secs ≤ 60 * minutes} s.graceMinutes := by
  refine ⟨⟨?_, ?_⟩, ?_⟩
  · rw [graceMinutes]
    omega
  · rw [graceMinutes]
    omega
  · rintro minutes ⟨positive, covers⟩
    rw [graceMinutes]
    omega

end LogShipping

theorem SignalTarget.command_exitCodeVariable (t : SignalTarget) :
    t.command CommandSequence.exitCodeVariable =
      "/opt/aws/bin/cfn-signal --stack " ++ t.stack ++ " --resource " ++ t.resource
        ++ " --region " ++ t.region
        ++ " -e $exitCode || echo 'Failed to send completion signal'" := by
  have ending : " -e $exitCode || echo 'Failed to send completion signal'" =
      " -e $" ++ CommandSequence.exitCodeVariable
        ++ " || echo 'Failed to send completion signal'" := by
    decide
  rewrite [ending, ← String.append_assoc, ← String.append_assoc]
  rfl

namespace ProvisioningInstance

theorem secs_flushInterval_shippedLogs (i : ProvisioningInstance) :
    i.shippedLogs.flushInterval.secs = i.options.logs.flushIntervalSecs := by
  rw [shippedLogs, LogShipping.flushInterval_addStreams]
  rfl

/-- The grace is the shortest wait that covers the interval of the options. -/
theorem isLeast_graceMinutes_shippedLogs (i : ProvisioningInstance) :
    IsLeast {n | 0 < n ∧ i.options.logs.flushIntervalSecs ≤ 60 * n} i.shippedLogs.graceMinutes := by
  rw [← i.secs_flushInterval_shippedLogs]
  exact i.shippedLogs.isLeast_graceMinutes

/-! ## The lines of the script -/

/-- The group is a child of the instance. -/
theorem groupId_eq (i : ProvisioningInstance) :
    i.groupId = ResourceId.uniqueId ⟨i.id.path ++ "/Group"⟩ := by
  have child : String.singleton ResourceId.separator ++ "Group" = "/Group" := by decide
  rw [groupId, ResourceId.child, String.append_assoc, child]

/-- What the log agent is asked to ship: the log of the boot, and then what was added, each
once. -/
def shippedFiles (i : ProvisioningInstance) : List (String × String) :=
  (("cloud-init-output", "/var/log/cloud-init-output.log") :: i.logStreams).eraseDups

theorem shippedFiles_ne_nil (i : ProvisioningInstance) : i.shippedFiles ≠ [] := by
  rw [shippedFiles, List.eraseDups_cons]
  exact List.cons_ne_nil _ _

/-- The lines of the boot script of an instance whose group has the given name in the place of a
stack and a region, given the texts of the setup and the minutes that a guard waits. -/
def bootLines (i : ProvisioningInstance) (stack region group : String) (texts : List String)
    (minutes : Nat) : List String :=
  ["#!/bin/bash", "set +e", "(", "set -xeuo pipefail"]
    ++ agentCommandLines i.options.logs i.shippedFiles
    ++ texts
    ++ [")", "exitCode=$?"]
    ++ ["/opt/aws/bin/cfn-signal --stack " ++ stack ++ " --resource " ++ group
      ++ " --region " ++ region ++ " -e $exitCode || echo 'Failed to send completion signal'"]
    ++ (if i.options.selfTerminate then guardLines region minutes else [])
    ++ ["exit $exitCode"]

theorem terminated_commands_shippedLogs (i : ProvisioningInstance) :
    Text.terminated i.shippedLogs.commands =
      Text.terminated (agentCommandLines i.options.logs i.shippedFiles) :=
  LogShipping.terminated_commands i.options.logs i.logStreams

theorem bootScript_eq (i : ProvisioningInstance) (d : Deployment) (texts : List String) :
    i.bootScript d texts =
      Text.terminated (i.bootLines d.stack d.region i.groupId texts i.shippedLogs.graceMinutes) := by
  have report : (i.signalTarget d).command CommandSequence.exitCodeVariable =
      "/opt/aws/bin/cfn-signal --stack " ++ d.stack ++ " --resource " ++ i.groupId
        ++ " --region " ++ d.region ++ " -e $exitCode || echo 'Failed to send completion signal'" :=
    (i.signalTarget d).command_exitCodeVariable
  rw [bootScript, CommandSequence.script, CommandSequence.scriptLines, exitCommands, bootLines,
    report]
  simp only [Text.terminated_append, terminated_commands_shippedLogs, String.append_assoc]
  rfl

/-! ## The specification -/

section Direct

variable {i : ProvisioningInstance} {d : Deployment} {env : Environment}

/-- A render makes something exactly when the setup has texts. -/
theorem exists_made_iff (notRendered : i.isRendered = false) (notFinalized : d.isFinalized = false) :
    (∃ made, (i.render d env).result = .ok made) ↔
      ∃ texts, (ScriptItem.evaluateAll i.setup env).1 = .ok texts := by
  rcases ran : ScriptItem.evaluateAll i.setup env with ⟨e | texts, env'⟩
  · rw [render_of_failure notRendered notFinalized ran]
    constructor
    · rintro ⟨_, ⟨⟩⟩
    · rintro ⟨_, ⟨⟩⟩
  · rw [render_of_texts notRendered notFinalized ran]
    exact iff_of_true ⟨_, rfl⟩ ⟨_, rfl⟩

/-- A render fails with the error of the setup, and with no other. -/
theorem result_eq_error_iff (notRendered : i.isRendered = false)
    (notFinalized : d.isFinalized = false) {e : Error} :
    (i.render d env).result = .error e ↔ (ScriptItem.evaluateAll i.setup env).1 = .error e := by
  rcases ran : ScriptItem.evaluateAll i.setup env with ⟨e' | texts, env'⟩
  · rw [render_of_failure notRendered notFinalized ran, Except.error.injEq, Except.error.injEq]
  · rw [render_of_texts notRendered notFinalized ran]
    constructor
    · rintro ⟨⟩
    · rintro ⟨⟩

/-- **A render does what its specification says.**  It succeeds exactly when every
item of the setup has a text, and it fails only with the error of the first item
that has none.  The script of a render that succeeds is written out, and so is the
configuration that it writes for the log agent: what the agent reads are the options
of the logs and all files that it is to ship. -/
theorem render_direct (notRendered : i.isRendered = false) (notFinalized : d.isFinalized = false) :
    ((∃ made, (i.render d env).result = .ok made) ↔
      ∀ outcome ∈ ScriptItem.results i.setup env, ∃ text, outcome = .ok text) ∧
    (∀ e, (i.render d env).result = .error e ↔
      ∃ (texts : List String) (rest : List (Result String)),
        ScriptItem.results i.setup env = texts.map .ok ++ .error e :: rest) ∧
    (∀ texts : List String, ScriptItem.results i.setup env = texts.map .ok →
      ∃ artifacts after minutes,
        (i.render d env).result = .ok (artifacts, after) ∧
        IsLeast {n | 0 < n ∧ i.options.logs.flushIntervalSecs ≤ 60 * n} minutes ∧
        artifacts.script = String.join ((i.bootLines d.stack d.region
          (ResourceId.uniqueId ⟨i.id.path ++ "/Group"⟩) texts minutes).map (· ++ "\n"))) ∧
    (i.options.logs.flushIntervalSecs < Nat.pow 2 64 →
      Datum.ofJson? (Text.joined "\n" (agentLines i.options.logs i.shippedFiles)) =
        some (agentTree i.options.logs i.shippedFiles)) := by
  refine ⟨(exists_made_iff notRendered notFinalized).trans ScriptItem.exists_texts_iff,
    fun e => (result_eq_error_iff notRendered notFinalized).trans
      ScriptItem.evaluateAll_eq_error_iff, fun texts all => ?_,
    ofJson?_agentLines i.options.logs i.shippedFiles_ne_nil⟩
  have ran : ScriptItem.evaluateAll i.setup env =
      (.ok texts, (ScriptItem.evaluateAll i.setup env).2) :=
    Prod.ext (ScriptItem.evaluateAll_eq_ok_iff.mpr all) rfl
  rw [render_of_texts notRendered notFinalized ran, ← i.groupId_eq]
  exact ⟨i.artifacts d texts, i.sealedBy d, i.shippedLogs.graceMinutes, rfl,
    i.isLeast_graceMinutes_shippedLogs, (i.script_artifacts d texts).trans (i.bootScript_eq d texts)⟩

end Direct

/-- An instance with a line and a lazy command to run. -/
def greeter : ProvisioningInstance where
  id := ⟨"Greeter"⟩
  options := .ofName "greeter" ["subnet-1"]
  signal := .standard
  setup := [.line "dnf update -y", .deferred (.fixed "echo hello")]
  logStreams := [("setup", "/var/log/setup.log")]
  role := .empty
  isRendered := false

/-- A deployment of that instance alone. -/
def greeterDeployment : Deployment where
  stack := "Farm"
  region := "us-west-2"
  resources := SortedSet.add ∅ ⟨"Greeter"⟩
  edges := ∅
  isFinalized := false

theorem render_direct_greeter :
    greeter.isRendered = false ∧ greeterDeployment.isFinalized = false ∧
      ScriptItem.results greeter.setup .empty = ["dnf update -y", "echo hello"].map .ok ∧
      greeter.shippedFiles =
        [("cloud-init-output", "/var/log/cloud-init-output.log"), ("setup", "/var/log/setup.log")] ∧
      greeter.options.logs.flushIntervalSecs < Nat.pow 2 64 ∧
      (∃ artifacts after minutes,
        (greeter.render greeterDeployment .empty).result = .ok (artifacts, after) ∧
        IsLeast {n | 0 < n ∧ greeter.options.logs.flushIntervalSecs ≤ 60 * n} minutes ∧
        artifacts.script = String.join
          ((greeter.bootLines "Farm" "us-west-2" (ResourceId.uniqueId ⟨"Greeter/Group"⟩)
            ["dnf update -y", "echo hello"] minutes).map (· ++ "\n"))) ∧
      Datum.ofJson? (Text.joined "\n" (agentLines greeter.options.logs greeter.shippedFiles)) =
        some (agentTree greeter.options.logs greeter.shippedFiles) := by
  have files : greeter.shippedFiles =
      [("cloud-init-output", "/var/log/cloud-init-output.log"), ("setup", "/var/log/setup.log")] := by
    decide
  have small : greeter.options.logs.flushIntervalSecs < Nat.pow 2 64 := by decide
  obtain ⟨-, -, success, readBack⟩ :=
    @render_direct greeter greeterDeployment .empty rfl rfl
  exact ⟨rfl, rfl, rfl, files, small, success _ rfl, readBack small⟩

end ProvisioningInstance

end Provisioning
