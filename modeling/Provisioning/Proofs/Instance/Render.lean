import Provisioning.Instance.Render
import Provisioning.Proofs.Instance.Basic
import Provisioning.Proofs.Instance.StageTrail
import Provisioning.Proofs.Pipeline.Joining
import Provisioning.Proofs.Result
import Provisioning.Proofs.Script.Sequence

/-!
# What a render makes

The tasks of a render know each other only through their workspace.  For each task
there is one equation, which says what the task needs of the workspace and what it
leaves there; the equations of all tasks, put together in the order of the
pipeline, say what a whole render makes.  No task can find something missing or
move to a stage out of order, so the only way for a render to fail is a lazy
command without a text.
-/

namespace Provisioning

set_option autoImplicit false

/-! ## The parts of a rendered instance -/

namespace ProvisioningInstance

variable (i : ProvisioningInstance) (d : Deployment)

/-- The logs that the boot ships. -/
def shippedLogs : LogShipping :=
  (LogShipping.forBoot i.options.logs).addStreams i.logStreams

/-- Where the outcome of the boot is reported. -/
def signalTarget : SignalTarget where
  stack := d.stack
  resource := i.groupId
  region := d.region

/-- The guard that ends the instance. -/
def terminationGuard : TerminationGuard :=
  .create i.id d.region i.shippedLogs

/-- What runs at the exit: the report, and then the guard if there is one. -/
def exitCommands : List String :=
  [(i.signalTarget d).command CommandSequence.exitCodeVariable]
    ++ if i.options.selfTerminate then (i.terminationGuard d).commands else []

/-- The grants of the caller, and those of the guard if there is one. -/
def bootRole : InstanceRole :=
  if i.options.selfTerminate then i.role.grantAll (i.terminationGuard d).statements else i.role

/-- The tags of the scaling group. -/
def bootTags : SortedMap String String :=
  if i.options.selfTerminate then
    SortedMap.insert ∅ TerminationGuard.tagKey (i.terminationGuard d).tagValue
  else ∅

/-- The stages that the boot passes through. -/
def bootTrail : StageTrail where
  selfTerminate := i.options.selfTerminate
  passed := [.pendingBoot, .loggingConfigured, .taskExecuting, .signaled]
  current := if i.options.selfTerminate then .terminating else .idle

/-- The boot script, given the texts of the setup. -/
def bootScript (texts : List String) : String :=
  CommandSequence.script (i.shippedLogs.commands ++ texts) (i.exitCommands d)

/-- What a render makes, given the texts of the setup. -/
def artifacts (texts : List String) : RenderedInstance where
  instanceId := i.id
  script := i.bootScript d texts
  scalingGroup := .create i.groupId i.options i.signal (i.bootTags d) (i.bootScript d texts)
  policy := (i.bootRole d).document
  logs := i.shippedLogs
  signal := i.signal
  dependencies := d.dependenciesOf i.id
  stages := i.bootTrail.stages
  report := ⟨(renderPipeline i.options.selfTerminate).stages.mapIdx
    fun index stage => {
      index := index
      label := stage.label
      mode := stage.mode
      tasks := stage.tasks.map (·.name) }⟩

@[simp] theorem script_artifacts (texts : List String) :
    (i.artifacts d texts).script = i.bootScript d texts := by
  rw [artifacts]

/-- The instance once it is rendered. -/
def sealedBy : ProvisioningInstance :=
  { i with isRendered := true, role := i.bootRole d }

end ProvisioningInstance

/-! ## What tasks are made of -/

theorem RenderTask.run_ofChange_ok {name : String}
    {change : RenderWorkspace → Result RenderWorkspace} {w w' : RenderWorkspace}
    (changed : change w = .ok w') : (ofChange name change).run w = (.ok (), w') := by
  rw [PipelineTask.run_of_noPause rfl]
  change w.attempt (change w) = (.ok (), w')
  rw [changed]
  rfl

/-! ## What each task needs and leaves -/

namespace RenderTask

variable {w : RenderWorkspace} {logs : LogShipping} {script : String}

theorem run_configureLogging (isOpen : w.sequence.isSealed = false)
    (follows : w.trail.current.next w.trail.selfTerminate = some .loggingConfigured) :
    configureLogging.run w = (.ok (), { w with
      sequence := { w.sequence with
        commands := w.sequence.commands ++ w.subject.shippedLogs.commands.map .line }
      trail := { w.trail with passed := w.trail.stages, current := .loggingConfigured }
      logs := some w.subject.shippedLogs }) := by
  refine run_ofChange_ok ?_
  dsimp only
  rw [CommandSequence.addCommands, CommandSequence.addItems_eq_ok_iff.mpr ⟨isOpen, rfl⟩,
    Result.ok_bind, StageTrail.advance_of_next follows]
  rfl

theorem run_setupCommands (isOpen : w.sequence.isSealed = false)
    (follows : w.trail.current.next w.trail.selfTerminate = some .taskExecuting) :
    setupCommands.run w = (.ok (), { w with
      sequence := { w.sequence with commands := w.sequence.commands ++ w.subject.setup }
      trail := { w.trail with passed := w.trail.stages, current := .taskExecuting } }) := by
  refine run_ofChange_ok ?_
  rw [CommandSequence.addItems_eq_ok_iff.mpr ⟨isOpen, rfl⟩, Result.ok_bind,
    StageTrail.advance_of_next follows]
  rfl

theorem run_completionSignal (isOpen : w.sequence.isSealed = false)
    (follows : w.trail.current.next w.trail.selfTerminate = some .signaled) :
    completionSignal.run w = (.ok (), { w with
      sequence := { w.sequence with
        onExit := w.sequence.onExit ++
          [({ stack := w.stack, resource := w.subject.groupId, region := w.region } :
            SignalTarget).command CommandSequence.exitCodeVariable] }
      trail := { w.trail with passed := w.trail.stages, current := .signaled } }) := by
  refine run_ofChange_ok ?_
  dsimp only
  rw [CommandSequence.addOnExit_eq_ok_iff.mpr ⟨isOpen, rfl⟩, Result.ok_bind,
    StageTrail.advance_of_next follows]
  rfl

theorem run_selfTermination (isOpen : w.sequence.isSealed = false) (made : w.logs = some logs)
    (follows : w.trail.current.next w.trail.selfTerminate = some .terminating) :
    selfTermination.run w = (.ok (), { w with
      sequence := { w.sequence with
        onExit := w.sequence.onExit ++
          (TerminationGuard.create w.subject.id w.region logs).commands }
      role := w.role.grantAll (TerminationGuard.create w.subject.id w.region logs).statements
      tags := w.tags.insert TerminationGuard.tagKey w.subject.id.uniqueId
      trail := { w.trail with passed := w.trail.stages, current := .terminating } }) := by
  refine run_ofChange_ok ?_
  rw [made, RenderWorkspace.demand, Result.ok_bind, TerminationGuard.apply,
    CommandSequence.addOnExit_eq_ok_iff.mpr ⟨isOpen, rfl⟩, Result.ok_bind]
  change w.trail.advance .terminating >>= _ = _
  rw [StageTrail.advance_of_next follows]
  rfl

theorem run_stayIdle (follows : w.trail.current.next w.trail.selfTerminate = some .idle) :
    stayIdle.run w = (.ok (), { w with
      trail := { w.trail with passed := w.trail.stages, current := .idle } }) := by
  refine run_ofChange_ok ?_
  rw [StageTrail.advance_of_next follows]
  rfl

theorem run_sealScript_ok {texts : List String} {env : Environment}
    (isOpen : w.sequence.isSealed = false)
    (ran : ScriptItem.evaluateAll w.sequence.commands w.environment = (.ok texts, env)) :
    sealScript.run w = (.ok (), { w with
      script := some (CommandSequence.script texts w.sequence.onExit)
      sequence := { w.sequence with isSealed := true }
      environment := env }) := by
  rw [PipelineTask.run_of_noPause rfl]
  dsimp only [sealScript]
  rw [CommandSequence.render, CommandSequence.checkOpen_eq_ok_iff.mpr isOpen, ran]

theorem run_sealScript_error {e : Error} {env : Environment}
    (isOpen : w.sequence.isSealed = false)
    (ran : ScriptItem.evaluateAll w.sequence.commands w.environment = (.error e, env)) :
    sealScript.run w = (.error e, { w with
      environment := ScriptItem.releaseAll w.sequence.commands env
      events := w.events ++ [.renderTaskFailed w.subject.id "seal_script" e] }) := by
  rw [PipelineTask.run_of_noPause rfl]
  dsimp only [sealScript]
  rw [CommandSequence.render, CommandSequence.checkOpen_eq_ok_iff.mpr isOpen, ran]
  rfl

theorem run_instancePolicy :
    instancePolicy.run w = (.ok (), { w with policy := some w.role.document }) :=
  rfl

theorem run_scalingGroup (made : w.script = some script) :
    scalingGroup.run w = (.ok (), { w with
      group := some
        (.create w.subject.groupId w.subject.options w.subject.signal w.tags script) }) := by
  refine run_ofChange_ok ?_
  rw [made]
  rfl

end RenderTask

/-! ## The workspace between the stages -/

namespace RenderWorkspace

variable (i : ProvisioningInstance) (d : Deployment) (env : Environment)

/-- The workspace once the logs are configured. -/
def logging : RenderWorkspace :=
  { start i d env with
    sequence := { CommandSequence.empty with commands := i.shippedLogs.commands.map .line }
    trail := {
      selfTerminate := i.options.selfTerminate
      passed := [.pendingBoot]
      current := .loggingConfigured }
    logs := some i.shippedLogs }

/-- The workspace once the setup is added. -/
def prepared : RenderWorkspace :=
  { logging i d env with
    sequence := {
      CommandSequence.empty with commands := i.shippedLogs.commands.map .line ++ i.setup }
    trail := {
      selfTerminate := i.options.selfTerminate
      passed := [.pendingBoot, .loggingConfigured]
      current := .taskExecuting } }

/-- The workspace once the outcome is going to be reported. -/
def signaling : RenderWorkspace :=
  { prepared i d env with
    sequence := {
      commands := i.shippedLogs.commands.map .line ++ i.setup
      onExit := [(i.signalTarget d).command CommandSequence.exitCodeVariable]
      isSealed := false }
    trail := {
      selfTerminate := i.options.selfTerminate
      passed := [.pendingBoot, .loggingConfigured, .taskExecuting]
      current := .signaled } }

/-- The workspace once all commands are there, and none of them has its text. -/
def assembled : RenderWorkspace :=
  { signaling i d env with
    sequence := {
      commands := i.shippedLogs.commands.map .line ++ i.setup
      onExit := i.exitCommands d
      isSealed := false }
    role := i.bootRole d
    tags := i.bootTags d
    trail := i.bootTrail }

/-- The workspace once the script is made. -/
def scripted (texts : List String) : RenderWorkspace :=
  { assembled i d env with
    sequence := { (assembled i d env).sequence with isSealed := true }
    script := some (i.bootScript d texts) }

/-- The workspace once everything is made. -/
def finished (texts : List String) : RenderWorkspace :=
  { scripted i d env texts with
    policy := some (i.bootRole d).document
    group := some
      (.create i.groupId i.options i.signal (i.bootTags d) (i.bootScript d texts)) }

/-- The workspace once the script was given up. -/
def failed (e : Error) : RenderWorkspace :=
  { assembled i d env with
    environment := ScriptItem.releaseAll i.setup env
    events := [.renderTaskFailed i.id "seal_script" e] }

end RenderWorkspace

/-! ## From stage to stage -/

section Stages

open RenderWorkspace PipelineStage

variable {limit : Nat} (i : ProvisioningInstance) (d : Deployment) (env : Environment)

theorem PipelineStage.perform_ofTask (label : String) (task : PipelineTask RenderWorkspace)
    (w : RenderWorkspace) : (ofTask label task).perform limit w = task.run w :=
  PipelineTask.runInOrder_singleton task w

theorem perform_logging :
    (ofTask "logging" RenderTask.configureLogging).perform limit (start i d env) =
      (.ok (), logging i d env) := by
  rw [perform_ofTask, RenderTask.run_configureLogging rfl rfl]
  rfl

theorem perform_setup :
    (ofTask "setup" RenderTask.setupCommands).perform limit (logging i d env) =
      (.ok (), prepared i d env) := by
  rw [perform_ofTask, RenderTask.run_setupCommands rfl rfl]
  rfl

theorem perform_signal :
    (ofTask "signal" RenderTask.completionSignal).perform limit (prepared i d env) =
      (.ok (), signaling i d env) := by
  rw [perform_ofTask, RenderTask.run_completionSignal rfl rfl]
  rfl

theorem perform_teardown :
    (teardownStage i.options.selfTerminate).perform limit (signaling i d env) =
      (.ok (), assembled i d env) := by
  have follows : (signaling i d env).trail.current.next (signaling i d env).trail.selfTerminate =
      some (if i.options.selfTerminate then .terminating else .idle) := rfl
  by_cases terminates : i.options.selfTerminate = true
  · rw [if_pos terminates] at follows
    rw [teardownStage, if_pos terminates, perform_ofTask,
      RenderTask.run_selfTermination rfl rfl follows]
    simp only [assembled, ProvisioningInstance.exitCommands, ProvisioningInstance.bootRole,
      ProvisioningInstance.bootTags, ProvisioningInstance.bootTrail, if_pos terminates]
    rfl
  · rw [if_neg terminates] at follows
    rw [teardownStage, if_neg terminates, perform_ofTask, RenderTask.run_stayIdle follows]
    simp only [assembled, ProvisioningInstance.exitCommands, ProvisioningInstance.bootRole,
      ProvisioningInstance.bootTags, ProvisioningInstance.bootTrail, if_neg terminates]
    rfl

/-- The commands of the logs are lines, so only the setup is evaluated. -/
theorem evaluateAll_assembled :
    ScriptItem.evaluateAll (assembled i d env).sequence.commands (assembled i d env).environment =
      ((ScriptItem.evaluateAll i.setup env).1.map (i.shippedLogs.commands ++ ·),
        (ScriptItem.evaluateAll i.setup env).2) :=
  ScriptItem.evaluateAll_append_ok (ScriptItem.evaluateAll_lines _ env)

theorem perform_seal_ok {texts : List String} {env' : Environment}
    (ran : ScriptItem.evaluateAll i.setup env = (.ok texts, env')) :
    (ofTask "seal" RenderTask.sealScript).perform limit (assembled i d env) =
      (.ok (), scripted i d env' texts) := by
  have evaluated := evaluateAll_assembled i d env
  rw [ran] at evaluated
  rw [perform_ofTask, RenderTask.run_sealScript_ok rfl evaluated]
  rfl

theorem perform_seal_error {e : Error} {env' : Environment}
    (ran : ScriptItem.evaluateAll i.setup env = (.error e, env')) :
    (ofTask "seal" RenderTask.sealScript).perform limit (assembled i d env) =
      (.error e, failed i d env' e) := by
  have evaluated := evaluateAll_assembled i d env
  rw [ran] at evaluated
  have noLine : ScriptItem.releaseAll (assembled i d env).sequence.commands env' =
      ScriptItem.releaseAll i.setup env' := by
    change ScriptItem.releaseAll (i.shippedLogs.commands.map .line ++ i.setup) env' = _
    rw [ScriptItem.releaseAll_append, ScriptItem.releaseAll_lines]
  rw [perform_ofTask, RenderTask.run_sealScript_error rfl evaluated, noLine]
  rfl

theorem perform_artifacts (texts : List String) :
    ({ label := "artifacts", mode := .parallel,
       tasks := [RenderTask.instancePolicy, RenderTask.scalingGroup] } :
      PipelineStage RenderWorkspace).perform limit (scripted i d env texts) =
      (.ok (), finished i d env texts) := by
  have noPause : ∀ t ∈ [RenderTask.instancePolicy, RenderTask.scalingGroup],
      t.beforePauses = [] := by
    rintro t (_ | ⟨_, _ | ⟨_, ⟨⟩⟩⟩)
    · rfl
    · rfl
  rw [PipelineStage.perform_of_noPause noPause,
    PipelineTask.runInOrder_cons_ok RenderTask.run_instancePolicy,
    PipelineTask.runInOrder_singleton, RenderTask.run_scalingGroup rfl]
  rfl

end Stages

/-! ## Whole renders -/

namespace ProvisioningInstance

section Renders

open RenderWorkspace PipelineStage

variable {i : ProvisioningInstance} {d : Deployment} {env env' : Environment}
  {texts : List String} {e : Error}

theorem runPipeline_ok (ran : ScriptItem.evaluateAll i.setup env = (.ok texts, env')) :
    i.runPipeline d env = (.ok (i.artifacts d texts, i.sealedBy d), finished i d env' texts) := by
  rw [runPipeline, Pipeline.run, Pipeline.runWithin, renderPipeline,
    runAll_cons_ok (perform_logging i d env), runAll_cons_ok (perform_setup i d env),
    runAll_cons_ok (perform_signal i d env), runAll_cons_ok (perform_teardown i d env),
    runAll_cons_ok (perform_seal_ok i d env ran),
    runAll_cons_ok (perform_artifacts i d env' texts)]
  rfl

theorem runPipeline_error (ran : ScriptItem.evaluateAll i.setup env = (.error e, env')) :
    i.runPipeline d env = (.error e, failed i d env' e) := by
  rw [runPipeline, Pipeline.run, Pipeline.runWithin, renderPipeline,
    runAll_cons_ok (perform_logging i d env), runAll_cons_ok (perform_setup i d env),
    runAll_cons_ok (perform_signal i d env), runAll_cons_ok (perform_teardown i d env),
    runAll_cons_error (perform_seal_error i d env ran)]
  rfl

/-- **A render whose setup has texts makes everything from them.** -/
theorem render_of_texts (notRendered : i.isRendered = false) (notFinalized : d.isFinalized = false)
    (ran : ScriptItem.evaluateAll i.setup env = (.ok texts, env')) :
    i.render d env = {
      result := .ok (i.artifacts d texts, i.sealedBy d)
      events := []
      environment := env' } := by
  rw [render, checkOpen_eq_ok_iff.mpr ⟨notRendered, notFinalized⟩, runPipeline_ok ran]
  rfl

/-- **A render whose setup fails gives up the setup**, once as a sequence that is not
sealed and once more as the setup of an instance that stays open. -/
theorem render_of_failure (notRendered : i.isRendered = false)
    (notFinalized : d.isFinalized = false)
    (ran : ScriptItem.evaluateAll i.setup env = (.error e, env')) :
    i.render d env = {
      result := .error e
      events := [.renderTaskFailed i.id "seal_script" e, .renderFailed i.id e]
      environment := ScriptItem.releaseAll i.setup (ScriptItem.releaseAll i.setup env') } := by
  rw [render, checkOpen_eq_ok_iff.mpr ⟨notRendered, notFinalized⟩, runPipeline_error ran]
  rfl

/-- A render is refused, or it is given texts for the setup, or it gives up the setup. -/
theorem render_cases (i : ProvisioningInstance) (d : Deployment) (env : Environment) :
    (∃ e, i.checkOpen d = .error e ∧
      i.render d env = { result := .error e, events := [], environment := env }) ∨
    (i.checkOpen d = .ok () ∧ ∃ texts env',
      ScriptItem.evaluateAll i.setup env = (.ok texts, env') ∧
      i.render d env = {
        result := .ok (i.artifacts d texts, i.sealedBy d)
        events := []
        environment := env' }) ∨
    (i.checkOpen d = .ok () ∧ ∃ e env',
      ScriptItem.evaluateAll i.setup env = (.error e, env') ∧
      i.render d env = {
        result := .error e
        events := [.renderTaskFailed i.id "seal_script" e, .renderFailed i.id e]
        environment := ScriptItem.releaseAll i.setup (ScriptItem.releaseAll i.setup env') }) := by
  match isOpen : i.checkOpen d with
  | .error e =>
    refine .inl ⟨e, rfl, ?_⟩
    rw [render, isOpen]
  | .ok () =>
    obtain ⟨notRendered, notFinalized⟩ := checkOpen_eq_ok_iff.mp isOpen
    match ran : ScriptItem.evaluateAll i.setup env with
    | (.ok texts, env') =>
      exact .inr (.inl ⟨rfl, texts, env', rfl, render_of_texts notRendered notFinalized ran⟩)
    | (.error e, env') =>
      exact .inr (.inr ⟨rfl, e, env', rfl, render_of_failure notRendered notFinalized ran⟩)

end Renders

end ProvisioningInstance

end Provisioning
