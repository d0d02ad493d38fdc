import Provisioning.Instance.Basic
import Provisioning.Instance.ScalingGroup
import Provisioning.Instance.StageTrail
import Provisioning.Pipeline

/-!
# Rendering an instance

The boot script and everything around it is made by a pipeline whose stages stand
in the order of the boot: logs, setup, signal, what comes after the signal, then
the script itself, and last the policy and the scaling group, which do not depend
on each other.  The tasks share a workspace.  It starts with copies, so a render
that fails leaves the instance as it was; its lazy commands are then released.
-/

namespace Provisioning

set_option autoImplicit false

/-- What the tasks of a render share. -/
structure RenderWorkspace where
  /-- The instance as it was when the render began. -/
  subject : ProvisioningInstance
  stack : String
  region : String
  environment : Environment
  events : List Event
  sequence : CommandSequence
  role : InstanceRole
  tags : SortedMap String String
  trail : StageTrail
  logs : Option LogShipping
  script : Option String
  policy : Option PolicyDocument
  group : Option ScalingGroup

/-- Everything that is needed to deploy an instance. -/
structure RenderedInstance where
  instanceId : ResourceId
  script : String
  scalingGroup : ScalingGroup
  policy : PolicyDocument
  logs : LogShipping
  signal : CompletionSignal
  /-- What must be ready before the instance boots. -/
  dependencies : List ResourceId
  stages : List BootStage
  report : PipelineReport
  deriving DecidableEq

namespace RenderWorkspace

/-- The workspace at the beginning of a render. -/
def start (i : ProvisioningInstance) (d : Deployment) (env : Environment) : RenderWorkspace where
  subject := i
  stack := d.stack
  region := d.region
  environment := env
  events := []
  sequence := .empty
  role := i.role
  tags := ∅
  trail := .start i.options.selfTerminate
  logs := none
  script := none
  policy := none
  group := none

/-- Takes over a change, or stays as it is when the change fails. -/
def attempt (w : RenderWorkspace) (change : Result RenderWorkspace) :
    Result Unit × RenderWorkspace :=
  match change with
  | .ok changed => (.ok (), changed)
  | .error e => (.error e, w)

/-- Notes that a task failed. -/
def noteFailure (w : RenderWorkspace) (task : String) (e : Error) : RenderWorkspace :=
  { w with events := w.events ++ [.renderTaskFailed w.subject.id task e] }

/-- What a task left, or an error that names the task. -/
def demand {α : Type} (task : String) : Option α → Result α
  | some value => .ok value
  | none => .error (.internal (.missingResult task))

end RenderWorkspace

/-! ## Tasks -/

namespace RenderTask

/-- A task that does not pause. -/
def ofChange (name : String) (change : RenderWorkspace → Result RenderWorkspace) :
    PipelineTask RenderWorkspace where
  name := name
  beforePauses := []
  finish w := w.attempt (change w)

/-- Ships the logs.  This comes first, so that the output of everything after it
is shipped. -/
def configureLogging : PipelineTask RenderWorkspace :=
  ofChange "configure_logging" fun w => do
    let logs := (LogShipping.forBoot w.subject.options.logs).addStreams w.subject.logStreams
    let sequence ← w.sequence.addCommands logs.commands
    let trail ← w.trail.advance .loggingConfigured
    pure { w with sequence, trail, logs := some logs }

/-- Adds the setup, in the order in which it was given. -/
def setupCommands : PipelineTask RenderWorkspace :=
  ofChange "setup_commands" fun w => do
    let sequence ← w.sequence.addItems w.subject.setup
    let trail ← w.trail.advance .taskExecuting
    pure { w with sequence, trail }

/-- Signals the outcome.  This is the first thing to happen at the exit, so that
the controller hears of it before the instance goes away. -/
def completionSignal : PipelineTask RenderWorkspace :=
  ofChange "completion_signal" fun w => do
    let target : SignalTarget :=
      { stack := w.stack, resource := w.subject.groupId, region := w.region }
    let sequence ← w.sequence.addOnExit [target.command CommandSequence.exitCodeVariable]
    let trail ← w.trail.advance .signaled
    pure { w with sequence, trail }

/-- Ends the instance after the signal. -/
def selfTermination : PipelineTask RenderWorkspace :=
  ofChange "self_termination" fun w => do
    let logs ← RenderWorkspace.demand configureLogging.name w.logs
    let guarded ← (TerminationGuard.create w.subject.id w.region logs).apply
      { tags := w.tags, role := w.role, sequence := w.sequence }
    let trail ← w.trail.advance .terminating
    pure { w with tags := guarded.tags, role := guarded.role, sequence := guarded.sequence, trail }

/-- Leaves the instance running after the signal. -/
def stayIdle : PipelineTask RenderWorkspace :=
  ofChange "stay_idle" fun w => do
    let trail ← w.trail.advance .idle
    pure { w with trail }

/-- Asks every lazy command for its text and makes the script. -/
def sealScript : PipelineTask RenderWorkspace where
  name := "seal_script"
  beforePauses := []
  finish w :=
    match w.sequence.render w.environment with
    | (.ok (script, sequence), environment) =>
      (.ok (), { w with script := some script, sequence, environment })
    | (.error e, environment) => (.error e, { w with environment }.noteFailure "seal_script" e)

/-- Makes the policy. -/
def instancePolicy : PipelineTask RenderWorkspace :=
  ofChange "instance_policy" fun w =>
    pure { w with policy := some w.role.document }

/-- Makes the scaling group. -/
def scalingGroup : PipelineTask RenderWorkspace :=
  ofChange "scaling_group" fun w => do
    let script ← RenderWorkspace.demand sealScript.name w.script
    pure { w with
      group := some (.create w.subject.groupId w.subject.options w.subject.signal w.tags script) }

end RenderTask

/-! ## The plan -/

/-- A stage of one task. -/
def PipelineStage.ofTask (label : String) (task : PipelineTask RenderWorkspace) : PipelineStage RenderWorkspace where
  label := label
  mode := .sequential
  tasks := [task]

/-- What comes after the signal. -/
def teardownStage (selfTerminate : Bool) : PipelineStage RenderWorkspace :=
  if selfTerminate then .ofTask "self_termination" RenderTask.selfTermination
  else .ofTask "idle" RenderTask.stayIdle

/-- The pipeline that renders an instance. -/
def renderPipeline (selfTerminate : Bool) : Pipeline RenderWorkspace where
  stages := [
    .ofTask "logging" RenderTask.configureLogging,
    .ofTask "setup" RenderTask.setupCommands,
    .ofTask "signal" RenderTask.completionSignal,
    teardownStage selfTerminate,
    .ofTask "seal" RenderTask.sealScript,
    { label := "artifacts", mode := .parallel,
      tasks := [RenderTask.instancePolicy, RenderTask.scalingGroup] }]

/-! ## Rendering -/

/-- What a render yields: its result, the events it reported, and the environment
it leaves. -/
structure RenderOutcome where
  result : Result (RenderedInstance × ProvisioningInstance)
  events : List Event
  environment : Environment

namespace RenderWorkspace

/-- What the tasks of a render have made. -/
def collect (w : RenderWorkspace) (d : Deployment) (report : PipelineReport) :
    Result (RenderedInstance × ProvisioningInstance) := do
  let script ← demand RenderTask.sealScript.name w.script
  let scalingGroup ← demand RenderTask.scalingGroup.name w.group
  let policy ← demand RenderTask.instancePolicy.name w.policy
  let logs ← demand RenderTask.configureLogging.name w.logs
  let rendered : RenderedInstance := {
    instanceId := w.subject.id
    script
    scalingGroup
    policy
    logs
    signal := w.subject.signal
    dependencies := d.dependenciesOf w.subject.id
    stages := w.trail.stages
    report }
  pure (rendered, { w.subject with isRendered := true, role := w.role })

end RenderWorkspace

namespace ProvisioningInstance

/-- Runs the pipeline and collects what it made. -/
def runPipeline (i : ProvisioningInstance) (d : Deployment) (env : Environment) :
    Result (RenderedInstance × ProvisioningInstance) × RenderWorkspace :=
  match (renderPipeline i.options.selfTerminate).run (.start i d env) with
  | (.ok report, w) => (w.collect d report, w)
  | (.error e, w) => (.error e, w)

/-- Renders the instance.  When that fails the instance stays open, and the lazy
commands of its setup are released. -/
def render (i : ProvisioningInstance) (d : Deployment) (env : Environment) : RenderOutcome :=
  match i.checkOpen d with
  | .error e => { result := .error e, events := [], environment := env }
  | .ok () =>
    match i.runPipeline d env with
    | (.ok made, w) => { result := .ok made, events := w.events, environment := w.environment }
    | (.error e, w) => {
        result := .error e
        events := w.events ++ [.renderFailed i.id e]
        environment := ScriptItem.releaseAll i.setup w.environment }

end ProvisioningInstance

end Provisioning
