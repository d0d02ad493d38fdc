import Provisioning.Error

/-!
# Pipelines

A pipeline runs stages in order, and a stage runs tasks.  All tasks work on one
shared state.  A task may pause; the tasks of a sequential stage wait for it,
those of a parallel stage go on.  A parallel stage takes turns: round after
round, each unfinished task runs up to its next pause.

The first failure that is noticed ends the pipeline, and the state stays as it is
then.  In a sequential stage, and in a parallel one of moderate size, a failure
is noticed when it happens.  A large parallel stage looks at the outcomes in the
order of its tasks, so there a failure is noticed once all tasks before it are
done.  How large that is does not matter for the rest, so it is a parameter.

What is told of a task is there once the task is done.  A parallel stage joins it in the order
of the tasks, whichever of them is done first.
-/

namespace Provisioning

set_option autoImplicit false

/-! ## Plans -/

/-- A unit of work on a shared state. -/
structure PipelineTask (σ : Type) where
  name : String
  /-- What the task does up to each of its pauses. -/
  beforePauses : List (σ → σ)
  /-- What the task does after its last pause. -/
  finish : σ → Result Unit × σ

/-- How the tasks of a stage run. -/
inductive ExecutionMode where
  /-- Taking turns. -/
  | parallel
  /-- One after another. -/
  | sequential
  deriving DecidableEq

/-- The name of a mode. -/
def ExecutionMode.name : ExecutionMode → String
  | .parallel => "Parallel"
  | .sequential => "Sequential"

/-- Tasks under a label. -/
structure PipelineStage (σ : Type) where
  label : String
  mode : ExecutionMode
  tasks : List (PipelineTask σ)

/-- Stages in the order in which they run. -/
structure Pipeline (σ : Type) where
  stages : List (PipelineStage σ)

/-- The labels of all stages. -/
def Pipeline.labels {σ : Type} (p : Pipeline σ) : List String :=
  p.stages.map (·.label)

/-! ## Reports -/

/-- What is told about a stage that ran. -/
structure StageReport where
  index : Nat
  label : String
  mode : ExecutionMode
  tasks : List String
  deriving DecidableEq

/-- What is told about a pipeline that ran. -/
structure PipelineReport where
  stages : List StageReport
  deriving DecidableEq

namespace PipelineReport

/-- The labels of the stages that ran. -/
def labels (r : PipelineReport) : List String :=
  r.stages.map (·.label)

/-- Whether a task of that name ran. -/
def hasTask (r : PipelineReport) (name : String) : Bool :=
  r.stages.any (·.tasks.contains name)

end PipelineReport

/-! ## Running -/

section Running

variable {σ : Type}

namespace PipelineTask

/-- Everything a task does, without regard to pauses. -/
def run (t : PipelineTask σ) (s : σ) : Result Unit × σ :=
  t.finish (t.beforePauses.foldl (fun s act => act s) s)

/-- A task that failed and whose failure is still to be noticed. -/
def failed (t : PipelineTask σ) (e : Error) : PipelineTask σ where
  name := t.name
  beforePauses := []
  finish s := (.error e, s)

/-- How many turns the tasks still need together. -/
def turns : List (PipelineTask σ) → Nat
  | [] => 0
  | t :: rest => t.beforePauses.length + 1 + turns rest

/-- One round: every task runs up to its next pause.  The tasks that paused are
left for the next round, and so are those whose failure is not noticed yet.  A
failure is noticed while the way is `clear`: at first it is, and it stays so until
a task is left, or to the end when failures are noticed promptly. -/
def round (prompt : Bool) :
    (clear : Bool) → List (PipelineTask σ) → σ → Result (List (PipelineTask σ)) × σ
  | _, [], s => (.ok [], s)
  | clear, t :: rest, s =>
    match t.beforePauses with
    | act :: later =>
      match round prompt prompt rest (act s) with
      | (.ok left, s) => (.ok ({ t with beforePauses := later } :: left), s)
      | (.error e, s) => (.error e, s)
    | [] =>
      match t.finish s with
      | (.ok (), s) => round prompt clear rest s
      | (.error e, s) =>
        if clear then (.error e, s)
        else
          match round prompt prompt rest s with
          | (.ok left, s) => (.ok (t.failed e :: left), s)
          | (.error e, s) => (.error e, s)

/-- The tasks that are left need no more turns than all tasks needed before. -/
theorem turns_round_le {prompt clear : Bool} {tasks left : List (PipelineTask σ)} {s s' : σ}
    (h : round prompt clear tasks s = (.ok left, s')) : turns left ≤ turns tasks := by
  fun_induction round prompt clear tasks s generalizing left s' with
  | case1 => cases h; exact Nat.le_refl _
  | case2 clear t rest s act later acts others s₁ run ih =>
    cases h
    have := ih run
    simp only [turns, acts, List.length_cons]
    omega
  | case3 => cases h
  | case4 clear t rest s acts s₁ finished ih =>
    have := ih h
    simp only [turns, acts]
    omega
  | case5 => cases h
  | case6 clear t rest s acts e s₁ fails blocked others s₂ run ih =>
    cases h
    have := ih run
    simp only [turns, PipelineTask.failed, acts]
    omega
  | case7 => cases h

/-- Every round brings the end closer. -/
theorem turns_round_lt {prompt : Bool} {t : PipelineTask σ} {rest left : List (PipelineTask σ)}
    {s s' : σ} (h : round prompt true (t :: rest) s = (.ok left, s')) :
    turns left < turns (t :: rest) := by
  unfold round at h
  split at h
  next act later acts =>
    split at h
    next others s₁ run =>
      cases h
      have := turns_round_le run
      simp only [turns, acts, List.length_cons]
      omega
    next => cases h
  next acts =>
    split at h
    next =>
      have := turns_round_le h
      simp only [turns, acts]
      omega
    next => cases h

/-- The tasks take turns until all are done or a failure is noticed. -/
def takeTurns (prompt : Bool) (tasks : List (PipelineTask σ)) (s : σ) : Result Unit × σ :=
  match tasks with
  | [] => (.ok (), s)
  | t :: rest =>
    match _ : round prompt true (t :: rest) s with
    | (.ok left, s) => takeTurns prompt left s
    | (.error e, s) => (.error e, s)
termination_by turns tasks
decreasing_by exact turns_round_lt (by assumption)

/-- The tasks of a stage take turns.  Failures are noticed promptly if there are no more
tasks than the given number. -/
def runTogether (limit : Nat) (tasks : List (PipelineTask σ)) (s : σ) : Result Unit × σ :=
  takeTurns (tasks.length ≤ limit) tasks s

/-- The tasks run one after another. -/
def runInOrder : List (PipelineTask σ) → σ → Result Unit × σ
  | [], s => (.ok (), s)
  | t :: rest, s =>
    match t.run s with
    | (.ok (), s) => runInOrder rest s
    | (.error e, s) => (.error e, s)

/-- The task among others that keep what is told of them.  Once it has ended well, what is
told of it is kept as well. -/
def telling {κ : Type} (keep : κ → κ) (t : PipelineTask σ) : PipelineTask (σ × κ) where
  name := t.name
  beforePauses := t.beforePauses.map fun act s => (act s.1, s.2)
  finish s :=
    match t.finish s.1 with
    | (.ok (), s') => (.ok (), s', keep s.2)
    | (.error e, s') => (.error e, s', s.2)

/-- The task at the given place among others.  Its name is put into the slot of that place when
it is done. -/
def inSlot (place : Nat) (t : PipelineTask σ) : PipelineTask (σ × List (Option String)) :=
  t.telling (·.set place (some t.name))

/-- The tasks of a stage take turns, each with a slot of its own.  The slots are read in the
order in which the tasks are declared. -/
def joinTogether (limit : Nat) (tasks : List (PipelineTask σ)) (s : σ) :
    Result (List String) × σ :=
  match runTogether limit (tasks.zipIdx.map fun t => t.1.inSlot t.2)
      (s, tasks.map fun _ => none) with
  | (.ok (), s, slots) => (.ok (slots.filterMap id), s)
  | (.error e, s, _) => (.error e, s)

/-- The tasks run one after another, and the name of each is put behind the others when it is
done. -/
def joinInOrder (tasks : List (PipelineTask σ)) (s : σ) : Result (List String) × σ :=
  match runInOrder (tasks.map fun t => t.telling (· ++ [t.name])) (s, []) with
  | (.ok (), s, names) => (.ok names, s)
  | (.error e, s, _) => (.error e, s)

end PipelineTask

namespace PipelineStage

/-- Runs the tasks of a stage in its mode and tells which ones ran. -/
def run (limit : Nat) (stage : PipelineStage σ) (s : σ) : Result (List String) × σ :=
  match stage.mode with
  | .parallel => PipelineTask.joinTogether limit stage.tasks s
  | .sequential => PipelineTask.joinInOrder stage.tasks s

/-- Runs stages in order, the first of which has the given index. -/
def runAll (limit : Nat) :
    (index : Nat) → List (PipelineStage σ) → σ → Result (List StageReport) × σ
  | _, [], s => (.ok [], s)
  | index, stage :: rest, s =>
    match stage.run limit s with
    | (.ok names, s) =>
      match runAll limit (index + 1) rest s with
      | (.ok reports, s) =>
        let report := { index := index, label := stage.label, mode := stage.mode, tasks := names }
        (.ok (report :: reports), s)
      | (.error e, s) => (.error e, s)
    | (.error e, s) => (.error e, s)

end PipelineStage

namespace Pipeline

/-- Runs all stages.  In a parallel stage with no more tasks than the given number failures
are noticed promptly. -/
def runWithin (limit : Nat) (p : Pipeline σ) (s : σ) : Result PipelineReport × σ :=
  match PipelineStage.runAll limit 0 p.stages s with
  | (.ok reports, s) => (.ok ⟨reports⟩, s)
  | (.error e, s) => (.error e, s)

/-- How many tasks a stage may have for failures to be noticed promptly. -/
def promptSize : Nat := 30

/-- Runs all stages. -/
def run (p : Pipeline σ) (s : σ) : Result PipelineReport × σ :=
  p.runWithin promptSize s

end Pipeline

end Running

end Provisioning
