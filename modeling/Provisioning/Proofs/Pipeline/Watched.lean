import Provisioning.Proofs.Pipeline.Joining

/-!
# Watching a pipeline

A task of which nothing is known may do anything to the shared state, so the state does
not tell when it ran.  A watched task does to the state what the task does, and besides it
puts a record on a trail with every turn: whose turn it was, and how the task ended if it
ended with that turn.  Watching changes neither the result nor the state in the end.

A task can also be forgiven: it does the same, and whether it fails is passed over.  The
trail of the forgiven tasks is the course that a pipeline would take if nothing stopped it.
-/

namespace Provisioning

set_option autoImplicit false

variable {σ : Type}

/-! ## Turns -/

/-- Whose turn it was: a task by its stage and its place there, and how many pauses the task
had behind it. -/
structure TurnPlace where
  stage : Nat
  task : Nat
  pause : Nat
  deriving DecidableEq

/-- What is known of a turn. -/
structure TurnRecord where
  place : TurnPlace
  /-- How the task ended, if it ended with this turn. -/
  verdict : Option (Result Unit)

/-- The task ended, and it failed. -/
def TurnRecord.Fails (r : TurnRecord) : Prop :=
  ∃ e, r.verdict = some (.error e)

/-- A shared state and the turns that led to it, from first to last. -/
structure Watched (σ : Type) where
  state : σ
  trail : List TurnRecord

/-! ## Watched tasks -/

namespace PipelineTask

/-- The task at the given place of a stage, with the given number of pauses behind it,
watched. -/
def watched (stage task pause : Nat) (t : PipelineTask σ) : PipelineTask (Watched σ) where
  name := t.name
  beforePauses := (t.beforePauses.zipIdx pause).map fun (act, k) w =>
    { state := act w.state, trail := w.trail ++ [⟨⟨stage, task, k⟩, none⟩] }
  finish w :=
    ((t.finish w.state).1,
      { state := (t.finish w.state).2
        trail := w.trail ++
          [⟨⟨stage, task, pause + t.beforePauses.length⟩, some (t.finish w.state).1⟩] })

/-- The same task, except that a failure is passed over. -/
def forgiven (t : PipelineTask σ) : PipelineTask σ where
  name := t.name
  beforePauses := t.beforePauses
  finish s := (.ok (), (t.finish s).2)

theorem mirrors_watched (stage task pause : Nat) (t : PipelineTask σ) :
    (t.watched stage task pause).Mirrors Watched.state t where
  acts := by
    rw [watched, List.forall₂_map_left_iff]
    generalize t.beforePauses = acts
    induction acts generalizing pause with
    | nil => exact .nil
    | cons act acts ih => exact .cons (fun _ => rfl) (ih (pause + 1))
  finish _ := rfl

end PipelineTask

/-! ## Watched stages and pipelines -/

namespace PipelineStage

/-- The stage at the given place of a pipeline, with its tasks watched. -/
def watched (index : Nat) (stage : PipelineStage σ) : PipelineStage (Watched σ) where
  label := stage.label
  mode := stage.mode
  tasks := stage.tasks.zipIdx.map fun e => e.1.watched index e.2 0

/-- The same stage with its tasks forgiven. -/
def forgiven (stage : PipelineStage σ) : PipelineStage σ where
  label := stage.label
  mode := stage.mode
  tasks := stage.tasks.map PipelineTask.forgiven

theorem mirrors_watched_tasks (stage : PipelineStage σ) (index : Nat) :
    List.Forall₂ (PipelineTask.Mirrors Watched.state) (stage.watched index).tasks stage.tasks :=
  PipelineTask.mirrors_zipIdx (fun e => e.1.mirrors_watched index e.2 0) stage.tasks 0

theorem names_watched (stage : PipelineStage σ) (index : Nat) :
    (stage.watched index).tasks.map (·.name) = stage.tasks.map (·.name) :=
  calc (stage.watched index).tasks.map (·.name)
      = (stage.tasks.zipIdx.map Prod.fst).map (·.name) := by
        rw [watched, List.map_map, List.map_map]
        rfl
    _ = stage.tasks.map (·.name) := by rw [List.zipIdx_map_fst]

theorem perform_watched (limit : Nat) (stage : PipelineStage σ) (index : Nat) (w : Watched σ) :
    stage.perform limit w.state =
      (((stage.watched index).perform limit w).1,
        ((stage.watched index).perform limit w).2.state) := by
  have mirrors := stage.mirrors_watched_tasks index
  have mode : (stage.watched index).mode = stage.mode := rfl
  rw [perform, perform, mode]
  cases stage.mode with
  | parallel =>
    dsimp only
    rw [PipelineTask.runTogether, PipelineTask.runTogether, mirrors.length_eq]
    exact PipelineTask.takeTurns_of_mirrors mirrors _ w
  | sequential => exact PipelineTask.runInOrder_of_mirrors mirrors w

theorem runAll_watched (limit : Nat) (stages : List (PipelineStage σ)) (i index : Nat)
    (w : Watched σ) :
    runAll limit index stages w.state =
      ((runAll limit index ((stages.zipIdx i).map fun e => e.1.watched e.2) w).1,
        (runAll limit index ((stages.zipIdx i).map fun e => e.1.watched e.2) w).2.state) := by
  induction stages generalizing i index w with
  | nil => rfl
  | cons stage stages ih =>
    have first := stage.perform_watched limit i w
    rw [List.zipIdx_cons, List.map_cons]
    rcases ran : (stage.watched i).perform limit w with ⟨e | ⟨⟩, w'⟩ <;> rw [ran] at first
    · rw [runAll_cons_error first, runAll_cons_error ran]
    · rw [runAll_cons_ok first, runAll_cons_ok ran, names_watched, ih (i + 1)]
      rfl

end PipelineStage

namespace Pipeline

/-- The pipeline with all its tasks watched. -/
def watched (p : Pipeline σ) : Pipeline (Watched σ) where
  stages := p.stages.zipIdx.map fun e => e.1.watched e.2

/-- The same pipeline with its tasks forgiven. -/
def forgiven (p : Pipeline σ) : Pipeline σ where
  stages := p.stages.map PipelineStage.forgiven

/-- The turns that run, from first to last. -/
def trail (limit : Nat) (p : Pipeline σ) (s : σ) : List TurnRecord :=
  (p.watched.runWithin limit { state := s, trail := [] }).2.trail

/-- The turns that would run if no failure stopped them, from first to last. -/
def course (p : Pipeline σ) (s : σ) : List TurnRecord :=
  (p.watched.forgiven.run { state := s, trail := [] }).2.trail

theorem runWithin_watched (limit : Nat) (p : Pipeline σ) (s : σ) :
    p.watched.runWithin limit { state := s, trail := [] } =
      ((p.runWithin limit s).1,
        { state := (p.runWithin limit s).2, trail := p.trail limit s }) := by
  have all := PipelineStage.runAll_watched limit p.stages 0 0 { state := s, trail := [] }
  rw [trail, runWithin_eq, runWithin_eq, all]
  rfl

end Pipeline

end Provisioning
