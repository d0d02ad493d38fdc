import Provisioning.Pipeline

/-!
# Stages and tasks one at a time

What a pipeline does is followed stage by stage, a stage task by task, and a round turn by
turn.  For tasks that never pause there is no difference between taking turns and running
one after another: each is done with its first turn, and the way stays clear, so
a failure is noticed at once whatever the size of the stage.
-/

namespace Provisioning

set_option autoImplicit false

variable {σ : Type}

namespace PipelineTask

/-! ## A round turn by turn -/

section Round

variable {prompt clear : Bool} {t : PipelineTask σ} {rest : List (PipelineTask σ)} {s s' : σ}
  {act : σ → σ} {later : List (σ → σ)} {e : Error}

theorem round_cons_pause (acts : t.beforePauses = act :: later) :
    round prompt clear (t :: rest) s =
      ((round prompt prompt rest (act s)).1.map ({ t with beforePauses := later } :: ·),
        (round prompt prompt rest (act s)).2) := by
  rw [round, acts]
  dsimp only
  rcases round prompt prompt rest (act s) with ⟨_ | left, s''⟩
  · rfl
  · rfl

theorem round_cons_ok (noPause : t.beforePauses = []) (ends : t.finish s = (.ok (), s')) :
    round prompt clear (t :: rest) s = round prompt clear rest s' := by
  rw [round, noPause]
  dsimp only
  rw [ends]

theorem round_cons_noticed (noPause : t.beforePauses = [])
    (ends : t.finish s = (.error e, s')) :
    round prompt true (t :: rest) s = (.error e, s') := by
  rw [round, noPause]
  dsimp only
  rw [ends]
  rfl

theorem round_cons_waiting (noPause : t.beforePauses = [])
    (ends : t.finish s = (.error e, s')) :
    round prompt false (t :: rest) s =
      ((round prompt prompt rest s').1.map (t.failed e :: ·),
        (round prompt prompt rest s').2) := by
  rw [round, noPause]
  dsimp only
  rw [ends]
  dsimp only
  rcases round prompt prompt rest s' with ⟨_ | left, s''⟩
  · rfl
  · rfl

end Round

/-! ## One round after another -/

theorem takeTurns_of_round_ok {prompt : Bool} {tasks left : List (PipelineTask σ)} {s s' : σ}
    (ran : round prompt true tasks s = (.ok left, s')) :
    takeTurns prompt tasks s = takeTurns prompt left s' := by
  cases tasks with
  | nil => cases ran; rfl
  | cons t rest => rw [takeTurns, ran]

theorem takeTurns_of_round_error {prompt : Bool} {tasks : List (PipelineTask σ)} {s s' : σ}
    {e : Error} (ran : round prompt true tasks s = (.error e, s')) :
    takeTurns prompt tasks s = (.error e, s') := by
  cases tasks with
  | nil => cases ran
  | cons t rest => rw [takeTurns, ran]

/-! ## Tasks that never pause -/

theorem run_of_noPause {t : PipelineTask σ} (noPause : t.beforePauses = []) (s : σ) :
    t.run s = t.finish s := by
  rw [run, noPause]
  rfl

theorem run_of_pause {t : PipelineTask σ} {act : σ → σ} {later : List (σ → σ)}
    (acts : t.beforePauses = act :: later) (s : σ) :
    t.run s = run { t with beforePauses := later } (act s) := by
  rw [run, run, acts]
  rfl

theorem runInOrder_cons_ok {t : PipelineTask σ} {rest : List (PipelineTask σ)} {s s' : σ}
    (ran : t.run s = (.ok (), s')) : runInOrder (t :: rest) s = runInOrder rest s' := by
  rw [runInOrder, ran]

theorem runInOrder_cons_error {t : PipelineTask σ} {rest : List (PipelineTask σ)} {s s' : σ}
    {e : Error} (ran : t.run s = (.error e, s')) :
    runInOrder (t :: rest) s = (.error e, s') := by
  rw [runInOrder, ran]

theorem runInOrder_singleton (t : PipelineTask σ) (s : σ) : runInOrder [t] s = t.run s := by
  rcases ran : t.run s with ⟨e | ⟨⟩, s'⟩
  · rw [runInOrder_cons_error ran]
  · rw [runInOrder_cons_ok ran, runInOrder]

/-- A single task that takes turns has one turn after another. -/
theorem takeTurns_singleton (prompt : Bool) (t : PipelineTask σ) (s : σ) :
    takeTurns prompt [t] s = t.run s := by
  generalize acts : t.beforePauses = pauses
  induction pauses generalizing t s with
  | nil =>
    rw [run_of_noPause acts]
    rcases ends : t.finish s with ⟨e | ⟨⟩, s'⟩
    · exact takeTurns_of_round_error (round_cons_noticed acts ends)
    · rw [takeTurns_of_round_ok (round_cons_ok acts ends), takeTurns]
  | cons act later ih =>
    rw [takeTurns_of_round_ok (round_cons_pause acts), run_of_pause acts]
    exact ih { t with beforePauses := later } (act s) rfl

/-- The first round of tasks that never pause leaves none of them. -/
theorem round_of_noPause (prompt : Bool) {tasks : List (PipelineTask σ)}
    (noPause : ∀ t ∈ tasks, t.beforePauses = []) (s : σ) :
    round prompt true tasks s =
      ((runInOrder tasks s).1.map fun _ => [], (runInOrder tasks s).2) := by
  induction tasks generalizing s with
  | nil => rfl
  | cons t rest ih =>
    have now : t.beforePauses = [] := noPause t List.mem_cons_self
    have later : ∀ t ∈ rest, t.beforePauses = [] := fun t mem =>
      noPause t (List.mem_cons_of_mem _ mem)
    rcases ends : t.finish s with ⟨e | ⟨⟩, s'⟩
    · rw [round_cons_noticed now ends, runInOrder_cons_error ((run_of_noPause now s).trans ends)]
      rfl
    · rw [round_cons_ok now ends, runInOrder_cons_ok ((run_of_noPause now s).trans ends)]
      exact ih later s'

/-- Tasks that never pause run one after another even when they take turns. -/
theorem runTogether_of_noPause {tasks : List (PipelineTask σ)}
    (noPause : ∀ t ∈ tasks, t.beforePauses = []) (limit : Nat) (s : σ) :
    runTogether limit tasks s = runInOrder tasks s := by
  have first := round_of_noPause (decide (tasks.length ≤ limit)) noPause s
  rw [runTogether]
  rcases ran : runInOrder tasks s with ⟨e | ⟨⟩, s'⟩ <;> rw [ran] at first
  · exact takeTurns_of_round_error first
  · rw [takeTurns_of_round_ok first]
    exact takeTurns.eq_1 _ s'

end PipelineTask

/-! ## Stages -/

namespace PipelineStage

/-- What a stage does to the state, without regard to what is told of its tasks. -/
def perform (limit : Nat) (stage : PipelineStage σ) (s : σ) : Result Unit × σ :=
  match stage.mode with
  | .parallel => PipelineTask.runTogether limit stage.tasks s
  | .sequential => PipelineTask.runInOrder stage.tasks s

theorem perform_of_noPause {limit : Nat} {stage : PipelineStage σ}
    (noPause : ∀ t ∈ stage.tasks, t.beforePauses = []) (s : σ) :
    stage.perform limit s = PipelineTask.runInOrder stage.tasks s := by
  rw [perform]
  cases stage.mode with
  | parallel => exact PipelineTask.runTogether_of_noPause noPause limit s
  | sequential => rfl

end PipelineStage

theorem Pipeline.runWithin_eq (limit : Nat) (p : Pipeline σ) (s : σ) :
    p.runWithin limit s = ((PipelineStage.runAll limit 0 p.stages s).1.map PipelineReport.mk,
      (PipelineStage.runAll limit 0 p.stages s).2) := by
  rw [runWithin]
  rcases PipelineStage.runAll limit 0 p.stages s with ⟨_ | reports, s'⟩
  · rfl
  · rfl

end Provisioning
