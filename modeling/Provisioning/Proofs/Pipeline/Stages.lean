import Provisioning.Proofs.Pipeline.Rounds

/-!
# Courses through a stage

Whatever the mode of a stage, forgiven tasks take a course that has every turn of every
task once.  The tasks themselves take the same one as long as none fails.  One after
another they leave it with the turn that fails.  Taking turns, they do so as well where
failures are noticed when they happen.
-/

namespace Provisioning

set_option autoImplicit false

variable {σ : Type}

namespace PipelineTask

/-! ## One after another -/

/-- For a single task there is no difference between the modes. -/
theorem stageCourse_singleton {stage pause : Nat} {t : NumberedTask σ}
    {turns : List TurnRecord} (course : StageCourse .parallel stage pause [t] turns) :
    StageCourse .sequential stage pause [t] turns where
  ordered := by
    have task_eq : ∀ r ∈ turns, r.place.task = t.2 := by
      intro r mem
      obtain ⟨t', mem', _, place⟩ := course.place_of_mem mem
      rw [place, List.mem_singleton.mp mem']
    refine course.ordered.imp_of_mem fun {x y} xMem yMem earlier => ?_
    have sameTask : x.place.task = y.place.task := (task_eq x xMem).trans (task_eq y yMem).symm
    rcases earlier with fewer | ⟨_, before⟩
    · exact .inr ⟨sameTask, fewer⟩
    · exact .inl before
  complete := course.complete
  verdicts := course.verdicts

theorem stageCourse_cons {stage : Nat} {t : NumberedTask σ}
    {tasks : List (NumberedTask σ)} {turns later : List TurnRecord}
    (first : StageCourse .sequential stage 0 [t] turns)
    (rest : StageCourse .sequential stage 0 tasks later)
    (numbered : (t :: tasks).Pairwise (·.2 < ·.2)) :
    StageCourse .sequential stage 0 (t :: tasks) (turns ++ later) where
  ordered := by
    refine List.pairwise_append.mpr ⟨first.ordered, rest.ordered, fun x xMem y yMem => ?_⟩
    obtain ⟨xTask, xMem', _, xPlace⟩ := first.place_of_mem xMem
    obtain ⟨yTask, yMem', _, yPlace⟩ := rest.place_of_mem yMem
    have earlier : xTask.2 < yTask.2 := by
      rw [List.mem_singleton.mp xMem']
      exact (List.pairwise_cons.mp numbered).1 yTask yMem'
    rw [xPlace, yPlace]
    exact .inl earlier
  complete mark := by
    rw [List.map_append, List.mem_append, first.complete, rest.complete]
    simp only [List.mem_singleton, exists_eq_left, List.exists_mem_cons_iff]
  verdicts r mem verdict ends := by
    rcases List.mem_append.mp mem with now | after
    · obtain ⟨_, mem', gives⟩ := first.verdicts r now verdict ends
      rw [List.mem_singleton.mp mem'] at gives
      exact ⟨t, List.mem_cons_self, gives⟩
    · obtain ⟨t', mem', gives⟩ := rest.verdicts r after verdict ends
      exact ⟨t', List.mem_cons_of_mem t mem', gives⟩

theorem exists_taskCourse (stage : Nat) (t : NumberedTask σ) (w : Watched σ) :
    ∃ turns : Turns σ,
      (t.1.watched stage t.2 0).forgiven.run w = (.ok (), w.after turns) ∧
      StageCourse .sequential stage 0 [t] turns.1 ∧
      ((t.1.watched stage t.2 0).run w = (.ok (), w.after turns) ∧ failures turns.1 = [] ∨
        ∃ e made, (t.1.watched stage t.2 0).run w = (.error e, w.after made) ∧
          Noticed e [] True made.1 turns.1) := by
  have numbered : [t].Pairwise (·.2 < ·.2) := List.pairwise_singleton _ _
  obtain ⟨turns, s, forgivenRun, course⟩ := takeTurns_allForgiven stage 0 numbered true w
  have outcome := takeTurns_of_inRound (.goesOn t.1 t.2 .nil) numbered true true w forgivenRun
  rw [takeTurns_singleton] at outcome
  rw [allForgiven, List.map_singleton, takeTurns_singleton] at forgivenRun
  refine ⟨(turns, s), forgivenRun, stageCourse_singleton course, ?_⟩
  rcases outcome with ⟨ran, -, none⟩ | ⟨e, made, ran, noticed⟩
  · exact .inl ⟨ran, none⟩
  · exact .inr ⟨e, made, ran, { noticed with last := fun _ => noticed.last rfl }⟩

theorem exists_sequentialCourse (stage : Nat) {tasks : List (NumberedTask σ)}
    (numbered : tasks.Pairwise (·.2 < ·.2)) (w : Watched σ) :
    ∃ turns : Turns σ,
      runInOrder (allForgiven stage 0 tasks) w = (.ok (), w.after turns) ∧
      StageCourse .sequential stage 0 tasks turns.1 ∧
      (runInOrder (tasks.map fun t => t.1.watched stage t.2 0) w = (.ok (), w.after turns) ∧
          failures turns.1 = [] ∨
        ∃ e made, runInOrder (tasks.map fun t => t.1.watched stage t.2 0) w =
            (.error e, w.after made) ∧
          Noticed e [] True made.1 turns.1) := by
  induction tasks generalizing w with
  | nil =>
    have stays : w = w.after ([], w.state) := w.after_nil.symm
    exact ⟨([], w.state), congrArg (Prod.mk _) stays,
      ⟨.nil, by simp, fun _ mem => absurd mem List.not_mem_nil⟩,
      .inl ⟨congrArg (Prod.mk _) stays, rfl⟩⟩
  | cons t tasks ih =>
    obtain ⟨turns, forgivenRun, course, outcome⟩ := exists_taskCourse stage t w
    obtain ⟨later, forgivenRest, courseRest, outcomeRest⟩ :=
      ih (List.pairwise_cons.mp numbered).2 (w.after turns)
    refine ⟨(turns.1 ++ later.1, later.2), ?_, stageCourse_cons course courseRest numbered, ?_⟩
    · rw [allForgiven, List.map_cons, runInOrder_cons_ok forgivenRun, ← Watched.after_after]
      exact forgivenRest
    · rw [List.map_cons]
      rcases outcome with ⟨ran, none⟩ | ⟨e, made, ran, noticed⟩
      · rw [runInOrder_cons_ok ran]
        rcases outcomeRest with ⟨ranRest, noneRest⟩ | ⟨e, made, ranRest, noticed⟩
        · rw [Watched.after_after] at ranRest
          exact .inl ⟨ranRest, by rw [failures_append, none, noneRest]; rfl⟩
        · rw [Watched.after_after] at ranRest
          exact .inr ⟨e, _, ranRest, noticed.after _ (List.nil_subset _) fun _ _ =>
            ⟨trivial, rfl, none⟩⟩
      · rw [runInOrder_cons_error ran]
        exact .inr ⟨e, made, rfl,
          { noticed with onCourse := noticed.onCourse.trans (List.prefix_append _ _) }⟩

end PipelineTask

/-! ## Stages -/

namespace PipelineStage

theorem forgiven_watched_tasks (index : Nat) (stage : PipelineStage σ) :
    (stage.watched index).forgiven.tasks =
      PipelineTask.allForgiven index 0 stage.tasks.zipIdx := by
  rw [forgiven, watched, List.map_map]
  rfl

theorem inRound_watched (index : Nat) (stage : PipelineStage σ) :
    PipelineTask.InRound index 0 (stage.watched index).tasks stage.tasks.zipIdx [] := by
  rw [watched]
  induction stage.tasks.zipIdx with
  | nil => exact .nil
  | cons t tasks ih => exact .goesOn t.1 t.2 ih

theorem pairwise_zipIdx {α : Type} (xs : List α) (first : Nat) :
    (xs.zipIdx first).Pairwise (·.2 < ·.2) := by
  have numbers : ((xs.zipIdx first).map Prod.snd).Pairwise (· < ·) := by
    rw [List.zipIdx_map_snd]
    exact List.pairwise_lt_range'
  exact List.pairwise_map.mp numbers

/-- The course through a stage. -/
theorem exists_course (limit limit' index : Nat) (stage : PipelineStage σ) (w : Watched σ) :
    ∃ turns : Turns σ,
      (stage.watched index).forgiven.perform limit' w = (.ok (), w.after turns) ∧
      StageCourse stage.mode index 0 stage.tasks.zipIdx turns.1 ∧
      ((stage.watched index).perform limit w = (.ok (), w.after turns) ∧ failures turns.1 = [] ∨
        ∃ e made, (stage.watched index).perform limit w = (.error e, w.after made) ∧
          PipelineTask.Noticed e [] (stage.mode = .parallel → stage.tasks.length ≤ limit)
            made.1 turns.1) := by
  have numbered := pairwise_zipIdx stage.tasks 0
  have mode : (stage.watched index).mode = stage.mode := rfl
  have forgivenMode : (stage.watched index).forgiven.mode = stage.mode := rfl
  rw [perform, perform, mode, forgivenMode, forgiven_watched_tasks]
  cases stage.mode with
  | sequential =>
    obtain ⟨turns, forgivenRun, course, outcome⟩ :=
      PipelineTask.exists_sequentialCourse index numbered w
    refine ⟨turns, forgivenRun, course, outcome.imp_right ?_⟩
    rintro ⟨e, made, ran, noticed⟩
    exact ⟨e, made, ran, { noticed with last := fun _ => noticed.last trivial }⟩
  | parallel =>
    dsimp only
    rw [PipelineTask.runTogether, PipelineTask.runTogether,
      (stage.mirrors_watched_tasks index).length_eq]
    obtain ⟨turns, s, forgivenRun, course⟩ := PipelineTask.takeTurns_allForgiven index 0 numbered
      (decide ((PipelineTask.allForgiven index 0 stage.tasks.zipIdx).length ≤ limit')) w
    refine ⟨(turns, s), forgivenRun, course, ?_⟩
    rcases PipelineTask.takeTurns_of_inRound (stage.inRound_watched index) numbered
      (decide (stage.tasks.length ≤ limit)) _ w forgivenRun with
      ⟨ran, -, none⟩ | ⟨e, made, ran, noticed⟩
    · exact .inl ⟨ran, none⟩
    · exact .inr ⟨e, made, ran, { noticed with
        last := fun moderate => noticed.last (decide_eq_true (moderate rfl)) }⟩

end PipelineStage

end Provisioning
