import Provisioning.Proofs.Pipeline.Watched

/-!
# The order of turns

One after another, a task has all its turns before the next one has its first.  Taking
turns, all tasks have their turn after so many pauses before any has one after more pauses.
A course through a stage has every turn of every task once, in the order of its mode.  A
run that a failure stops leaves the course early: in the best case right with the turn that
fails, in a large parallel stage some turns later.
-/

namespace Provisioning

set_option autoImplicit false

variable {σ : Type}

/-! ## Courses -/

/-- A task and its place in its stage. -/
abbrev NumberedTask (σ : Type) := PipelineTask σ × Nat

/-- A stage and its place in its pipeline. -/
abbrev NumberedStage (σ : Type) := PipelineStage σ × Nat

/-- The records of turns, from first to last, and the state that they lead to. -/
abbrev Turns (σ : Type) := List TurnRecord × σ

/-- The first turn comes before the second in a stage of that mode. -/
def ExecutionMode.Precedes (mode : ExecutionMode) (x y : TurnPlace) : Prop :=
  match mode with
  | .parallel => x.pause < y.pause ∨ x.pause = y.pause ∧ x.task < y.task
  | .sequential => x.task < y.task ∨ x.task = y.task ∧ x.pause < y.pause

/-- Whose turn it was, and whether the task ended with it. -/
def TurnRecord.mark (r : TurnRecord) : TurnPlace × Bool :=
  (r.place, r.verdict.isSome)

/-- The mark of the turn that the task has after further pauses. -/
def PipelineTask.mark (stage task pause : Nat) (t : PipelineTask σ) (further : Nat) :
    TurnPlace × Bool :=
  (⟨stage, task, pause + further⟩, further == t.beforePauses.length)

/-- The turns of numbered tasks of a stage, each of which has the given number of pauses
behind it. -/
structure StageCourse (mode : ExecutionMode) (stage pause : Nat)
    (tasks : List (NumberedTask σ)) (turns : List TurnRecord) : Prop where
  ordered : turns.Pairwise fun x y => mode.Precedes x.place y.place
  complete : ∀ mark, mark ∈ turns.map TurnRecord.mark ↔ ∃ t ∈ tasks,
    ∃ further ≤ t.1.beforePauses.length, t.1.mark stage t.2 pause further = mark
  verdicts : ∀ r ∈ turns, ∀ verdict, r.verdict = some verdict →
    ∃ t ∈ tasks, t.2 = r.place.task ∧ ∃ s, (t.1.finish s).1 = verdict

theorem StageCourse.place_of_mem {mode : ExecutionMode} {stage pause : Nat}
    {tasks : List (NumberedTask σ)} {turns : List TurnRecord}
    (course : StageCourse mode stage pause tasks turns) {r : TurnRecord} (mem : r ∈ turns) :
    ∃ t ∈ tasks, ∃ further, r.place = ⟨stage, t.2, pause + further⟩ := by
  obtain ⟨t, mem', further, _, same⟩ := (course.complete r.mark).mp (List.mem_map_of_mem mem)
  exact ⟨t, mem', further, (congrArg Prod.fst same).symm⟩

/-! ## Failures -/

/-- The error with which the task ended. -/
def TurnRecord.failure? (r : TurnRecord) : Option Error :=
  match r.verdict with
  | some (.error e) => some e
  | _ => none

/-- The errors of the tasks that failed, from first to last. -/
def failures (turns : List TurnRecord) : List Error :=
  turns.filterMap TurnRecord.failure?

theorem TurnRecord.failure?_eq_some_iff {r : TurnRecord} {e : Error} :
    r.failure? = some e ↔ r.verdict = some (.error e) := by
  rcases r with ⟨place, _ | e' | ⟨⟩⟩
  · simp [failure?]
  · simp [failure?]
  · simp [failure?]

theorem mem_failures_iff {turns : List TurnRecord} {e : Error} :
    e ∈ failures turns ↔ ∃ r ∈ turns, r.verdict = some (.error e) := by
  simp only [failures, List.mem_filterMap, TurnRecord.failure?_eq_some_iff]

theorem failures_append (before after : List TurnRecord) :
    failures (before ++ after) = failures before ++ failures after :=
  List.filterMap_append

theorem failures_eq_nil_iff {turns : List TurnRecord} :
    failures turns = [] ↔ ∀ r ∈ turns, ¬ r.Fails := by
  rw [List.eq_nil_iff_forall_not_mem]
  simp only [mem_failures_iff, TurnRecord.Fails]
  exact ⟨fun none r mem ⟨e, fails⟩ => none e ⟨r, mem, fails⟩,
    fun none e ⟨r, mem, fails⟩ => none r mem ⟨e, fails⟩⟩

/-- The turns end with one that fails, which none before did. -/
def FailsLast (e : Error) (turns : List TurnRecord) : Prop :=
  ∃ before place, turns = before ++ [⟨place, some (.error e)⟩] ∧ failures before = []

theorem FailsLast.after {e : Error} {turns : List TurnRecord} (last : FailsLast e turns)
    {before : List TurnRecord} (none : failures before = []) : FailsLast e (before ++ turns) := by
  obtain ⟨ahead, place, rfl, noneAhead⟩ := last
  refine ⟨before ++ ahead, place, (List.append_assoc _ _ _).symm, ?_⟩
  rw [failures_append, none, noneAhead, List.nil_append]

/-- A run through the stages left its course at the given stage, where a task failed. -/
structure StoppedAt (stage : Nat) (e : Error) (turns course : List TurnRecord) : Prop where
  onCourse : turns <+: course
  failed : ∃ r ∈ turns, r.place.stage = stage ∧ r.verdict = some (.error e)
  notLater : ∀ r ∈ turns, r.place.stage ≤ stage
  notEarlier : ∀ r ∈ course, r.Fails → stage ≤ r.place.stage

theorem StoppedAt.after {stage : Nat} {e : Error} {turns course : List TurnRecord}
    (stopped : StoppedAt stage e turns course) {before : List TurnRecord}
    (none : failures before = []) (earlier : ∀ r ∈ before, r.place.stage < stage) :
    StoppedAt stage e (before ++ turns) (before ++ course) where
  onCourse := (List.prefix_append_right_inj before).mpr stopped.onCourse
  failed := by
    obtain ⟨r, mem, fails⟩ := stopped.failed
    exact ⟨r, List.mem_append_right before mem, fails⟩
  notLater r mem := by
    rcases List.mem_append.mp mem with ahead | now
    · exact Nat.le_of_lt (earlier r ahead)
    · exact stopped.notLater r now
  notEarlier r mem fails := by
    rcases List.mem_append.mp mem with ahead | now
    · exact absurd fails (failures_eq_nil_iff.mp none r ahead)
    · exact stopped.notEarlier r now fails

end Provisioning
