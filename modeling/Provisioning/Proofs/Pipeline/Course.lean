import Provisioning.Pipeline.Diary
import Provisioning.Proofs.Pipeline.Stages

/-!
# The course of a pipeline

The course of a pipeline goes through one stage after another, and through each stage as
its mode has it.  A pipeline succeeds exactly when no task on its course fails, and then
every task has run to its end.  Otherwise it leaves the course in the first stage in which
a task fails.  Where the stage notices that at once, the failure of the pipeline is the
first one on the course, and nothing happens after it.
-/

namespace Provisioning

set_option autoImplicit false

variable {σ : Type}

/-! ## Through the stages -/

/-- The turns of numbered stages. -/
structure CourseThrough (stages : List (NumberedStage σ)) (turns : List TurnRecord) :
    Prop where
  ordered : turns.Pairwise fun x y => x.place.stage < y.place.stage ∨
    x.place.stage = y.place.stage ∧ ∃ stage, (stage, x.place.stage) ∈ stages ∧
      stage.mode.Precedes x.place y.place
  complete : ∀ mark, mark ∈ turns.map TurnRecord.mark ↔ ∃ stage ∈ stages,
    ∃ t ∈ stage.1.tasks.zipIdx, ∃ further ≤ t.1.beforePauses.length,
      t.1.mark stage.2 t.2 0 further = mark
  verdicts : ∀ r ∈ turns, ∀ verdict, r.verdict = some verdict → ∃ stage ∈ stages,
    stage.2 = r.place.stage ∧ ∃ t ∈ stage.1.tasks.zipIdx,
      t.2 = r.place.task ∧ ∃ s, (t.1.finish s).1 = verdict

theorem CourseThrough.stage_mem {stages : List (NumberedStage σ)}
    {turns : List TurnRecord} (course : CourseThrough stages turns) {r : TurnRecord}
    (mem : r ∈ turns) : ∃ stage ∈ stages, r.place.stage = stage.2 := by
  obtain ⟨stage, mem', _, _, _, _, same⟩ :=
    (course.complete r.mark).mp (List.mem_map_of_mem mem)
  exact ⟨stage, mem', (congrArg (·.1.stage) same).symm⟩

theorem CourseThrough.cons {stage : NumberedStage σ}
    {stages : List (NumberedStage σ)} {turns later : List TurnRecord}
    (first : StageCourse stage.1.mode stage.2 0 stage.1.tasks.zipIdx turns)
    (rest : CourseThrough stages later)
    (numbered : (stage :: stages).Pairwise (·.2 < ·.2)) :
    CourseThrough (stage :: stages) (turns ++ later) where
  ordered := by
    refine List.pairwise_append.mpr ⟨?_, ?_, fun x xMem y yMem => ?_⟩
    · refine first.ordered.imp_of_mem fun {x y} xMem yMem earlier => ?_
      obtain ⟨_, _, _, xPlace⟩ := first.place_of_mem xMem
      obtain ⟨_, _, _, yPlace⟩ := first.place_of_mem yMem
      refine .inr ⟨by rw [xPlace, yPlace], stage.1, ?_, earlier⟩
      rw [xPlace]
      exact List.mem_cons_self
    · exact rest.ordered.imp fun earlier => earlier.imp_right fun ⟨same, stage, mem, before⟩ =>
        ⟨same, stage, List.mem_cons_of_mem _ mem, before⟩
    · obtain ⟨_, _, _, xPlace⟩ := first.place_of_mem xMem
      obtain ⟨yStage, yMem', ySame⟩ := rest.stage_mem yMem
      rw [xPlace, ySame]
      exact .inl ((List.pairwise_cons.mp numbered).1 yStage yMem')
  complete mark := by
    rw [List.map_append, List.mem_append, first.complete, rest.complete,
      List.exists_mem_cons_iff]
  verdicts r mem verdict ends := by
    rcases List.mem_append.mp mem with now | after
    · obtain ⟨t, mem', gives⟩ := first.verdicts r now verdict ends
      obtain ⟨_, _, _, place⟩ := first.place_of_mem now
      exact ⟨stage, List.mem_cons_self, by rw [place], t, mem', gives⟩
    · obtain ⟨stage', mem', gives⟩ := rest.verdicts r after verdict ends
      exact ⟨stage', List.mem_cons_of_mem stage mem', gives⟩

namespace PipelineStage

/-- A failure that is noticed in a stage stops the run through it and all later ones. -/
theorem stoppedAt_of_noticed {stage : NumberedStage σ} {e : Error} {atOnce : Prop}
    {made turns later : List TurnRecord}
    (noticed : PipelineTask.Noticed e [] atOnce made turns)
    (course : StageCourse stage.1.mode stage.2 0 stage.1.tasks.zipIdx turns)
    (laterStages : ∀ r ∈ later, stage.2 < r.place.stage) :
    StoppedAt stage.2 e made (turns ++ later) := by
  have here : ∀ r ∈ turns, r.place.stage = stage.2 := by
    intro r mem
    obtain ⟨_, _, _, place⟩ := course.place_of_mem mem
    rw [place]
  exact {
    onCourse := noticed.onCourse.trans (List.prefix_append _ _)
    failed := by
      obtain ⟨r, mem, fails⟩ := mem_failures_iff.mp noticed.failed
      exact ⟨r, mem, here r (noticed.onCourse.subset mem), fails⟩
    notLater := fun r mem => Nat.le_of_eq (here r (noticed.onCourse.subset mem))
    notEarlier := fun r mem _ => by
      rcases List.mem_append.mp mem with now | after
      · exact Nat.le_of_eq (here r now).symm
      · exact Nat.le_of_lt (laterStages r after) }

theorem exists_courseThrough (limit limit' : Nat) {stages : List (NumberedStage σ)}
    (numbered : stages.Pairwise (·.2 < ·.2)) (index : Nat) (w : Watched σ) :
    ∃ turns : Turns σ,
      (runAll limit' index (stages.map fun stage => (stage.1.watched stage.2).forgiven) w).2 =
        w.after turns ∧
      CourseThrough stages turns.1 ∧
      ((∃ reports, runAll limit index (stages.map fun stage => stage.1.watched stage.2) w =
          (.ok reports, w.after turns)) ∧ failures turns.1 = [] ∨
        ∃ e made, runAll limit index (stages.map fun stage => stage.1.watched stage.2) w =
            (.error e, w.after made) ∧
          ∃ stage ∈ stages, StoppedAt stage.2 e made.1 turns.1 ∧
            ((stage.1.mode = .parallel → stage.1.tasks.length ≤ limit) →
              FailsLast e made.1)) := by
  induction stages generalizing index w with
  | nil =>
    have stays : w = w.after ([], w.state) := w.after_nil.symm
    exact ⟨([], w.state), stays, ⟨.nil, by simp, fun _ mem => absurd mem List.not_mem_nil⟩,
      .inl ⟨⟨[], congrArg (Prod.mk _) stays⟩, rfl⟩⟩
  | cons stage stages ih =>
    obtain ⟨turns, forgivenRun, course, outcome⟩ := exists_course limit limit' stage.2 stage.1 w
    obtain ⟨later, forgivenRest, courseRest, outcomeRest⟩ :=
      ih (List.pairwise_cons.mp numbered).2 (index + 1) (w.after turns)
    have laterStages : ∀ r ∈ later.1, stage.2 < r.place.stage := by
      intro r mem
      obtain ⟨stage', mem', same⟩ := courseRest.stage_mem mem
      rw [same]
      exact (List.pairwise_cons.mp numbered).1 stage' mem'
    refine ⟨(turns.1 ++ later.1, later.2), ?_, .cons course courseRest numbered, ?_⟩
    · rw [List.map_cons, runAll_cons_ok forgivenRun, ← Watched.after_after]
      exact forgivenRest
    · rw [List.map_cons]
      rcases outcome with ⟨ran, none⟩ | ⟨e, made, ran, noticed⟩
      · rw [runAll_cons_ok ran]
        rcases outcomeRest with ⟨⟨reports, ranRest⟩, noneRest⟩ |
          ⟨e, made, ranRest, failing, mem, stopped, last⟩
        · rw [ranRest, Watched.after_after]
          exact .inl ⟨⟨_, rfl⟩, by rw [failures_append, none, noneRest]; rfl⟩
        · rw [ranRest, Watched.after_after]
          refine .inr ⟨e, _, rfl, failing, List.mem_cons_of_mem _ mem, ?_, fun stops => ?_⟩
          · refine stopped.after none fun r turn => ?_
            obtain ⟨_, _, _, place⟩ := course.place_of_mem turn
            rw [place]
            exact (List.pairwise_cons.mp numbered).1 failing mem
          · exact (last stops).after none
      · rw [runAll_cons_error ran]
        exact .inr ⟨e, made, rfl, stage, List.mem_cons_self,
          stoppedAt_of_noticed noticed course laterStages, fun stops => noticed.last stops rfl⟩

theorem reports_of_runAll {limit index : Nat} {stages : List (PipelineStage σ)} {s s' : σ}
    {reports : List StageReport} (ran : runAll limit index stages s = (.ok reports, s')) :
    reports = (stages.zipIdx index).map fun stage =>
      { index := stage.2
        label := stage.1.label
        mode := stage.1.mode
        tasks := stage.1.tasks.map (·.name) } := by
  induction stages generalizing index s reports with
  | nil =>
    cases ran
    rfl
  | cons stage stages ih =>
    rw [List.zipIdx_cons, List.map_cons]
    rcases first : stage.perform limit s with ⟨e | ⟨⟩, s₁⟩
    · rw [runAll_cons_error first] at ran
      cases ran
    · rw [runAll_cons_ok first] at ran
      rcases rest : runAll limit (index + 1) stages s₁ with ⟨e | later, s₂⟩ <;> rw [rest] at ran
      · cases ran
      · cases ran
        rw [ih rest]

end PipelineStage

/-! ## Through the pipeline -/

namespace Pipeline

/-- The task that has the turn. -/
def task? (p : Pipeline σ) (place : TurnPlace) : Option (PipelineTask σ) :=
  p.stages[place.stage]?.bind (·.tasks[place.task]?)

/-- The first turn comes before the second: in an earlier stage, or in the same one and
earlier by its mode. -/
def Precedes (p : Pipeline σ) (x y : TurnPlace) : Prop :=
  x.stage < y.stage ∨ x.stage = y.stage ∧
    ∃ stage, p.stages[x.stage]? = some stage ∧ stage.mode.Precedes x y

/-- The turns are all turns of all tasks in their order. -/
structure IsCourse (p : Pipeline σ) (turns : List TurnRecord) : Prop where
  ordered : turns.Pairwise fun x y => p.Precedes x.place y.place
  /-- A task has a turn before each of its pauses, and it ends with one after the last. -/
  complete : ∀ place ended, (place, ended) ∈ turns.map TurnRecord.mark ↔
    ∃ t, p.task? place = some t ∧ place.pause ≤ t.beforePauses.length ∧
      (ended ↔ place.pause = t.beforePauses.length)
  /-- How a task ended is up to that task. -/
  verdicts : ∀ r ∈ turns, ∀ verdict, r.verdict = some verdict →
    ∃ t s, p.task? r.place = some t ∧ (t.finish s).1 = verdict

theorem not_precedes_self (p : Pipeline σ) (x : TurnPlace) : ¬ p.Precedes x x := by
  rintro (earlier | ⟨-, stage, -, earlier⟩)
  · exact Nat.lt_irrefl _ earlier
  · cases mode : stage.mode <;> rw [mode, ExecutionMode.Precedes] at earlier <;> omega

theorem IsCourse.nodup {p : Pipeline σ} {turns : List TurnRecord} (course : p.IsCourse turns) :
    (turns.map TurnRecord.place).Nodup := by
  refine List.pairwise_map.mpr (course.ordered.imp fun {x y} earlier same => ?_)
  rw [same] at earlier
  exact p.not_precedes_self _ earlier

theorem task?_eq_some_iff {p : Pipeline σ} {place : TurnPlace} {t : PipelineTask σ} :
    p.task? place = some t ↔
      ∃ stage ∈ p.stages.zipIdx, stage.2 = place.stage ∧
        (t, place.task) ∈ stage.1.tasks.zipIdx := by
  simp only [task?, Option.bind_eq_some_iff, List.mem_zipIdx_iff_getElem?]
  constructor
  · rintro ⟨stage, found, taskFound⟩
    exact ⟨(stage, place.stage), found, rfl, taskFound⟩
  · rintro ⟨⟨stage, _⟩, found, rfl, taskFound⟩
    exact ⟨stage, found, taskFound⟩

theorem isCourse_of_courseThrough {p : Pipeline σ} {turns : List TurnRecord}
    (course : CourseThrough p.stages.zipIdx turns) : p.IsCourse turns where
  ordered := by
    refine course.ordered.imp fun earlier => earlier.imp_right ?_
    rintro ⟨same, stage, mem, before⟩
    exact ⟨same, stage, List.mem_zipIdx_iff_getElem?.mp mem, before⟩
  complete place ended := by
    rw [course.complete]
    constructor
    · rintro ⟨stage, stageMem, t, taskMem, further, bound, same⟩
      rw [PipelineTask.mark, Prod.mk.injEq, Nat.zero_add] at same
      obtain ⟨rfl, rfl⟩ := same
      exact ⟨t.1, task?_eq_some_iff.mpr ⟨stage, stageMem, rfl, taskMem⟩, bound, beq_iff_eq⟩
    · rintro ⟨t, found, bound, last⟩
      obtain ⟨stage, stageMem, index, taskMem⟩ := task?_eq_some_iff.mp found
      refine ⟨stage, stageMem, _, taskMem, place.pause, bound, ?_⟩
      rw [PipelineTask.mark, index, Nat.zero_add, Prod.mk.injEq, Bool.eq_iff_iff, beq_iff_eq]
      exact ⟨rfl, last.symm⟩
  verdicts r mem verdict ends := by
    obtain ⟨stage, stageMem, index, ⟨t, task⟩, taskMem, rfl, s, gives⟩ :=
      course.verdicts r mem verdict ends
    exact ⟨t, s, task?_eq_some_iff.mpr ⟨stage, stageMem, index, taskMem⟩, gives⟩

/-- Where the turns stop at the first failure, it is the first one on the course. -/
theorem IsCourse.first_failure {p : Pipeline σ} {i : Nat} {e : Error}
    {turns course : List TurnRecord} (isCourse : p.IsCourse course)
    (stopped : StoppedAt i e turns course) (last : FailsLast e turns) :
    ∃ before place, turns = before ++ [⟨place, some (.error e)⟩] ∧ place.stage = i ∧
      (∀ r ∈ before, ¬ r.Fails ∧ p.Precedes r.place place) ∧
      (∀ r ∈ course, r.Fails → r.place = place ∨ p.Precedes place r.place) := by
  obtain ⟨before, place, rfl, none⟩ := last
  obtain ⟨rest, rfl⟩ := stopped.onCourse
  rw [failures_eq_nil_iff] at none
  have ordered := isCourse.ordered
  rw [List.append_assoc, List.singleton_append, List.pairwise_append, List.pairwise_cons]
    at ordered
  obtain ⟨-, ⟨later, -⟩, earlier⟩ := ordered
  refine ⟨before, place, rfl, ?_, fun r mem => ⟨none r mem, ?_⟩, fun r mem fails => ?_⟩
  · obtain ⟨r, mem, index, fails⟩ := stopped.failed
    rcases List.mem_append.mp mem with ahead | now
    · exact absurd ⟨e, fails⟩ (none r ahead)
    · rw [List.mem_singleton.mp now] at index
      exact index
  · exact earlier r mem _ List.mem_cons_self
  · rw [List.append_assoc, List.mem_append, List.singleton_append, List.mem_cons] at mem
    rcases mem with ahead | rfl | after
    · exact absurd fails (none r ahead)
    · exact .inl rfl
    · exact .inr (later r after)

/-- How a pipeline ends, and where it left its course. -/
theorem exists_outcome (limit : Nat) (p : Pipeline σ) (s : σ) :
    p.IsCourse (p.course s) ∧
      ((∃ report, (p.runWithin limit s).1 = .ok report) ∧ p.trail limit s = p.course s ∧
          failures (p.course s) = [] ∨
        ∃ e, (p.runWithin limit s).1 = .error e ∧ ∃ i stage, p.stages[i]? = some stage ∧
          StoppedAt i e (p.trail limit s) (p.course s) ∧
          ((stage.mode = .parallel → stage.tasks.length ≤ limit) →
            FailsLast e (p.trail limit s))) := by
  have watchedRun := p.runWithin_watched limit s
  rw [runWithin_eq] at watchedRun
  obtain ⟨turns, forgivenRun, course, outcome⟩ :=
    PipelineStage.exists_courseThrough limit promptSize
      (PipelineStage.pairwise_zipIdx p.stages 0) 0 { state := s, trail := [] }
  have courseIs : p.course s = turns.1 := by
    rw [Pipeline.course, run, runWithin_eq, forgiven, watched, List.map_map]
    exact congrArg Watched.trail forgivenRun
  rw [courseIs]
  refine ⟨isCourse_of_courseThrough course, ?_⟩
  rcases outcome with ⟨⟨reports, ran⟩, none⟩ | ⟨e, made, ran, stage, mem, stopped, last⟩
  · rw [watched, ran, Prod.mk.injEq] at watchedRun
    exact .inl ⟨⟨_, watchedRun.1.symm⟩, (congrArg Watched.trail watchedRun.2).symm, none⟩
  · rw [watched, ran, Prod.mk.injEq] at watchedRun
    have trailIs : made.1 = p.trail limit s := congrArg Watched.trail watchedRun.2
    rw [trailIs] at stopped last
    exact .inr ⟨e, watchedRun.1.symm, stage.2, stage.1, List.mem_zipIdx_iff_getElem?.mp mem,
      stopped, last⟩

theorem stages_of_runWithin {limit : Nat} {p : Pipeline σ} {s : σ} {report : PipelineReport}
    (ran : (p.runWithin limit s).1 = .ok report) :
    report.stages = p.stages.zipIdx.map fun stage =>
      { index := stage.2
        label := stage.1.label
        mode := stage.1.mode
        tasks := stage.1.tasks.map (·.name) } := by
  rw [runWithin_eq] at ran
  rcases all : PipelineStage.runAll limit 0 p.stages s with ⟨e | reports, s'⟩ <;> rw [all] at ran
  · cases ran
  · cases ran
    exact PipelineStage.reports_of_runAll all

/-- **A pipeline follows its course.**  It succeeds exactly when no task on the course
fails.  Then every task has all its turns, each once and in order, and all stages with
all their tasks are told of as they are declared, whichever task was done first.  Otherwise
the error is that of a task that fails in the first stage in which one does, and no later
stage begins.  Unless that stage takes turns and is too large for failures to be noticed
promptly, it is the failure that comes first on the course, and no turn follows it.  The
limit of `run` is `promptSize`. -/
theorem run_follows_course (p : Pipeline σ) (limit : Nat) (s : σ) :
    p.watched.runWithin limit { state := s, trail := [] } =
        ((p.runWithin limit s).1,
          { state := (p.runWithin limit s).2, trail := p.trail limit s }) ∧
      p.IsCourse (p.course s) ∧ ((p.course s).map TurnRecord.place).Nodup ∧
      ((∃ report, (p.runWithin limit s).1 = .ok report) ↔ ∀ r ∈ p.course s, ¬ r.Fails) ∧
      (∀ report, (p.runWithin limit s).1 = .ok report → p.trail limit s = p.course s ∧
        report.stages = p.stages.zipIdx.map fun stage =>
          { index := stage.2
            label := stage.1.label
            mode := stage.1.mode
            tasks := stage.1.tasks.map (·.name) }) ∧
      (∀ e, (p.runWithin limit s).1 = .error e →
        ∃ i, StoppedAt i e (p.trail limit s) (p.course s) ∧
          ((∀ stage, p.stages[i]? = some stage →
              stage.mode = .parallel → stage.tasks.length ≤ limit) →
            ∃ before place, p.trail limit s = before ++ [⟨place, some (.error e)⟩] ∧
              place.stage = i ∧
              (∀ r ∈ before, ¬ r.Fails ∧ p.Precedes r.place place) ∧
              (∀ r ∈ p.course s, r.Fails → r.place = place ∨ p.Precedes place r.place))) := by
  obtain ⟨isCourse, outcome⟩ := p.exists_outcome limit s
  refine ⟨p.runWithin_watched limit s, isCourse, isCourse.nodup, ?_⟩
  rcases outcome with ⟨⟨report, ran⟩, whole, none⟩ | ⟨e, ran, i, stage, found, stopped, last⟩
  · refine ⟨⟨fun _ => failures_eq_nil_iff.mp none, fun _ => ⟨report, ran⟩⟩, ?_, ?_⟩
    · exact fun _ done => ⟨whole, stages_of_runWithin done⟩
    · intro e failed
      rw [ran] at failed
      cases failed
  · refine ⟨⟨?_, fun none => ?_⟩, ?_, ?_⟩
    · rintro ⟨report, done⟩
      rw [ran] at done
      cases done
    · obtain ⟨r, mem, -, fails⟩ := stopped.failed
      exact absurd ⟨e, fails⟩ (none r (stopped.onCourse.subset mem))
    · intro report done
      rw [ran] at done
      cases done
    · intro e' failed
      rw [ran] at failed
      cases failed
      exact ⟨i, stopped, fun moderate =>
        isCourse.first_failure stopped (last (moderate stage found))⟩

/-- One task that ends well, then two that fail when they take turns, the second of them
after fewer pauses. -/
def contested : Pipeline Diary where
  stages :=
    [{ label := "setup", mode := .sequential, tasks := [Diary.task "calm" 1 none] },
      { label := "checks", mode := .parallel,
        tasks :=
          [Diary.task "patient" 2 (some (.external .io "late")),
            Diary.task "hasty" 1 (some (.external .io "early"))] }]

/-- Two tasks that take turns, the second of which is done first. -/
def raced : Pipeline Diary where
  stages :=
    [{ label := "checks", mode := .parallel,
       tasks := [Diary.task "patient" 2 none, Diary.task "hasty" 1 none] }]

/-- The task with fewer pauses wins, and the other one does not get to its last turn.  Where
neither fails, it is done first and still told of in its place. -/
theorem run_follows_course_contested :
    ((contested.run []).1 = .error (.external .io "early") ∧
      ∃ before, contested.trail promptSize [] =
          before ++ [⟨⟨1, 1, 1⟩, some (.error (.external .io "early"))⟩] ∧
        (∀ r ∈ before, ¬ r.Fails ∧ contested.Precedes r.place ⟨1, 1, 1⟩) ∧
        (∀ r ∈ contested.course [], r.Fails → r.place = ⟨1, 1, 1⟩ ∨
          contested.Precedes ⟨1, 1, 1⟩ r.place)) ∧
    (raced.run []).2 =
      [.began "patient", .began "hasty", .resumed "patient" 1, .resumed "hasty" 1,
        .done "hasty", .resumed "patient" 2, .done "patient"] ∧
    ∃ report, (raced.run []).1 = .ok report ∧
      report.stages =
        [{ index := 0, label := "checks", mode := .parallel, tasks := ["patient", "hasty"] }] := by
  refine ⟨?_, by decide +kernel, ?_⟩
  · have failed : (contested.run []).1 = .error (.external .io "early") := by decide +kernel
    have moderate : ∀ stage ∈ contested.stages, stage.tasks.length ≤ promptSize := by
      simp [contested, promptSize]
    obtain ⟨-, -, -, -, -, failure⟩ := contested.run_follows_course promptSize []
    obtain ⟨i, -, first⟩ := failure _ failed
    obtain ⟨before, place, trail, -, earlier, later⟩ :=
      first fun stage found _ => moderate stage (List.mem_of_getElem? found)
    have last : ((contested.trail promptSize []).map TurnRecord.place).getLast? =
        some ⟨1, 1, 1⟩ := by decide +kernel
    rw [trail, List.map_append, List.map_singleton, List.getLast?_concat] at last
    have winner : place = ⟨1, 1, 1⟩ := Option.some.inj last
    rw [winner] at trail earlier later
    exact ⟨failed, before, trail, earlier, later⟩
  · obtain ⟨-, -, -, succeeds, told, -⟩ := raced.run_follows_course promptSize []
    have none : failures (raced.course []) = [] := by decide +kernel
    obtain ⟨report, ran⟩ := succeeds.mpr (failures_eq_nil_iff.mp none)
    exact ⟨report, ran, (told report ran).2⟩

end Pipeline

end Provisioning
