import Provisioning.Proofs.Pipeline.Order

/-!
# Rounds

In a parallel stage the tasks of a round all have the same number of pauses behind them.
With the next round it is one more, and the tasks that were done are gone.  Forgiven tasks
go all the way like this.  The tasks themselves do so too until a failure is noticed; one
that is not noticed at once waits among the tasks, where it does nothing.
-/

namespace Provisioning

set_option autoImplicit false

variable {σ : Type}

/-- The watched state after further turns, which lead to the given state. -/
def Watched.after (w : Watched σ) (turns : Turns σ) : Watched σ where
  state := turns.2
  trail := w.trail ++ turns.1

theorem Watched.after_nil (w : Watched σ) : w.after ([], w.state) = w := by
  rw [after, List.append_nil]

theorem Watched.after_after (w : Watched σ) (turns later : Turns σ) :
    (w.after turns).after later = w.after (turns.1 ++ later.1, later.2) := by
  rw [after, after, after, List.append_assoc]

theorem Watched.after_inj {w : Watched σ} {turns turns' : Turns σ} :
    w.after turns = w.after turns' ↔ turns = turns' := by
  simp only [after, Watched.mk.injEq, List.append_cancel_left_eq, Prod.ext_iff, and_comm]

namespace PipelineTask

/-! ## One turn -/

/-- The record of a turn of a numbered task, as a list, and the state after it. -/
def turn (stage pause : Nat) (t : NumberedTask σ) (s : σ) : Turns σ :=
  match t.1.beforePauses with
  | act :: _ => ([⟨⟨stage, t.2, pause⟩, none⟩], act s)
  | [] => ([⟨⟨stage, t.2, pause⟩, some (t.1.finish s).1⟩], (t.1.finish s).2)

/-- What is left of a numbered task after its turn. -/
def afterTurn (t : NumberedTask σ) : Option (NumberedTask σ) :=
  match t.1.beforePauses with
  | _ :: later => some ({ t.1 with beforePauses := later }, t.2)
  | [] => none

variable {t : PipelineTask σ} {act : σ → σ} {later : List (σ → σ)}

theorem afterTurn_of_pause (acts : t.beforePauses = act :: later) (task : Nat) :
    afterTurn (t, task) = some ({ t with beforePauses := later }, task) := by
  rw [afterTurn, acts]

theorem afterTurn_of_noPause (noPause : t.beforePauses = []) (task : Nat) :
    afterTurn (t, task) = none := by
  rw [afterTurn, noPause]

theorem failures_turn_of_pause (acts : t.beforePauses = act :: later)
    (stage task pause : Nat) (s : σ) : failures (turn stage pause (t, task) s).1 = [] := by
  simp only [turn, acts]
  rfl

theorem turn_of_noPause (noPause : t.beforePauses = []) (stage task pause : Nat) (s : σ) :
    (turn stage pause (t, task) s).1 = [⟨⟨stage, task, pause⟩, some (t.finish s).1⟩] := by
  simp only [turn, noPause]

theorem watched_beforePauses (acts : t.beforePauses = act :: later) (stage task pause : Nat) :
    (t.watched stage task pause).beforePauses =
      (fun w => w.after (turn stage pause (t, task) w.state)) ::
        (watched stage task (pause + 1) { t with beforePauses := later }).beforePauses := by
  simp only [turn, acts]
  rw [watched, acts]
  rfl

theorem watched_of_pause (acts : t.beforePauses = act :: later) (stage task pause : Nat) :
    { t.watched stage task pause with
      beforePauses :=
        (watched stage task (pause + 1) { t with beforePauses := later }).beforePauses } =
      watched stage task (pause + 1) { t with beforePauses := later } := by
  have count : pause + t.beforePauses.length = pause + 1 + later.length := by
    rw [acts, List.length_cons]
    omega
  simp only [watched, count]

theorem watched_finish (noPause : t.beforePauses = []) (stage task pause : Nat)
    (w : Watched σ) :
    (t.watched stage task pause).finish w =
      ((t.finish w.state).1, w.after (turn stage pause (t, task) w.state)) := by
  simp only [turn, noPause]
  rw [watched, noPause]
  rfl

theorem map_mark_turn (stage pause : Nat) (t : NumberedTask σ) (s : σ) :
    (turn stage pause t s).1.map TurnRecord.mark = [t.1.mark stage t.2 pause 0] := by
  rw [turn, mark]
  cases t.1.beforePauses with
  | nil => rfl
  | cons act later => rfl

theorem mark_of_pause (acts : t.beforePauses = act :: later) (stage task pause further : Nat) :
    mark stage task (pause + 1) { t with beforePauses := later } further =
      t.mark stage task pause (further + 1) := by
  have place : pause + 1 + further = pause + (further + 1) := by omega
  have last : (further + 1 == t.beforePauses.length) = (further == later.length) := by
    rw [acts, List.length_cons, Bool.eq_iff_iff, beq_iff_eq, beq_iff_eq, Nat.add_right_cancel_iff]
  rw [mark, mark, place, last]

/-- The marks of a task are that of its turn and the marks of what is left of it. -/
theorem exists_mark_iff (stage pause : Nat) (t : NumberedTask σ) (m : TurnPlace × Bool) :
    (∃ further ≤ t.1.beforePauses.length, t.1.mark stage t.2 pause further = m) ↔
      t.1.mark stage t.2 pause 0 = m ∨ ∃ t' ∈ afterTurn t,
        ∃ further ≤ t'.1.beforePauses.length,
          t'.1.mark stage t'.2 (pause + 1) further = m := by
  obtain ⟨t, task⟩ := t
  rcases acts : t.beforePauses with _ | ⟨act, later⟩
  · simp [afterTurn, acts]
  · simp only [afterTurn, acts, Option.mem_some_iff, exists_eq_left', List.length_cons,
      mark_of_pause acts]
    constructor
    · rintro ⟨_ | further, bound, same⟩
      · exact .inl same
      · exact .inr ⟨further, by omega, same⟩
    · rintro (same | ⟨further, bound, same⟩)
      · exact ⟨0, Nat.zero_le _, same⟩
      · exact ⟨further + 1, by omega, same⟩

/-- Where the records of a turn have a verdict, it is one that the task gives. -/
theorem verdict_turn {stage pause : Nat} {t : NumberedTask σ} {s : σ} {r : TurnRecord}
    (mem : r ∈ (turn stage pause t s).1) {verdict : Result Unit}
    (ends : r.verdict = some verdict) :
    t.2 = r.place.task ∧ ∃ s, (t.1.finish s).1 = verdict := by
  rw [turn] at mem
  rcases acts : t.1.beforePauses with _ | ⟨act, later⟩ <;> rw [acts] at mem
  · rw [List.mem_singleton] at mem
    subst mem
    exact ⟨rfl, s, Option.some.inj ends⟩
  · rw [List.mem_singleton] at mem
    subst mem
    cases ends

/-- What is left of a task has its number and ends as the task does. -/
theorem afterTurn_eq_some {t t' : NumberedTask σ} (left : afterTurn t = some t') :
    t'.2 = t.2 ∧ t'.1.finish = t.1.finish := by
  rcases acts : t.1.beforePauses with _ | ⟨act, later⟩ <;> rw [afterTurn, acts] at left
  · cases left
  · cases left
    exact ⟨rfl, rfl⟩

/-! ## One round -/

/-- The records of a round of numbered tasks and the state after it. -/
def roundTurns (stage pause : Nat) : List (NumberedTask σ) → σ → Turns σ
  | [], s => ([], s)
  | t :: tasks, s =>
    ((turn stage pause t s).1 ++ (roundTurns stage pause tasks (turn stage pause t s).2).1,
      (roundTurns stage pause tasks (turn stage pause t s).2).2)

theorem map_mark_roundTurns (stage pause : Nat) (tasks : List (NumberedTask σ)) (s : σ) :
    (roundTurns stage pause tasks s).1.map TurnRecord.mark =
      tasks.map fun t => t.1.mark stage t.2 pause 0 := by
  induction tasks generalizing s with
  | nil => rfl
  | cons t tasks ih =>
    rw [roundTurns, List.map_append, map_mark_turn, ih]
    rfl

section Round

variable {stage pause : Nat} {tasks : List (NumberedTask σ)} {s : σ}

theorem exists_turn_of_mem_roundTurns {r : TurnRecord}
    (mem : r ∈ (roundTurns stage pause tasks s).1) :
    ∃ t ∈ tasks, ∃ s, r ∈ (turn stage pause t s).1 := by
  induction tasks generalizing s with
  | nil => cases mem
  | cons t tasks ih =>
    rcases List.mem_append.mp mem with now | later
    · exact ⟨t, List.mem_cons_self, s, now⟩
    · obtain ⟨t', mem', found⟩ := ih later
      exact ⟨t', List.mem_cons_of_mem t mem', found⟩

/-- A round and the course through the rounds after it make up a course. -/
theorem stageCourse_of_round (numbered : tasks.Pairwise (·.2 < ·.2))
    {turns : List TurnRecord}
    (rest : StageCourse .parallel stage (pause + 1) (tasks.filterMap afterTurn) turns) :
    StageCourse .parallel stage pause tasks ((roundTurns stage pause tasks s).1 ++ turns) where
  ordered := by
    refine List.pairwise_append.mpr ⟨?_, rest.ordered, ?_⟩
    · have marks : ((roundTurns stage pause tasks s).1.map TurnRecord.mark).Pairwise
          fun x y => ExecutionMode.parallel.Precedes x.1 y.1 := by
        rw [map_mark_roundTurns, List.pairwise_map]
        exact numbered.imp fun earlier => .inr ⟨rfl, earlier⟩
      exact List.pairwise_map (f := TurnRecord.mark) |>.mp marks
    · intro x now y later
      have xMark := List.mem_map_of_mem (f := TurnRecord.mark) now
      rw [map_mark_roundTurns] at xMark
      obtain ⟨_, _, xSame⟩ := List.mem_map.mp xMark
      obtain ⟨_, _, further, yPlace⟩ := rest.place_of_mem later
      have xPause : pause = x.place.pause := congrArg (·.1.pause) xSame
      have yPause : y.place.pause = pause + 1 + further := congrArg TurnPlace.pause yPlace
      exact .inl (by omega)
  complete mark := by
    rw [List.map_append, List.mem_append, map_mark_roundTurns, rest.complete, List.mem_map]
    simp only [exists_mark_iff stage pause, List.mem_filterMap]
    constructor
    · rintro (⟨t, mem, same⟩ | ⟨t', ⟨t, mem, left⟩, marked⟩)
      · exact ⟨t, mem, .inl same⟩
      · exact ⟨t, mem, .inr ⟨t', left, marked⟩⟩
    · rintro ⟨t, mem, same | ⟨t', left, marked⟩⟩
      · exact .inl ⟨t, mem, same⟩
      · exact .inr ⟨t', ⟨t, mem, left⟩, marked⟩
  verdicts r mem verdict ends := by
    rcases List.mem_append.mp mem with now | later
    · obtain ⟨t, mem, s, turn⟩ := exists_turn_of_mem_roundTurns now
      exact ⟨t, mem, verdict_turn turn ends⟩
    · obtain ⟨t', left, number, gives⟩ := rest.verdicts r later verdict ends
      obtain ⟨t, mem, left⟩ := List.mem_filterMap.mp left
      obtain ⟨sameNumber, sameFinish⟩ := afterTurn_eq_some left
      rw [sameNumber] at number
      rw [sameFinish] at gives
      exact ⟨t, mem, number, gives⟩

theorem pairwise_filterMap_afterTurn (numbered : tasks.Pairwise (·.2 < ·.2)) :
    (tasks.filterMap afterTurn).Pairwise (·.2 < ·.2) := by
  refine List.pairwise_filterMap.mpr (numbered.imp ?_)
  intro t u earlier t' tLeft u' uLeft
  rw [(afterTurn_eq_some tLeft).1, (afterTurn_eq_some uLeft).1]
  exact earlier

end Round

/-! ## Forgiven tasks -/

/-- Numbered tasks of a stage that are watched and forgiven. -/
def allForgiven (stage pause : Nat) (tasks : List (NumberedTask σ)) :
    List (PipelineTask (Watched σ)) :=
  tasks.map fun t => (t.1.watched stage t.2 pause).forgiven

theorem round_allForgiven (stage pause : Nat) (tasks : List (NumberedTask σ))
    (prompt clear : Bool) (w : Watched σ) :
    round prompt clear (allForgiven stage pause tasks) w =
      (.ok (allForgiven stage (pause + 1) (tasks.filterMap afterTurn)),
        w.after (roundTurns stage pause tasks w.state)) := by
  induction tasks generalizing clear w with
  | nil => exact congrArg (Prod.mk _) w.after_nil.symm
  | cons t tasks ih =>
    obtain ⟨t, task⟩ := t
    change round prompt clear
      ((t.watched stage task pause).forgiven :: allForgiven stage pause tasks) w = _
    rcases acts : t.beforePauses with _ | ⟨act, later⟩
    · have noPause : (t.watched stage task pause).forgiven.beforePauses = [] := by
        rw [forgiven, watched, acts]
        rfl
      have ends : (t.watched stage task pause).forgiven.finish w =
          (.ok (), w.after (turn stage pause (t, task) w.state)) :=
        congrArg (fun ended => (Except.ok (), ended.2)) (watched_finish acts stage task pause w)
      have gone := afterTurn_of_noPause acts task
      rw [round_cons_ok noPause ends, ih, List.filterMap_cons_none gone, Watched.after_after]
      rfl
    · have next : (t.watched stage task pause).forgiven.beforePauses = _ :=
        watched_beforePauses acts stage task pause
      have left := afterTurn_of_pause acts task
      have goesOn := congrArg forgiven (watched_of_pause acts stage task pause)
      rw [round_cons_pause next, ih, List.filterMap_cons_some left, Watched.after_after]
      exact congrArg (fun first => (Except.ok (first :: _), _)) goesOn

theorem takeTurns_allForgiven (stage pause : Nat) {tasks : List (NumberedTask σ)}
    (numbered : tasks.Pairwise (·.2 < ·.2)) (prompt : Bool) (w : Watched σ) :
    ∃ turns s, takeTurns prompt (allForgiven stage pause tasks) w = (.ok (), w.after (turns, s)) ∧
      StageCourse .parallel stage pause tasks turns := by
  generalize same : allForgiven stage pause tasks = us
  fun_induction takeTurns prompt us w generalizing pause tasks with
  | case1 w =>
    have none : tasks = [] := List.map_eq_nil_iff.mp same
    subst none
    exact ⟨[], w.state, congrArg (Prod.mk _) w.after_nil.symm, .nil, by simp,
      fun _ mem => absurd mem List.not_mem_nil⟩
  | case2 w u us left w' ran ih =>
    rw [← same, round_allForgiven] at ran
    cases ran
    obtain ⟨turns, s, later, course⟩ := ih (pause + 1) (pairwise_filterMap_afterTurn numbered) rfl
    refine ⟨_, s, later.trans (congrArg (Prod.mk _) (w.after_after _ _)), ?_⟩
    exact stageCourse_of_round numbered course
  | case3 w u us e w' ran =>
    rw [← same, round_allForgiven] at ran
    cases ran

/-! ## Tasks that may fail -/

/-- The tasks of a round and the errors of those among them that failed and wait. -/
inductive InRound (stage pause : Nat) : List (PipelineTask (Watched σ)) →
    List (NumberedTask σ) → List Error → Prop where
  | nil : InRound stage pause [] [] []
  | goesOn (t : PipelineTask σ) (task : Nat) {us : List (PipelineTask (Watched σ))}
      {tasks : List (NumberedTask σ)} {waiting : List Error}
      (others : InRound stage pause us tasks waiting) :
      InRound stage pause (t.watched stage task pause :: us) ((t, task) :: tasks) waiting
  | waits (u : PipelineTask (Watched σ)) (e : Error) {us : List (PipelineTask (Watched σ))}
      {tasks : List (NumberedTask σ)} {waiting : List Error}
      (others : InRound stage pause us tasks waiting) :
      InRound stage pause (u.failed e :: us) tasks (e :: waiting)

/-- An error was noticed after the given turns, while others were waiting. -/
structure Noticed (e : Error) (waiting : List Error) (atOnce : Prop)
    (turns course : List TurnRecord) : Prop where
  onCourse : turns <+: course
  failed : e ∈ waiting ++ failures turns
  last : atOnce → waiting = [] → FailsLast e turns

/-- Turns that come before do not keep an error from being noticed. -/
theorem Noticed.after {e : Error} {waiting waiting' : List Error} {atOnce atOnce' : Prop}
    {turns course : List TurnRecord} (noticed : Noticed e waiting' atOnce' turns course)
    (before : List TurnRecord) (kept : waiting' ⊆ waiting ++ failures before)
    (none : atOnce → waiting = [] → atOnce' ∧ waiting' = [] ∧ failures before = []) :
    Noticed e waiting atOnce (before ++ turns) (before ++ course) where
  onCourse := (List.prefix_append_right_inj before).mpr noticed.onCourse
  failed := by
    rw [failures_append, ← List.append_assoc]
    rcases List.mem_append.mp noticed.failed with waits | now
    · exact List.mem_append_left _ (kept waits)
    · exact List.mem_append_right _ now
  last prompt noneWaits := by
    obtain ⟨prompt', noneWaits', noneBefore⟩ := none prompt noneWaits
    exact (noticed.last prompt' noneWaits').after noneBefore

/-- How a round of numbered tasks ends.  What it leaves goes on to the next round, and the
errors of the tasks that wait are those that waited and those of the round. -/
inductive RoundEnd (stage pause : Nat) (tasks : List (NumberedTask σ))
    (waiting : List Error) (atOnce : Prop) (w : Watched σ) :
    Result (List (PipelineTask (Watched σ))) × Watched σ → Prop where
  | left {us : List (PipelineTask (Watched σ))} {waiting' : List Error}
      (next : InRound stage (pause + 1) us (tasks.filterMap afterTurn) waiting')
      (waits : waiting'.Perm (waiting ++ failures (roundTurns stage pause tasks w.state).1))
      (noneWaits : atOnce → waiting = [] → waiting' = []) :
      RoundEnd stage pause tasks waiting atOnce w
        (.ok us, w.after (roundTurns stage pause tasks w.state))
  | noticed {e : Error} {turns : Turns σ}
      (noticed : Noticed e waiting atOnce turns.1 (roundTurns stage pause tasks w.state).1) :
      RoundEnd stage pause tasks waiting atOnce w (.error e, w.after turns)

section RoundEnd

variable {stage pause : Nat} {us : List (PipelineTask (Watched σ))}
  {tasks : List (NumberedTask σ)} {waiting : List Error} {w : Watched σ}

/-- A round ends as its rest does, which comes after the turn of its first task. -/
theorem RoundEnd.after_turn {t : NumberedTask σ} {atOnce atOnce' : Prop}
    {ended : Result (List (PipelineTask (Watched σ))) × Watched σ}
    (rest : RoundEnd stage pause tasks waiting atOnce'
      (w.after (turn stage pause t w.state)) ended)
    (keep : List (PipelineTask (Watched σ)) → List (PipelineTask (Watched σ)))
    (keeps : ∀ {us waiting'}, InRound stage (pause + 1) us (tasks.filterMap afterTurn) waiting' →
      InRound stage (pause + 1) (keep us) ((t :: tasks).filterMap afterTurn)
        (failures (turn stage pause t w.state).1 ++ waiting'))
    (none : atOnce → atOnce' ∧ failures (turn stage pause t w.state).1 = []) :
    RoundEnd stage pause (t :: tasks) waiting atOnce w (ended.1.map keep, ended.2) := by
  cases rest with
  | left next waits noneWaits =>
    rw [Watched.after_after]
    refine .left (keeps next) ?_ fun prompt noneBefore => ?_
    · rw [roundTurns, failures_append, ← List.append_assoc]
      refine (waits.append_left _).trans ?_
      rw [← List.append_assoc]
      exact List.perm_append_comm.append_right _
    · rw [(none prompt).2, noneWaits (none prompt).1 noneBefore, List.nil_append]
  | noticed noticed =>
    rw [Watched.after_after]
    exact .noticed (noticed.after _ (List.subset_append_left _ _) fun prompt noneBefore =>
      ⟨(none prompt).1, noneBefore, (none prompt).2⟩)

/-- A round that begins with a task that goes on. -/
theorem RoundEnd.goesOn {prompt : Bool}
    (rest : ∀ clear w, RoundEnd stage pause tasks waiting (prompt = true ∧ clear = true) w
      (round prompt clear us w))
    (t : PipelineTask σ) (task : Nat) (clear : Bool) :
    RoundEnd stage pause ((t, task) :: tasks) waiting (prompt = true ∧ clear = true) w
      (round prompt clear (t.watched stage task pause :: us) w) := by
  have later := fun clear => rest clear (w.after (turn stage pause (t, task) w.state))
  rcases acts : t.beforePauses with _ | ⟨act, acts'⟩
  · have noPause : (t.watched stage task pause).beforePauses = [] := by
      rw [watched, acts]
      rfl
    have ends := watched_finish acts stage task pause w
    have now := turn_of_noPause acts stage task pause w.state
    have gone : ((t, task) :: tasks).filterMap afterTurn = tasks.filterMap afterTurn :=
      List.filterMap_cons_none (afterTurn_of_noPause acts task)
    rcases verdict : (t.finish w.state).1 with e | ⟨⟩ <;> rw [verdict] at ends now
    · cases clear with
      | true =>
        rw [round_cons_noticed noPause ends]
        exact .noticed {
          onCourse := List.prefix_append _ _
          failed := List.mem_append_right _ (by rw [now]; exact List.mem_cons_self)
          last := fun _ _ => ⟨[], ⟨stage, task, pause⟩, now, rfl⟩ }
      | false =>
        rw [round_cons_waiting noPause ends]
        refine (later prompt).after_turn _ (fun next => ?_) fun atOnce => by cases atOnce.2
        rw [gone, now]
        exact .waits _ e next
    · rw [round_cons_ok noPause ends]
      have ended := (later clear).after_turn (t := (t, task)) id (fun next => ?_)
        fun prompt => ⟨prompt, ?_⟩
      · rw [Except.map_id] at ended
        exact ended
      · rw [gone, now]
        exact next
      · rw [now]
        rfl
  · have next := watched_beforePauses acts stage task pause
    have left : ((t, task) :: tasks).filterMap afterTurn =
        ({ t with beforePauses := acts' }, task) :: tasks.filterMap afterTurn :=
      List.filterMap_cons_some (afterTurn_of_pause acts task)
    have none := failures_turn_of_pause acts stage task pause w.state
    rw [round_cons_pause next, watched_of_pause acts]
    refine (later prompt).after_turn _ (fun next => ?_) fun atOnce => ⟨⟨atOnce.1, atOnce.1⟩, none⟩
    rw [left, none]
    exact .goesOn _ task next

/-- A round that begins with a failed task that waits. -/
theorem RoundEnd.waits {prompt : Bool}
    (rest : ∀ clear w, RoundEnd stage pause tasks waiting (prompt = true ∧ clear = true) w
      (round prompt clear us w))
    (u : PipelineTask (Watched σ)) (e : Error) (clear : Bool) :
    RoundEnd stage pause tasks (e :: waiting) (prompt = true ∧ clear = true) w
      (round prompt clear (u.failed e :: us) w) := by
  cases clear with
  | true =>
    rw [round_cons_noticed rfl rfl]
    have noticed : RoundEnd stage pause tasks (e :: waiting) (prompt = true ∧ true = true) w
        (.error e, w.after ([], w.state)) :=
      .noticed {
        onCourse := List.nil_prefix
        failed := List.mem_cons_self
        last := fun _ noneWaits => by cases noneWaits }
    rw [Watched.after_nil] at noticed
    exact noticed
  | false =>
    rw [round_cons_waiting rfl rfl]
    have later := rest prompt w
    have notAtOnce : ¬ (prompt = true ∧ false = true) := fun atOnce => by cases atOnce.2
    generalize round prompt prompt us w = ended at later ⊢
    cases later with
    | left next waits _ =>
      exact .left (.waits _ e next) (waits.cons e) fun atOnce => absurd atOnce notAtOnce
    | noticed noticed =>
      have waitsToo : waiting ⊆ e :: waiting ++ failures [] := fun _ waits =>
        List.mem_append_left _ (List.mem_cons_of_mem e waits)
      exact .noticed (noticed.after [] waitsToo fun atOnce => absurd atOnce notAtOnce)

theorem roundEnd (inRound : InRound stage pause us tasks waiting) (prompt clear : Bool)
    (w : Watched σ) :
    RoundEnd stage pause tasks waiting (prompt = true ∧ clear = true) w
      (round prompt clear us w) := by
  induction inRound generalizing clear w with
  | nil =>
    have ended : RoundEnd stage pause [] [] (prompt = true ∧ clear = true) w
        (.ok [], w.after (roundTurns stage pause [] w.state)) :=
      .left .nil .nil fun _ _ => rfl
    rw [roundTurns, Watched.after_nil] at ended
    exact ended
  | goesOn t task _ ih => exact .goesOn ih t task clear
  | waits u e _ ih => exact .waits ih u e clear

end RoundEnd

/-! ## Round after round -/

theorem exists_course_of_round {stage pause : Nat} {tasks : List (NumberedTask σ)}
    (numbered : tasks.Pairwise (·.2 < ·.2)) {prompt : Bool} {w : Watched σ}
    {turns : Turns σ}
    (course : takeTurns prompt (allForgiven stage pause tasks) w = (.ok (), w.after turns)) :
    ∃ later : Turns σ,
      ((roundTurns stage pause tasks w.state).1 ++ later.1, later.2) = turns ∧
      takeTurns prompt (allForgiven stage (pause + 1) (tasks.filterMap afterTurn))
          (w.after (roundTurns stage pause tasks w.state)) =
        (.ok (), (w.after (roundTurns stage pause tasks w.state)).after later) := by
  obtain ⟨later, s, rest, -⟩ := takeTurns_allForgiven stage (pause + 1)
    (pairwise_filterMap_afterTurn numbered) prompt
    (w.after (roundTurns stage pause tasks w.state))
  rw [takeTurns_of_round_ok (round_allForgiven stage pause tasks prompt true w), rest,
    Watched.after_after] at course
  exact ⟨(later, s), Watched.after_inj.mp (congrArg Prod.snd course), rest⟩

/-- Tasks that take turns keep to the course that forgiven ones take.  If no failure is
noticed, none is on the course. -/
theorem takeTurns_of_inRound {stage pause : Nat} {us : List (PipelineTask (Watched σ))}
    {tasks : List (NumberedTask σ)} {waiting : List Error}
    (inRound : InRound stage pause us tasks waiting) (numbered : tasks.Pairwise (·.2 < ·.2))
    (prompt prompt' : Bool) (w : Watched σ) {turns : Turns σ}
    (course : takeTurns prompt' (allForgiven stage pause tasks) w = (.ok (), w.after turns)) :
    (takeTurns prompt us w = (.ok (), w.after turns) ∧ waiting = [] ∧ failures turns.1 = []) ∨
      ∃ e made, takeTurns prompt us w = (.error e, w.after made) ∧
        Noticed e waiting (prompt = true) made.1 turns.1 := by
  fun_induction takeTurns prompt us w generalizing pause tasks waiting turns with
  | case1 w =>
    cases inRound
    rw [allForgiven, List.map_nil, takeTurns] at course
    have none : turns = ([], w.state) :=
      Watched.after_inj.mp ((congrArg Prod.snd course).symm.trans w.after_nil.symm)
    subst none
    exact .inl ⟨course, rfl, rfl⟩
  | case2 w u us left w' ran ih =>
    obtain ⟨later, rfl, rest⟩ := exists_course_of_round numbered course
    have ended := roundEnd inRound prompt true w
    rw [ran] at ended
    cases ended with
    | left next waits noneWaits =>
      rcases ih next (pairwise_filterMap_afterTurn numbered) rest with
        ⟨done, none, noneLater⟩ | ⟨e, made, stopped, noticed⟩
      · rw [none, List.nil_perm, List.append_eq_nil_iff] at waits
        rw [Watched.after_after] at done
        exact .inl ⟨done, waits.1, by rw [failures_append, waits.2, noneLater]; rfl⟩
      · rw [Watched.after_after] at stopped
        refine .inr ⟨e, _, stopped, noticed.after _ waits.subset fun atOnce noneBefore => ?_⟩
        have none := noneWaits ⟨atOnce, rfl⟩ noneBefore
        rw [none, List.nil_perm, List.append_eq_nil_iff] at waits
        exact ⟨atOnce, none, waits.2⟩
  | case3 w u us e w' ran =>
    obtain ⟨later, rfl, rest⟩ := exists_course_of_round numbered course
    have ended := roundEnd inRound prompt true w
    rw [ran] at ended
    cases ended with
    | noticed noticed =>
      exact .inr ⟨e, _, rfl, {
        onCourse := noticed.onCourse.trans (List.prefix_append _ _)
        failed := noticed.failed
        last := fun atOnce => noticed.last ⟨atOnce, rfl⟩ }⟩

end PipelineTask

end Provisioning
