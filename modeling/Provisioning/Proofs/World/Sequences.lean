import Provisioning.Proofs.Script.Calls
import Provisioning.Proofs.World.Basic

/-!
# Sequences of a world

A world holds command sequences, and whoever works on one makes calls on it.  What such a call
comes to is told by the sequence and by the behaviour of the lazy commands in the environment,
so all that is known of calls on one sequence holds in a world.
-/

namespace Provisioning

set_option autoImplicit false

/-- The call as an operation on a sequence of a world. -/
def SequenceCall.operation : SequenceCall → SequenceOperation
  | addCommands commands => .addItems (commands.map .line)
  | addLazy command => .addItems [.deferred command]
  | addItems items => .addItems items
  | addOnExit commands => .addOnExit commands
  | render => .render

/-- What a world is to answer to a call. -/
def SequenceStep.answer {σ : Type} (step : SequenceStep σ) : Result Reply :=
  step.result.map fun
    | none => .done
    | some script => .text script

namespace World

variable {w : World} {id : SequenceId} {g : GuardedSequence}

/-- The answer and the world that come of a call on a sequence are those of a step. -/
structure Shows (outcome : Answer × World) (id : SequenceId) (g : GuardedSequence)
    (step : SequenceStep Environment.Shared) : Prop where
  answer : outcome.1.result = step.answer
  sequence : outcome.2.findSequence? id = some { g with sequence := step.after }
  environment : outcome.2.environment.recorded = step.left

theorem findSequence?_setSequence_self (found : w.findSequence? id = some g)
    (g' : GuardedSequence) : (w.setSequence id g').findSequence? id = some g' := by
  obtain ⟨within, _⟩ := List.getElem?_eq_some_iff.mp found
  exact List.getElem?_set_self within

theorem shows_append (found : w.findSequence? id = some g) (call : SequenceCall)
    (change : Result CommandSequence) :
    Shows (w.settle change fun sequence => (w.setSequence id { g with sequence }).done) id g
      (LazyBehaviour.append call g.sequence w.environment.recorded change) := by
  rcases change with e | s'
  · exact ⟨rfl, found, rfl⟩
  · exact ⟨rfl, findSequence?_setSequence_self found _, rfl⟩

/-- A call on a sequence of a world comes to a step with the behaviour of the environment. -/
theorem shows_perform (found : w.findSequence? id = some g) (call : SequenceCall) :
    Shows (w.apply (.onSequence id call.operation)) id g
      (Environment.behaviour.perform call g.sequence w.environment.recorded) := by
  rw [apply, found]
  cases call with
  | addCommands commands => exact shows_append found _ _
  | addLazy command => exact shows_append found _ _
  | addItems items => exact shows_append found _ _
  | addOnExit commands => exact shows_append found _ _
  | render =>
    rw [LazyBehaviour.perform, Environment.render_recorded]
    change Shows (w.renderSequence id g) id g _
    rw [renderSequence]
    rcases g.sequence.render w.environment with ⟨e | ⟨script, s'⟩, env⟩
    · exact ⟨rfl, found, rfl⟩
    · exact ⟨rfl, findSequence?_setSequence_self (w := { w with environment := env }) found _, rfl⟩

/-- **A sequence asks its lazy commands late, once, and all or nothing.**  Whatever lazy
commands do and whatever others change in between, each of any number of calls on a sequence
ends in one of the ways that `Outcome` lists.  A call finds the commands that the earlier calls
added, in their order.  After a call that left the sequence sealed every call is refused, with
nothing asked and nothing changed.  The operations on a sequence of a world are such calls, and
they end in the same ways with the behaviour of the commands in its environment. -/
theorem sequence_all_or_nothing {σ : Type} (b : LazyBehaviour σ) (turns : List (SequenceTurn σ))
    (t : σ) :
    (∀ step ∈ b.course turns .empty ⟨t, []⟩, b.Outcome step) ∧
    (∀ earlier step later, b.course turns .empty ⟨t, []⟩ = earlier ++ step :: later →
      step.before.items = earlier.flatMap SequenceStep.addedMain ++
        (earlier.flatMap SequenceStep.addedOnExit).map .line ∧
      (step.after.isSealed = true → ∀ next ∈ later,
        next.before = step.after ∧ next.IsTooLate)) ∧
    ∀ (w : World) (id : SequenceId) (g : GuardedSequence), w.findSequence? id = some g →
      ∀ call : SequenceCall, ∃ step, step.call = call ∧ step.before = g.sequence ∧
        step.found = w.environment.recorded ∧ Environment.behaviour.Outcome step ∧
        Shows (w.apply (.onSequence id call.operation)) id g step := by
  refine ⟨fun step mem => LazyBehaviour.outcome_of_mem_course mem,
    fun earlier step later split => ?_, fun w id g found call => ?_⟩
  · obtain ⟨isMain, isExit, rest, rfl⟩ := LazyBehaviour.course_split split
    rw [CommandSequence.items, isMain, isExit]
    exact ⟨rfl, fun isSealed next mem => LazyBehaviour.isTooLate_of_mem_course isSealed mem⟩
  · obtain ⟨isCall, isBefore, isFound⟩ := LazyBehaviour.begins_perform Environment.behaviour call
      g.sequence w.environment.recorded
    exact ⟨_, isCall, isBefore, isFound, LazyBehaviour.outcome_perform .., shows_perform found call⟩

/-- Commands that have texts as long as there are any left. -/
def scarce : LazyBehaviour Nat where
  evaluate _ left :=
    match left with
    | 0 => (.error (.external .io "no text left"), 0)
    | left + 1 => (.ok "true", left)
  release _ left := left

/-- One command stands at two places of a sequence.  When it is first rendered there is a text
for one of them only, and when it is rendered again there are enough. -/
def scarceTurns : List (SequenceTurn Nat) := [
  ⟨fun left => left, .addItems [.deferred (.caller ⟨0⟩), .line "sync", .deferred (.caller ⟨0⟩)]⟩,
  ⟨fun left => left, .render⟩,
  ⟨fun _ => 2, .render⟩,
  ⟨fun left => left, .addLazy (.caller ⟨0⟩)⟩]

theorem sequence_all_or_nothing_scarce :
    ∃ added failed rendered late,
      scarce.course scarceTurns .empty ⟨1, []⟩ = [added, failed, rendered, late] ∧
      scarce.Outcome failed ∧ failed.after = failed.before ∧
      failed.left.journal = [
        .evaluated (.caller ⟨0⟩), .evaluated (.caller ⟨0⟩),
        .released (.caller ⟨0⟩), .released (.caller ⟨0⟩)] ∧
      scarce.Outcome rendered ∧
      rendered.left.journal = failed.left.journal ++
        [.evaluated (.caller ⟨0⟩), .evaluated (.caller ⟨0⟩)] ∧
      late.IsTooLate := by
  obtain ⟨outcomes, splits, _⟩ := sequence_all_or_nothing scarce scarceTurns 1
  have isCourse : scarce.course scarceTurns .empty ⟨1, []⟩ = [_, _, _, _] := rfl
  rw [isCourse] at outcomes splits
  obtain ⟨_, tooLate⟩ := splits [_, _] _ [_] rfl
  exact ⟨_, _, _, _, isCourse, outcomes _ (.tail _ (.head _)), rfl, rfl,
    outcomes _ (.tail _ (.tail _ (.head _))), rfl, (tooLate rfl _ (.head _)).2⟩

end World

end Provisioning
