import Provisioning.Proofs.Script.Behaviour

/-!
# Calls on one sequence

Commands are added to a sequence, and it is rendered, perhaps several times: a render that
fails may be tried again when others have mended what was wrong.  Lazy commands of any kind are
asked for their texts by a render and by nothing else; each occurrence is asked once, in order,
and the answers are used all or not at all.
-/

namespace Provisioning

set_option autoImplicit false

/-! ## Calls -/

/-- A call on a sequence. -/
inductive SequenceCall where
  | addCommands (commands : List String)
  | addLazy (command : LazyCommand)
  | addItems (items : List ScriptItem)
  | addOnExit (commands : List String)
  | render
  deriving DecidableEq

namespace SequenceCall

/-- What the call is to add to the main commands. -/
def main : SequenceCall → List ScriptItem
  | addCommands commands => commands.map .line
  | addLazy command => [.deferred command]
  | addItems items => items
  | addOnExit _ => []
  | render => []

/-- What the call is to add for the exit. -/
def onExit : SequenceCall → List String
  | addOnExit commands => commands
  | _ => []

end SequenceCall

/-- The sequence with what the call adds behind what is there. -/
def CommandSequence.grown (s : CommandSequence) (call : SequenceCall) : CommandSequence :=
  { s with commands := s.commands ++ call.main, onExit := s.onExit ++ call.onExit }

/-- A call, made after others did something to what lazy commands share. -/
structure SequenceTurn (σ : Type) where
  meanwhile : σ → σ
  call : SequenceCall

/-- A call that was made, with what it found and what it left.  The result of a render is a
script. -/
structure SequenceStep (σ : Type) where
  call : SequenceCall
  before : CommandSequence
  found : Recorded σ
  result : Result (Option String)
  after : CommandSequence
  left : Recorded σ

namespace SequenceStep

variable {σ : Type}

/-- What the call added to the main commands; nothing if it failed. -/
def addedMain (step : SequenceStep σ) : List ScriptItem :=
  match step.result with
  | .ok _ => step.call.main
  | .error _ => []

/-- What the call added for the exit; nothing if it failed. -/
def addedOnExit (step : SequenceStep σ) : List String :=
  match step.result with
  | .ok _ => step.call.onExit
  | .error _ => []

/-- The call was refused because it came too late: nothing was asked, and nothing changed. -/
structure IsTooLate (step : SequenceStep σ) : Prop where
  result : step.result = .error (.state .sequenceRendered)
  after : step.after = step.before
  left : step.left = step.found

end SequenceStep

namespace LazyBehaviour

open ScriptItem

variable {σ : Type} (b : LazyBehaviour σ)

/-- Takes over what was added, or leaves the sequence as it was. -/
def append (call : SequenceCall) (s : CommandSequence) (r : Recorded σ)
    (change : Result CommandSequence) : SequenceStep σ :=
  match change with
  | .ok s' => { call, before := s, found := r, result := .ok none, after := s', left := r }
  | .error e => { call, before := s, found := r, result := .error e, after := s, left := r }

/-- Makes a call. -/
def perform (call : SequenceCall) (s : CommandSequence) (r : Recorded σ) : SequenceStep σ :=
  match call with
  | .addCommands commands => append call s r (s.addCommands commands)
  | .addLazy command => append call s r (s.addItems [.deferred command])
  | .addItems items => append call s r (s.addItems items)
  | .addOnExit commands => append call s r (s.addOnExit commands)
  | .render =>
    match b.render s r with
    | (.ok (script, s'), r') =>
      { call, before := s, found := r, result := .ok (some script), after := s', left := r' }
    | (.error e, r') =>
      { call, before := s, found := r, result := .error e, after := s, left := r' }

/-- Makes calls, one after another. -/
def course : List (SequenceTurn σ) → CommandSequence → Recorded σ → List (SequenceStep σ)
  | [], _, _ => []
  | turn :: rest, s, r =>
    let step := b.perform turn.call s { r with state := turn.meanwhile r.state }
    step :: course rest step.after step.left

/-! ## What a call comes to -/

/-- The ways in which a call can end.  Commands are added without asking for anything.  A
render asks every lazy command for its text, in order; or it asks up to the first that fails
and releases all of them afterwards, and the sequence is as it was.  Once the sequence is
sealed, every call is refused and nothing is asked. -/
inductive Outcome : SequenceStep σ → Prop
  | appended {call : SequenceCall} {s : CommandSequence} {r : Recorded σ} (adds : call ≠ .render)
      (isOpen : s.isSealed = false) :
      Outcome {
        call
        before := s
        found := r
        result := .ok none
        after := s.grown call
        left := r }
  | rendered {s : CommandSequence} {r : Recorded σ} {texts : List String} {t' : σ}
      (isOpen : s.isSealed = false)
      (evaluates : b.Evaluates s.items r.state (texts ++ s.onExit) t') :
      Outcome {
        call := .render
        before := s
        found := r
        result := .ok (some (CommandSequence.script texts s.onExit))
        after := { s with isSealed := true }
        left := {
          state := t'
          journal := r.journal ++ (lazyCommands s.items).map .evaluated } }
  | failed {s : CommandSequence} {r : Recorded σ} {first rest : List ScriptItem} {c : LazyCommand}
      {e : Error} {t' : σ} (isOpen : s.isSealed = false)
      (split : s.items = first ++ .deferred c :: rest)
      (failsAfter : b.FailsAfter first c r.state e t') :
      Outcome {
        call := .render
        before := s
        found := r
        result := .error e
        after := s
        left := {
          state := b.releasedState (lazyCommands s.items) t'
          journal := r.journal ++ (lazyCommands first ++ [c]).map .evaluated ++
            (lazyCommands s.items).map .released } }
  | refused {call : SequenceCall} {s : CommandSequence} {r : Recorded σ}
      (isSealed : s.isSealed = true) :
      Outcome {
        call
        before := s
        found := r
        result := .error (.state .sequenceRendered)
        after := s
        left := r }

variable {b} {call : SequenceCall} {s : CommandSequence} {r : Recorded σ}

/-- An open sequence takes what a call adds, and a sealed one refuses it. -/
theorem outcome_append {change : Result CommandSequence} (adds : call ≠ .render)
    (guarded : change = s.checkOpen >>= fun _ => .ok (s.grown call)) :
    b.Outcome (append call s r change) := by
  rw [guarded]
  by_cases isSealed : s.isSealed = true
  · rw [CommandSequence.checkOpen, if_pos isSealed]
    exact .refused isSealed
  · rw [Bool.not_eq_true] at isSealed
    rw [CommandSequence.checkOpen_eq_ok_iff.mpr isSealed]
    exact .appended adds isSealed

theorem outcome_addItems (items : List ScriptItem) (adds : call ≠ .render)
    (isMain : call.main = items) (noExit : call.onExit = []) :
    b.Outcome (append call s r (s.addItems items)) := by
  refine outcome_append adds ?_
  rw [CommandSequence.grown, isMain, noExit, List.append_nil]
  rfl

/-- Every call ends in one of these ways. -/
theorem outcome_perform (b : LazyBehaviour σ) (call : SequenceCall) (s : CommandSequence)
    (r : Recorded σ) : b.Outcome (b.perform call s r) := by
  cases call with
  | addCommands commands => exact outcome_addItems _ nofun rfl rfl
  | addLazy command => exact outcome_addItems _ nofun rfl rfl
  | addItems items => exact outcome_addItems _ nofun rfl rfl
  | addOnExit commands =>
    refine outcome_append nofun ?_
    rw [CommandSequence.grown, SequenceCall.main, List.append_nil]
    rfl
  | render =>
    rw [perform]
    rcases b.render_cases s r with ⟨isSealed, ran⟩ | ⟨isOpen, texts, t', evaluates, ran⟩ |
      ⟨isOpen, first, c, rest, e, t', split, failsAfter, ran⟩
    · rw [ran]
      exact .refused isSealed
    · rw [ran]
      exact .rendered isOpen evaluates
    · rw [ran]
      exact .failed isOpen split failsAfter

namespace Outcome

variable {step : SequenceStep σ}

/-- What a call adds comes behind what is there. -/
theorem items (outcome : b.Outcome step) :
    step.after.commands = step.before.commands ++ step.addedMain ∧
      step.after.onExit = step.before.onExit ++ step.addedOnExit := by
  cases outcome with
  | appended => exact ⟨rfl, rfl⟩
  | rendered => exact ⟨(List.append_nil _).symm, (List.append_nil _).symm⟩
  | failed => exact ⟨(List.append_nil _).symm, (List.append_nil _).symm⟩
  | refused => exact ⟨(List.append_nil _).symm, (List.append_nil _).symm⟩

theorem isTooLate (outcome : b.Outcome step) (isSealed : step.before.isSealed = true) :
    step.IsTooLate := by
  have notOpen : ¬ step.before.isSealed = false := by
    rw [isSealed]
    nofun
  cases outcome with
  | appended _ isOpen => exact absurd isOpen notOpen
  | rendered isOpen => exact absurd isOpen notOpen
  | failed isOpen => exact absurd isOpen notOpen
  | refused => exact ⟨rfl, rfl, rfl⟩

end Outcome

/-! ## Runs -/

section Course

variable {turns : List (SequenceTurn σ)} {step : SequenceStep σ}
  {earlier later : List (SequenceStep σ)}

theorem outcome_of_mem_course (mem : step ∈ b.course turns s r) : b.Outcome step := by
  induction turns generalizing s r with
  | nil => cases mem
  | cons turn rest ih =>
    rcases List.mem_cons.mp mem with rfl | later
    · exact outcome_perform b turn.call s _
    · exact ih later

/-- A step begins with the call that is made and with what it finds. -/
theorem begins_append (call : SequenceCall) (s : CommandSequence) (r : Recorded σ)
    (change : Result CommandSequence) :
    (append call s r change).call = call ∧ (append call s r change).before = s ∧
      (append call s r change).found = r := by
  rcases change with e | s'
  · exact ⟨rfl, rfl, rfl⟩
  · exact ⟨rfl, rfl, rfl⟩

theorem begins_perform (b : LazyBehaviour σ) (call : SequenceCall) (s : CommandSequence)
    (r : Recorded σ) :
    (b.perform call s r).call = call ∧ (b.perform call s r).before = s ∧
      (b.perform call s r).found = r := by
  cases call with
  | render =>
    rw [perform]
    rcases b.render s r with ⟨e | ⟨script, s'⟩, r'⟩
    · exact ⟨rfl, rfl, rfl⟩
    · exact ⟨rfl, rfl, rfl⟩
  | _ => exact begins_append ..

theorem before_perform (b : LazyBehaviour σ) (call : SequenceCall) (s : CommandSequence)
    (r : Recorded σ) : (b.perform call s r).before = s :=
  (begins_perform b call s r).2.1

/-- A call finds what the earlier calls added, in their order, and the calls behind it are a
run from what it left. -/
theorem course_split (split : b.course turns s r = earlier ++ step :: later) :
    step.before.commands = s.commands ++ earlier.flatMap SequenceStep.addedMain ∧
      step.before.onExit = s.onExit ++ earlier.flatMap SequenceStep.addedOnExit ∧
      ∃ rest, later = b.course rest step.after step.left := by
  induction turns generalizing s r earlier with
  | nil => cases earlier <;> cases split
  | cons turn rest ih =>
    cases earlier with
    | nil =>
      obtain ⟨rfl, rfl⟩ := List.cons.inj split
      rw [before_perform]
      exact ⟨(List.append_nil _).symm, (List.append_nil _).symm, rest, rfl⟩
    | cons first others =>
      obtain ⟨rfl, tail⟩ := List.cons.inj split
      obtain ⟨isMain, isExit, behind⟩ := ih tail
      obtain ⟨addedMain, addedOnExit⟩ := (outcome_perform b turn.call s
        { r with state := turn.meanwhile r.state }).items
      rw [before_perform] at addedMain addedOnExit
      rw [isMain, isExit, addedMain, addedOnExit, List.append_assoc, List.append_assoc]
      exact ⟨rfl, rfl, behind⟩

/-- Once a sequence is sealed, all calls come too late. -/
theorem isTooLate_of_mem_course (isSealed : s.isSealed = true)
    (mem : step ∈ b.course turns s r) : step.before = s ∧ step.IsTooLate := by
  induction turns generalizing r with
  | nil => cases mem
  | cons turn rest ih =>
    have outcome := outcome_perform b turn.call s { r with state := turn.meanwhile r.state }
    have first := outcome.isTooLate (by rw [before_perform, isSealed])
    rcases List.mem_cons.mp mem with rfl | later
    · exact ⟨before_perform .., first⟩
    · rw [first.after, before_perform] at later
      exact ih later

end Course

end LazyBehaviour

end Provisioning
