import Mathlib.Data.List.Chain
import Provisioning.Instance.StageTrail
import Provisioning.Proofs.InPlace

/-!
# Trails follow the boot

A trail takes up a stage only if it follows the current one, and the sequence of a boot goes from
each stage to the one that follows it, until none does.  What follows a stage is determined, so
the two go the same way, whatever moves are tried in between: a trail is a prefix of the
sequence, one stage longer for each move that was accepted.  The moves that are accepted are
those that keep it one, so nothing is accepted behind the last stage.
-/

namespace Provisioning

set_option autoImplicit false

universe u

/-! ## Chains of a function -/

/-- Where each member of two lists determines what follows it, and the lists begin with the same
member, one of them is a prefix of the other if nothing follows the end of the other. -/
theorem isPrefix_of_isChain {α : Type u} {next : α → Option α} {first : α} {rest full : List α}
    (chain : (first :: rest).IsChain fun a b => next a = some b)
    (fullChain : (first :: full).IsChain fun a b => next a = some b)
    (ends : ∀ last ∈ (first :: full).getLast?, next last = none) :
    first :: rest <+: first :: full := by
  induction rest generalizing first full with
  | nil => exact List.prefix_append [first] full
  | cons second others ih =>
    obtain ⟨follows, later⟩ := List.isChain_cons_cons.mp chain
    cases full with
    | nil =>
      rw [ends first rfl] at follows
      cases follows
    | cons second' others' =>
      obtain ⟨follows', later'⟩ := List.isChain_cons_cons.mp fullChain
      obtain rfl : second = second' := Option.some.inj (follows.symm.trans follows')
      rw [List.getLast?_cons_cons] at ends
      exact (List.prefix_cons_inj first).mpr (ih later later' ends)

/-! ## The sequence of a boot -/

namespace BootStage

variable {selfTerminate : Bool} {stage : BootStage}

theorem isTerminal_iff : stage.isTerminal = true ↔ stage.next selfTerminate = none := by
  cases stage <;> simp [isTerminal, next]

theorem exists_onward_eq_cons (selfTerminate : Bool) (count : Nat) (stage : BootStage) :
    ∃ rest, onward selfTerminate count stage = stage :: rest := by
  cases count with
  | zero => exact ⟨[], rfl⟩
  | succ count =>
    rw [onward]
    cases stage.next selfTerminate with
    | none => exact ⟨[], rfl⟩
    | some following => exact ⟨_, rfl⟩

/-- Going onward leads from each stage to the one that follows it. -/
theorem isChain_onward (selfTerminate : Bool) (count : Nat) (stage : BootStage) :
    (onward selfTerminate count stage).IsChain fun earlier later =>
      earlier.next selfTerminate = some later := by
  induction count generalizing stage with
  | zero => exact List.isChain_singleton stage
  | succ count ih =>
    rw [onward]
    cases follows : stage.next selfTerminate with
    | none => exact List.isChain_singleton stage
    | some following =>
      have later := ih following
      obtain ⟨rest, isOnward⟩ := exists_onward_eq_cons selfTerminate count following
      change (stage :: onward selfTerminate count following).IsChain _
      rw [isOnward] at later ⊢
      exact List.isChain_cons_cons.mpr ⟨follows, later⟩

theorem next_of_mem_getLast?_sequence (selfTerminate : Bool) :
    ∀ last ∈ (sequence selfTerminate).getLast?, last.next selfTerminate = none := by
  intro last isLast
  have terminal := isTerminal_getLast_sequence selfTerminate
  rw [Option.mem_def.mp isLast, Option.any_some] at terminal
  exact isTerminal_iff.mp terminal

/-- Stages that follow each other from the first one on are a prefix of the sequence. -/
theorem isPrefix_sequence {stages : List BootStage} (begins : stages.head? = some .pendingBoot)
    (chain : stages.IsChain fun earlier later => earlier.next selfTerminate = some later) :
    stages <+: sequence selfTerminate := by
  obtain ⟨rest, rfl⟩ := List.head?_eq_some_iff.mp begins
  obtain ⟨full, isSequence⟩ := exists_onward_eq_cons selfTerminate 4 .pendingBoot
  have fullChain := isChain_onward selfTerminate 4 .pendingBoot
  have ends := next_of_mem_getLast?_sequence selfTerminate
  rw [sequence] at ends ⊢
  rw [isSequence] at fullChain ends ⊢
  exact isPrefix_of_isChain chain fullChain ends

end BootStage

/-! ## One move -/

namespace StageTrail

variable {t t' : StageTrail} {target : BootStage} {selfTerminate : Bool}

theorem advance_of_next (follows : t.current.next t.selfTerminate = some target) :
    t.advance target = .ok { t with passed := t.stages, current := target } :=
  if_pos follows

theorem advance_eq_ok_iff :
    t.advance target = .ok t' ↔
      t.current.next t.selfTerminate = some target ∧
        t' = { t with passed := t.stages, current := target } := by
  rw [advance]
  split
  next follows => simp [follows, eq_comm]
  next refused => simp [refused]

theorem advance_eq_error_iff {e : Error} :
    t.advance target = .error e ↔
      t.current.next t.selfTerminate ≠ some target ∧
        e = .internal (.illegalTransition t.current target) := by
  rw [advance]
  split
  next follows => simp [follows]
  next refused => simp [refused, eq_comm]

/-- A move that is refused changes nothing. -/
theorem tryAdvance_of_error {e : Error} (refused : t.advance target = .error e) :
    t.tryAdvance target = t := by
  rw [tryAdvance, refused]

/-- A move that is accepted adds its stage behind the others. -/
theorem tryAdvance_of_ok (accepted : t.advance target = .ok t') :
    t.tryAdvance target = t' ∧ t'.selfTerminate = t.selfTerminate ∧
      t'.stages = t.stages ++ [target] := by
  obtain ⟨_, rfl⟩ := advance_eq_ok_iff.mp accepted
  exact ⟨by rw [tryAdvance, accepted], rfl, rfl⟩

/-- Moves to a stage, step by step. -/
def moveSteps (target : BootStage) : InPlace StageTrail Unit := do
  let t ← get
  InPlace.refuse (t.current.next t.selfTerminate ≠ some target)
    (.internal (.illegalTransition t.current target))
  modify fun t => { t with passed := t.stages, current := target }

/-- Carried out in steps, a move comes to the same. -/
theorem moveSteps_on (t : StageTrail) (target : BootStage) :
    (moveSteps target).on t = ((t.advance target).map fun _ => (), t.tryAdvance target) := by
  rw [moveSteps, InPlace.on_bind_of_ok (InPlace.on_get t)]
  by_cases follows : t.current.next t.selfTerminate = some target
  · have accepted := advance_of_next follows
    rw [InPlace.on_bind_of_ok (InPlace.on_refuse_of_neg (not_not_intro follows) _ t),
      InPlace.on_modify, accepted, (tryAdvance_of_ok accepted).1]
    rfl
  · have refused := advance_eq_error_iff.mpr ⟨follows, rfl⟩
    rw [InPlace.on_bind_of_error (InPlace.on_refuse_of_pos follows _ t), refused,
      tryAdvance_of_error refused]
    rfl

/-- The stages of a trail follow each other from the beginning of the boot on. -/
structure IsLegal (selfTerminate : Bool) (t : StageTrail) : Prop where
  kind : t.selfTerminate = selfTerminate
  begins : t.stages.head? = some .pendingBoot
  chain : t.stages.IsChain fun earlier later => earlier.next selfTerminate = some later

namespace IsLegal

theorem start (selfTerminate : Bool) : (start selfTerminate).IsLegal selfTerminate where
  kind := rfl
  begins := rfl
  chain := List.isChain_singleton _

/-- **A move keeps a trail legal**, whether it is accepted or refused. -/
theorem tryAdvance (legal : t.IsLegal selfTerminate) (target : BootStage) :
    (t.tryAdvance target).IsLegal selfTerminate := by
  cases moved : t.advance target with
  | error e =>
    rw [tryAdvance_of_error moved]
    exact legal
  | ok t' =>
    obtain ⟨follows, _⟩ := advance_eq_ok_iff.mp moved
    obtain ⟨isNew, kind, stages⟩ := tryAdvance_of_ok moved
    rw [isNew]
    refine ⟨kind.trans legal.kind, ?_, ?_⟩
    · rw [stages, List.head?_append, legal.begins, Option.some_or]
    · have last : t.stages.getLast? = some t.current := List.getLast?_concat
      rw [stages]
      refine legal.chain.append (List.isChain_singleton target)
        fun earlier isLast later isHead => ?_
      obtain rfl := Option.some.inj (last.symm.trans isLast)
      obtain rfl := Option.some.inj isHead
      rw [← legal.kind]
      exact follows

theorem isPrefix (legal : t.IsLegal selfTerminate) :
    t.stages <+: BootStage.sequence selfTerminate :=
  BootStage.isPrefix_sequence legal.begins legal.chain

/-- A move is accepted when the sequence goes on with its stage. -/
theorem toBool_advance_iff (legal : t.IsLegal selfTerminate) :
    (t.advance target).toBool = true ↔
      t.stages ++ [target] <+: BootStage.sequence selfTerminate := by
  constructor
  · intro accepted
    cases moved : t.advance target with
    | error e =>
      rw [moved] at accepted
      cases accepted
    | ok t' =>
      obtain ⟨isNew, _, stages⟩ := tryAdvance_of_ok moved
      rw [← stages, ← isNew]
      exact (legal.tryAdvance target).isPrefix
  · intro goesOn
    obtain ⟨behind, whole⟩ := goesOn
    have chain := BootStage.isChain_onward selfTerminate 4 .pendingBoot
    rw [← BootStage.sequence, ← whole, stages, List.append_assoc, List.append_assoc] at chain
    have follows := (List.isChain_cons_cons.mp chain.right_of_append).1
    rw [← legal.kind] at follows
    rw [advance_of_next follows]
    rfl

/-- Something follows every stage but the current one. -/
theorem eq_current_of_isTerminal (legal : t.IsLegal selfTerminate) {stage : BootStage}
    (mem : stage ∈ t.stages) (terminal : stage.isTerminal = true) : stage = t.current := by
  rcases List.mem_append.mp mem with earlier | last
  · obtain ⟨before, behind, isPassed⟩ := List.append_of_mem earlier
    have chain := legal.chain
    rw [stages, isPassed, List.append_assoc, List.cons_append] at chain
    have follows := chain.right_of_append.rel_head?
    cases behind with
    | nil =>
      rw [BootStage.isTerminal_iff.mp terminal] at follows
      cases follows rfl
    | cons following others =>
      rw [BootStage.isTerminal_iff.mp terminal] at follows
      cases follows rfl
  · exact List.mem_singleton.mp last

end IsLegal

/-! ## Many moves -/

/-- How several moves are answered that are tried one after another. -/
def answers (t : StageTrail) : List BootStage → List (Result Unit)
  | [] => []
  | target :: rest => (t.advance target).map (fun _ => ()) :: (t.tryAdvance target).answers rest

/-- The trail after several moves were tried one after another. -/
def after (t : StageTrail) (targets : List BootStage) : StageTrail :=
  (t.tryAll targets).getLastD t

@[simp] theorem after_nil (t : StageTrail) : t.after [] = t := rfl

@[simp] theorem after_cons (t : StageTrail) (target : BootStage) (rest : List BootStage) :
    t.after (target :: rest) = (t.tryAdvance target).after rest := by
  rw [after, tryAll, List.getLastD_cons, after]

/-- **Moves keep a trail legal.** -/
theorem IsLegal.after (legal : t.IsLegal selfTerminate) (targets : List BootStage) :
    (t.after targets).IsLegal selfTerminate := by
  induction targets generalizing t with
  | nil => exact legal
  | cons target rest ih =>
    rw [after_cons]
    exact ih (legal.tryAdvance target)

/-- A trail grows by one stage with each move that is accepted. -/
theorem length_stages_after (t : StageTrail) (targets : List BootStage) :
    (t.after targets).stages.length = t.stages.length + (t.answers targets).countP (·.toBool) := by
  induction targets generalizing t with
  | nil => rfl
  | cons target rest ih =>
    rw [after_cons, ih, answers]
    cases moved : t.advance target with
    | error e =>
      rw [tryAdvance_of_error moved]
      rfl
    | ok t' =>
      obtain ⟨isNew, _, stages⟩ := tryAdvance_of_ok moved
      rw [isNew, stages, List.length_append, List.length_singleton, Except.map,
        List.countP_cons_of_pos rfl]
      omega

/-- At a terminal stage every move is refused, and the trail stays as it is. -/
theorem after_of_isTerminal (terminal : t.current.isTerminal = true) (targets : List BootStage) :
    t.after targets = t ∧ ∀ answer ∈ t.answers targets, answer.toBool = false := by
  induction targets with
  | nil => exact ⟨rfl, nofun⟩
  | cons target rest ih =>
    have refused : t.advance target = .error (.internal (.illegalTransition t.current target)) := by
      refine advance_eq_error_iff.mpr ⟨?_, rfl⟩
      rw [BootStage.isTerminal_iff.mp terminal]
      exact nofun
    have same := tryAdvance_of_error refused
    obtain ⟨stays, allRefused⟩ := ih
    rw [after_cons, answers, same, refused]
    exact ⟨stays, List.forall_mem_cons.mpr ⟨rfl, allRefused⟩⟩

/-- **A trail records the boot sequence and nothing else.**  Whatever moves were tried, the trail
is a non-empty prefix of the sequence, with one stage more than moves were accepted.  The next
move is accepted exactly when the sequence goes on with its stage; one that is refused changes
nothing, not even when it is carried out in steps; and once a terminal stage is recorded, all
further moves are refused. -/
theorem records_boot_sequence (selfTerminate : Bool) (targets : List BootStage) :
    let t := (start selfTerminate).after targets
    t.stages ≠ [] ∧ t.stages <+: BootStage.sequence selfTerminate ∧
    t.stages.length = 1 + ((start selfTerminate).answers targets).countP (·.toBool) ∧
    (∀ target, (t.advance target).toBool = true ↔
      t.stages ++ [target] <+: BootStage.sequence selfTerminate) ∧
    (∀ target e, t.advance target = .error e →
      t.tryAdvance target = t ∧ (moveSteps target).on t = (.error e, t) ∧
        e = .internal (.illegalTransition t.current target)) ∧
    ∀ stage ∈ t.stages, stage.isTerminal = true → ∀ more,
      t.after more = t ∧ ∀ answer ∈ t.answers more, answer.toBool = false := by
  intro t
  have legal : t.IsLegal selfTerminate := (IsLegal.start selfTerminate).after targets
  refine ⟨?_, legal.isPrefix, length_stages_after _ targets, fun target => legal.toBool_advance_iff,
    fun target e refused => ?_, fun stage mem terminal more => ?_⟩
  · intro none
    have begins := legal.begins
    rw [none] at begins
    cases begins
  · have unchanged := tryAdvance_of_error refused
    refine ⟨unchanged, ?_, (advance_eq_error_iff.mp refused).2⟩
    rw [moveSteps_on, refused, unchanged]
    rfl
  · rw [legal.eq_current_of_isTerminal mem terminal] at terminal
    exact after_of_isTerminal terminal more

/-- A boot to the end, with a stage that is skipped at first. -/
def skippingMoves : List BootStage :=
  [.taskExecuting, .loggingConfigured, .taskExecuting, .signaled, .terminating]

theorem records_boot_sequence_skipping :
    let t := (start true).after skippingMoves
    t.stages = BootStage.sequence true ∧
    t.stages.length = 1 + ((start true).answers skippingMoves).countP (·.toBool) ∧
      ((start true).answers skippingMoves).countP (·.toBool) = 4 ∧
    ((t.advance .idle).toBool = true ↔ t.stages ++ [.idle] <+: BootStage.sequence true) ∧
    t.advance .idle = .error (.internal (.illegalTransition .terminating .idle)) ∧
      t.tryAdvance .idle = t ∧
    BootStage.terminating ∈ t.stages ∧ BootStage.terminating.isTerminal = true ∧
      t.after [.idle, .loggingConfigured] = t := by
  intro t
  obtain ⟨_, goesOn, count, accepts, refuses, ends⟩ := records_boot_sequence true skippingMoves
  have refused : t.advance .idle = .error (.internal (.illegalTransition .terminating .idle)) := by
    decide +kernel
  have mem : BootStage.terminating ∈ t.stages := by decide +kernel
  have whole : t.stages.length = (BootStage.sequence true).length := by decide +kernel
  exact ⟨goesOn.eq_of_length whole, count, by decide +kernel, accepts .idle, refused,
    (refuses .idle _ refused).1, mem, rfl,
    (ends .terminating mem rfl [.idle, .loggingConfigured]).1⟩

end StageTrail

end Provisioning
