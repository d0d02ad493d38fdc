import Mathlib.Data.List.Forall2
import Provisioning.Proofs.Pipeline

/-!
# Tasks on a larger state

Tasks may work on a state that holds more than another one.  If they do to the part in view
what other tasks do to the state that is the part, the two take the same turns: no result
depends on what is out of view.
-/

namespace Provisioning

set_option autoImplicit false

namespace PipelineTask

variable {σ τ : Type} {view : τ → σ} {u : PipelineTask τ} {t : PipelineTask σ}
  {us : List (PipelineTask τ)} {ts : List (PipelineTask σ)} {w : τ}

/-- The first task does to what is in view what the second does to its state. -/
structure Mirrors (view : τ → σ) (u : PipelineTask τ) (t : PipelineTask σ) : Prop where
  acts : List.Forall₂ (fun f g => ∀ w, view (f w) = g (view w)) u.beforePauses t.beforePauses
  finish : ∀ w, t.finish (view w) = ((u.finish w).1, view (u.finish w).2)

theorem Mirrors.failed (_ : u.Mirrors view t) (e : Error) :
    (u.failed e).Mirrors view (t.failed e) where
  acts := .nil
  finish _ := rfl

/-- Numbered tasks mirror the tasks if each of them does, whatever its number. -/
theorem mirrors_zipIdx {f : PipelineTask σ × Nat → PipelineTask τ}
    (mirrors : ∀ e, (f e).Mirrors view e.1) (tasks : List (PipelineTask σ)) (first : Nat) :
    List.Forall₂ (Mirrors view) ((tasks.zipIdx first).map f) tasks := by
  induction tasks generalizing first with
  | nil => exact .nil
  | cons t tasks ih => exact .cons (mirrors (t, first)) (ih (first + 1))

/-! ## Taking turns -/

/-- What became of a round on the larger state, and of the same round on the smaller one. -/
inductive SameRound (view : τ → σ) : Result (List (PipelineTask τ)) × τ →
    Result (List (PipelineTask σ)) × σ → Prop where
  | left {us : List (PipelineTask τ)} {ts : List (PipelineTask σ)} (w : τ)
      (mirrors : List.Forall₂ (Mirrors view) us ts) : SameRound view (.ok us, w) (.ok ts, view w)
  | noticed (e : Error) (w : τ) : SameRound view (.error e, w) (.error e, view w)

theorem SameRound.cons {larger : Result (List (PipelineTask τ)) × τ}
    {smaller : Result (List (PipelineTask σ)) × σ} (same : SameRound view larger smaller)
    (mirrors : u.Mirrors view t) :
    SameRound view (larger.1.map (u :: ·), larger.2) (smaller.1.map (t :: ·), smaller.2) := by
  cases same with
  | left w others => exact .left w (.cons mirrors others)
  | noticed e w => exact .noticed e w

theorem sameRound_of_mirrors (mirrors : List.Forall₂ (Mirrors view) us ts) (prompt clear : Bool)
    (w : τ) :
    SameRound view (round prompt clear us w) (round prompt clear ts (view w)) := by
  induction mirrors generalizing clear w with
  | nil => exact .left w .nil
  | @cons u t us ts same _ ih =>
    have acts := same.acts
    rcases uActs : u.beforePauses with _ | ⟨f, fs⟩ <;>
      rcases tActs : t.beforePauses with _ | ⟨g, gs⟩ <;> rw [uActs, tActs] at acts
    · have ends := same.finish w
      rcases uEnds : u.finish w with ⟨e | ⟨⟩, w'⟩ <;> rw [uEnds] at ends
      · cases clear with
        | true =>
          rw [round_cons_noticed uActs uEnds, round_cons_noticed tActs ends]
          exact .noticed e w'
        | false =>
          rw [round_cons_waiting uActs uEnds, round_cons_waiting tActs ends]
          exact (ih prompt w').cons (same.failed e)
      · rw [round_cons_ok uActs uEnds, round_cons_ok tActs ends]
        exact ih clear w'
    · cases acts
    · cases acts
    · cases acts with
      | cons sameAct later =>
        rw [round_cons_pause uActs, round_cons_pause tActs, ← sameAct w]
        exact (ih prompt (f w)).cons { acts := later, finish := same.finish }

/-- Taking turns has the same result on the larger state, and what is then in view goes with
it. -/
theorem takeTurns_of_mirrors (mirrors : List.Forall₂ (Mirrors view) us ts) (prompt : Bool)
    (w : τ) :
    takeTurns prompt ts (view w) =
      ((takeTurns prompt us w).1, view (takeTurns prompt us w).2) := by
  fun_induction takeTurns prompt us w generalizing ts with
  | case1 w =>
    cases mirrors
    rw [takeTurns]
  | case2 w u us left w' ran ih =>
    cases mirrors with
    | @cons _ t _ ts same others =>
      have first := sameRound_of_mirrors (.cons same others) prompt true w
      rw [ran] at first
      rw [takeTurns]
      generalize round prompt true (t :: ts) (view w) = plain at first
      cases first with
      | left _ mirrors => exact ih mirrors
  | case3 w u us e w' ran =>
    cases mirrors with
    | @cons _ t _ ts same others =>
      have first := sameRound_of_mirrors (.cons same others) prompt true w
      rw [ran] at first
      rw [takeTurns]
      generalize round prompt true (t :: ts) (view w) = plain at first
      cases first with
      | noticed => rfl

/-! ## One after another -/

theorem run_of_mirrors (same : u.Mirrors view t) (w : τ) :
    t.run (view w) = ((u.run w).1, view (u.run w).2) := by
  have before : ∀ {fs : List (τ → τ)} {gs : List (σ → σ)},
      List.Forall₂ (fun f g => ∀ w, view (f w) = g (view w)) fs gs → ∀ w : τ,
        gs.foldl (fun s act => act s) (view w) = view (fs.foldl (fun s act => act s) w) := by
    intro fs gs acts
    induction acts with
    | nil => exact fun _ => rfl
    | @cons f g _ _ act _ ih =>
      intro w
      rw [List.foldl_cons, List.foldl_cons, ← act w]
      exact ih (f w)
  rw [run, run, before same.acts]
  exact same.finish _

theorem runInOrder_of_mirrors (mirrors : List.Forall₂ (Mirrors view) us ts) (w : τ) :
    runInOrder ts (view w) = ((runInOrder us w).1, view (runInOrder us w).2) := by
  induction mirrors generalizing w with
  | nil => rfl
  | @cons u t us ts same _ ih =>
    have first := run_of_mirrors same w
    rcases ran : u.run w with ⟨e | ⟨⟩, w'⟩ <;> rw [ran] at first
    · rw [runInOrder_cons_error first, runInOrder_cons_error ran]
    · rw [runInOrder_cons_ok first, runInOrder_cons_ok ran]
      exact ih w'

end PipelineTask

end Provisioning
