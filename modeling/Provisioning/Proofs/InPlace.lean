import Provisioning.Error

/-!
# Changes made in place

An operation of the library yields what it changed at its end, so one that fails has
changed nothing.  Where a state is shared, an operation is carried out in steps, and what
a step wrote stays there when a later step fails.  A program of such steps has to earn its
atomicity: what can fail comes before what changes something.
-/

namespace Provisioning

set_option autoImplicit false

/-- A program of steps that may change a state and may fail.  A step that fails ends the
program, and the state stays as it is at that moment. -/
abbrev InPlace (σ α : Type) : Type := ExceptT Error (StateM σ) α

namespace InPlace

variable {σ α β : Type}

/-- What a program comes to, and the state that it leaves. -/
def on (program : InPlace σ α) (s : σ) : Result α × σ :=
  program.run.run s

/-- The new state if there is one, and the state as it was otherwise. -/
def settled (change : Result (α × σ)) (s : σ) : Result α × σ :=
  match change with
  | .ok (a, s') => (.ok a, s')
  | .error e => (.error e, s)

/-- Carries out a program on a part of the state. -/
def onPart {τ : Type} (part : σ → τ) (replace : σ → τ → σ) (program : InPlace τ α) : InPlace σ α :=
  ExceptT.mk fun s => ((program.on (part s)).1, replace s (program.on (part s)).2)

/-- Ends the program with an error if a condition holds. -/
def refuse (condition : Prop) [Decidable condition] (e : Error) : InPlace σ Unit :=
  if condition then throw e else pure ()

/-! ## Steps -/

variable {program : InPlace σ α} {next : α → InPlace σ β} {s s' : σ} {a : α} {e : Error}

/-- After a step that succeeds the program goes on in the state that the step left. -/
theorem on_bind_of_ok (ran : program.on s = (.ok a, s')) :
    (program >>= next).on s = (next a).on s' := by
  change (match program.on s with
    | (result, s') => (ExceptT.bindCont next result).run s') = _
  rw [ran]
  rfl

/-- A step that fails ends the program. -/
theorem on_bind_of_error (ran : program.on s = (.error e, s')) :
    (program >>= next).on s = (.error e, s') := by
  change (match program.on s with
    | (result, s') => (ExceptT.bindCont next result).run s') = _
  rw [ran]
  rfl

/-- A step that only computes something leaves the state as it is. -/
@[simp] theorem on_lift (result : Result α) (s : σ) :
    (liftM result : InPlace σ α).on s = (result, s) := rfl

@[simp] theorem on_pure (a : α) (s : σ) : (pure a : InPlace σ α).on s = (.ok a, s) := rfl

@[simp] theorem on_get (s : σ) : (get : InPlace σ σ).on s = (.ok s, s) := rfl

@[simp] theorem on_modify (f : σ → σ) (s : σ) :
    (modify f : InPlace σ PUnit).on s = (.ok ⟨⟩, f s) := rfl

@[simp] theorem on_modifyGet (f : σ → α × σ) (s : σ) :
    (modifyGet f : InPlace σ α).on s = (.ok (f s).1, (f s).2) := rfl

@[simp] theorem on_onPart {τ : Type} (part : σ → τ) (replace : σ → τ → σ) (program : InPlace τ α)
    (s : σ) : (program.onPart part replace).on s =
      ((program.on (part s)).1, replace s (program.on (part s)).2) := rfl

/-- Only the value is another one when a function is applied to it at the end. -/
theorem on_return_of_settled {change : Result (α × σ)} {f : α → β}
    (ran : program.on s = settled change s) :
    (do return f (← program) : InPlace σ β).on s =
      settled (change.map fun (a, s') => (f a, s')) s := by
  rcases change with e | ⟨a, s'⟩
  · exact on_bind_of_error ran
  · exact on_bind_of_ok ran

section Refusal

variable {condition : Prop} [Decidable condition]

theorem on_refuse_of_pos (refused : condition) (e : Error) (s : σ) :
    (refuse condition e).on s = (.error e, s) := by
  rw [refuse, if_pos refused]
  rfl

theorem on_refuse_of_neg (passed : ¬ condition) (e : Error) (s : σ) :
    (refuse condition e).on s = (.ok (), s) := by
  rw [refuse, if_neg passed, on_pure]

end Refusal

end InPlace

end Provisioning
