import Provisioning.Proofs.Script.Sequence
import Provisioning.World

/-!
# Operations one at a time

An operation looks up what it refers to, tries a change, and either takes it over or
leaves the world as it was.  The lemmas here take this apart once, for all kinds of
operations.
-/

namespace Provisioning

set_option autoImplicit false

namespace World

variable {w : World} {id other : InstanceId} {i j : ProvisioningInstance}

/-! ## Trying a change -/

/-- What holds of a change that is taken over, and of the world as it was if the change
fails, holds of the outcome. -/
theorem settle_elim {α : Type} {P : Answer × World → Prop} {change : Result α}
    {accept : α → Answer × World}
    (onError : ∀ e, change = .error e → P ({ result := .error e }, w))
    (onOk : ∀ a, change = .ok a → P (accept a)) : P (w.settle change accept) := by
  match changed : change with
  | .error e => exact onError e rfl
  | .ok a => exact onOk a rfl

/-! ## Looking up -/

theorem findInstance?_setInstance_self (found : w.findInstance? id = some i) :
    (w.setInstance id j).findInstance? id = some j := by
  obtain ⟨within, _⟩ := List.getElem?_eq_some_iff.mp found
  exact List.getElem?_set_self within

theorem findInstance?_setInstance_of_ne (differ : other ≠ id) :
    (w.setInstance id j).findInstance? other = w.findInstance? other := by
  refine List.getElem?_set_ne fun same => ?_
  cases id
  cases other
  cases same
  exact differ rfl

theorem apply_render (found : w.findInstance? id = some i) :
    w.apply (.onInstance id .render) = w.renderInstance id i := by
  rw [apply, found]
  rfl

/-- A render that does not fail is answered with the artifacts. -/
theorem exists_rendered_of_toBool
    (accepted : (w.renderInstance id i).1.result.toBool = true) :
    ∃ artifacts, (w.renderInstance id i).1.result = .ok (.rendered artifacts) := by
  rw [renderInstance] at accepted ⊢
  rcases outcome : (i.render w.deployment w.environment).result with e | ⟨artifacts, j⟩
  · rw [outcome] at accepted
    cases accepted
  · exact ⟨artifacts, rfl⟩

/-! ## Runs -/

theorem run_cons (w : World) (operation : Operation) (rest : List Operation) :
    w.run (operation :: rest) =
      ((w.apply operation).1 :: ((w.apply operation).2.run rest).1,
        ((w.apply operation).2.run rest).2) := rfl

end World

/-! ## Operations that have nothing to do with a store -/

/-- The operation brings no registration command of the store into an instance. -/
def InstanceOperation.Spares (id : StoreId) : InstanceOperation → Prop
  | .addSetup items => ∀ item ∈ items, item.Spares id
  | _ => True

/-- The operation brings no registration command of the store into a sequence. -/
def SequenceOperation.Spares (id : StoreId) : SequenceOperation → Prop
  | .addItems items => ∀ item ∈ items, item.Spares id
  | _ => True

/-- The operation neither brings a registration command of the store into anything nor
evaluates or releases one.  It may register in the store. -/
def Operation.Spares (id : StoreId) : Operation → Prop
  | .evaluate command => command.Spares id
  | .release command => command.Spares id
  | .onInstance _ operation => operation.Spares id
  | .onSequence _ operation => operation.Spares id
  | _ => True

/-- Nothing in the world holds a registration command of the store. -/
structure World.Spares (w : World) (id : StoreId) : Prop where
  instances : ∀ i ∈ w.instances, ∀ item ∈ i.setup, item.Spares id
  sequences : ∀ g ∈ w.sequences, ∀ item ∈ g.sequence.commands, item.Spares id

end Provisioning
