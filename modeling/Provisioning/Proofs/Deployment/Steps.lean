import Provisioning.Deployment.Order
import Provisioning.Proofs.Deployment.Graph
import Provisioning.Proofs.InPlace

/-!
# Calls on the graph in steps

The graph of a deployment is shared, so a call on it is carried out in place.  A resource is
entered before it is known whether it was there, and a dependent gets its entry before the
dependency is put into it; finalizing reads the whole graph before it closes it.  Each call
comes to what it yields as a whole, and one that fails leaves the graph as it found it.
-/

namespace Provisioning

set_option autoImplicit false

namespace Deployment

open InPlace (refuse on_bind_of_ok on_bind_of_error on_lift on_get on_pure on_modify on_modifyGet
  on_refuse_of_pos on_refuse_of_neg)

variable {d : Deployment} {id dependent dependency : ResourceId}

/-! ## Declaring a resource -/

/-- Enters a resource, and tells whether it is a new one. -/
def enterResource (id : ResourceId) : InPlace Deployment Bool :=
  modifyGet fun d => (!d.declares id, { d with resources := SortedSet.add d.resources id })

/-- Declares a resource, step by step. -/
def declareSteps (path : String) : InPlace Deployment ResourceId := do
  refuse (ResourceId.isValidPath path = false) (.config (.invalidResourcePath path))
  (← get).checkOpen
  let isNew ← enterResource ⟨path⟩
  refuse (isNew = false) (.graph (.repeatedResource ⟨path⟩))
  pure ⟨path⟩

/-- A resource that was there already is not entered a second time. -/
theorem enterResource_on_of_declares (declared : d.declares id = true) :
    (enterResource id).on d = (.ok false, d) := by
  rw [enterResource, on_modifyGet, declared, SortedMap.add_of_contains declared]
  rfl

theorem enterResource_on_of_new (isNew : d.declares id = false) :
    (enterResource id).on d =
      (.ok true, { d with resources := SortedSet.add d.resources id }) := by
  rw [enterResource, on_modifyGet, isNew]
  rfl

/-- Carried out in steps, a declaration comes to the same. -/
theorem declareSteps_on (d : Deployment) (path : String) :
    (declareSteps path).on d = InPlace.settled (d.addResource path) d := by
  rw [declareSteps, addResource]
  cases valid : ResourceId.isValidPath path with
  | false =>
    rw [on_bind_of_error (on_refuse_of_pos rfl _ d)]
    rfl
  | true =>
    rw [on_bind_of_ok (on_refuse_of_neg Bool.noConfusion _ d), on_bind_of_ok (on_get d)]
    rcases isOpen : d.checkOpen with e | ⟨⟩
    · rw [on_bind_of_error (on_lift _ d)]
      rfl
    · rw [on_bind_of_ok (on_lift _ d)]
      cases declared : d.declares ⟨path⟩ with
      | true =>
        rw [on_bind_of_ok (enterResource_on_of_declares declared),
          on_bind_of_error (on_refuse_of_pos rfl _ d)]
        simp only [Bool.not_true, Bool.false_eq_true, if_false, Result.ok_bind, declared, if_true]
        rfl
      | false =>
        rw [on_bind_of_ok (enterResource_on_of_new declared),
          on_bind_of_ok (on_refuse_of_neg Bool.noConfusion _ _), on_pure]
        simp only [Bool.not_true, Bool.false_eq_true, if_false, Result.ok_bind, declared]
        rfl

/-! ## Adding a dependency -/

/-- The graph in which a resource has an entry for what it depends on. -/
def withEntry (d : Deployment) (dependent : ResourceId) : Deployment :=
  { d with edges := d.edges.insert dependent (d.dependencySet dependent) }

/-- The graph in which something is put into the entry of a resource. -/
def withDependency (d : Deployment) (dependent dependency : ResourceId) : Deployment :=
  { d with
    edges := d.edges.insert dependent (SortedSet.add (d.dependencySet dependent) dependency) }

/-- Orders a dependent after a dependency, step by step. -/
def orderSteps (dependent dependency : ResourceId) : InPlace Deployment Unit := do
  (← get).checkOpen
  (← get).checkDeclared dependent
  (← get).checkDeclared dependency
  refuse (dependent = dependency) (.graph (.selfDependency dependent))
  modify (·.withEntry dependent)
  modify (·.withDependency dependent dependency)

/-- It makes no difference that the entry is made first. -/
theorem withDependency_withEntry (d : Deployment) (dependent dependency : ResourceId) :
    (d.withEntry dependent).withDependency dependent dependency =
      d.withDependency dependent dependency := by
  rw [withDependency, dependencySet, withEntry, SortedMap.get?_insert_self, Option.getD_some,
    SortedMap.insert_insert_self, withDependency]

/-- Carried out in steps, the addition of a dependency comes to the same. -/
theorem orderSteps_on (d : Deployment) (dependent dependency : ResourceId) :
    (orderSteps dependent dependency).on d =
      InPlace.settled ((d.addDependency dependent dependency).map fun d' => ((), d')) d := by
  rw [orderSteps, addDependency, on_bind_of_ok (on_get d)]
  rcases isOpen : d.checkOpen with e | ⟨⟩
  · rw [on_bind_of_error (on_lift _ d)]
    rfl
  rw [on_bind_of_ok (on_lift _ d), on_bind_of_ok (on_get d)]
  rcases first : d.checkDeclared dependent with e | ⟨⟩
  · rw [on_bind_of_error (on_lift _ d)]
    rfl
  rw [on_bind_of_ok (on_lift _ d), on_bind_of_ok (on_get d)]
  rcases second : d.checkDeclared dependency with e | ⟨⟩
  · rw [on_bind_of_error (on_lift _ d)]
    rfl
  rw [on_bind_of_ok (on_lift _ d)]
  by_cases same : dependent = dependency
  · rw [on_bind_of_error (on_refuse_of_pos same _ d)]
    simp only [Result.ok_bind, if_pos same]
    rfl
  · rw [on_bind_of_ok (on_refuse_of_neg same _ d), on_bind_of_ok (on_modify _ d), on_modify,
      withDependency_withEntry]
    simp only [Result.ok_bind, if_neg same]
    rfl

/-! ## Finalizing -/

/-- The resources in rounds, or the cycle that keeps some of them from being placed. -/
def placed (d : Deployment) : Result (List ResourceId) :=
  (Pending.rounds d d.pending).mapError fun stuck => .graph (.cycle stuck)

/-- Finalizes the deployment, step by step. -/
def finalizeSteps : InPlace Deployment (List ResourceId) := do
  (← get).checkOpen
  let order ← (← get).placed
  modify ({ · with isFinalized := true })
  pure order

theorem finalize_eq (d : Deployment) :
    d.finalize = d.checkOpen >>= fun _ =>
      d.placed.map fun order => (order, { d with isFinalized := true }) := by
  rw [finalize, placed]
  cases Pending.rounds d d.pending with
  | error stuck => rfl
  | ok order => rfl

/-- Carried out in steps, finalizing comes to the same. -/
theorem finalizeSteps_on (d : Deployment) :
    finalizeSteps.on d = InPlace.settled d.finalize d := by
  rw [finalizeSteps, finalize_eq, on_bind_of_ok (on_get d)]
  rcases isOpen : d.checkOpen with e | ⟨⟩
  · rw [on_bind_of_error (on_lift _ d)]
    rfl
  rw [on_bind_of_ok (on_lift _ d), on_bind_of_ok (on_get d)]
  rcases isPlaced : d.placed with e | order
  · rw [on_bind_of_error (on_lift _ d)]
    rfl
  · rw [on_bind_of_ok (on_lift _ d), on_bind_of_ok (on_modify _ d), on_pure]
    rfl

end Deployment

end Provisioning
