import Provisioning.Deployment.Graph

/-!
# Deployment orders

Finalizing a deployment lists its resources so that each comes after everything
it depends on.  The list is found in rounds.  Every resource that is not placed
yet has a count of its dependencies that are not placed yet; a round places all
resources whose count is zero, in path order, and takes them off the counts of
the others.  A round that can place nothing has found a cycle.
-/

namespace Provisioning

set_option autoImplicit false

/-- The resources not placed yet, in path order, each with the number of its
dependencies not placed yet. -/
abbrev Pending := List (ResourceId × Nat)

namespace Pending

/-- The resources that wait for nothing. -/
def ready (p : Pending) : List ResourceId :=
  (p.filter (·.2 = 0)).map (·.1)

/-- The resources still to place. -/
def waiting (p : Pending) : List ResourceId :=
  p.map (·.1)

/-- Places a resource: it leaves the list, and its dependents wait for one
resource less. -/
def place (d : Deployment) (p : Pending) (id : ResourceId) : Pending :=
  (p.filter (·.1 ≠ id)).map fun (other, count) =>
    if d.dependsOn other id then (other, count - 1) else (other, count)

/-- Places several resources one after another. -/
def placeAll (d : Deployment) (p : Pending) (ids : List ResourceId) : Pending :=
  ids.foldl (place d) p

theorem length_place_le (d : Deployment) (p : Pending) (id : ResourceId) :
    (place d p id).length ≤ p.length := by
  simp only [place, List.length_map]
  exact List.length_filter_le _ _

theorem length_placeAll_le (d : Deployment) (p : Pending) (ids : List ResourceId) :
    (placeAll d p ids).length ≤ p.length := by
  induction ids generalizing p with
  | nil => exact Nat.le_refl _
  | cons id rest ih => exact Nat.le_trans (ih (place d p id)) (length_place_le d p id)

/-- Placing a resource that waits makes the list shorter. -/
theorem length_place_lt (d : Deployment) {p : Pending} {id : ResourceId} (h : id ∈ p.waiting) :
    (place d p id).length < p.length := by
  obtain ⟨entry, mem, rfl⟩ := List.mem_map.mp h
  simp only [place, List.length_map]
  exact List.length_filter_lt_length_iff_exists.mpr ⟨entry, mem, by simp⟩

theorem mem_waiting_of_mem_ready {p : Pending} {id : ResourceId} (h : id ∈ p.ready) :
    id ∈ p.waiting := by
  obtain ⟨entry, mem, rfl⟩ := List.mem_map.mp h
  exact List.mem_map.mpr ⟨entry, (List.mem_filter.mp mem).1, rfl⟩

/-- A round that places something makes the list shorter. -/
theorem length_placeAll_ready_lt (d : Deployment) {p : Pending} {id : ResourceId}
    {rest : List ResourceId} (h : p.ready = id :: rest) :
    (placeAll d p (id :: rest)).length < p.length := by
  have waits : id ∈ p.waiting := mem_waiting_of_mem_ready (h ▸ List.mem_cons_self)
  exact Nat.lt_of_le_of_lt (length_placeAll_le d (place d p id) rest) (length_place_lt d waits)

/-- The resources in rounds; or those that are left when a round can place none. -/
def rounds (d : Deployment) (p : Pending) : Except (List ResourceId) (List ResourceId) :=
  match _ : p.ready with
  | [] => if p.isEmpty then .ok [] else .error p.waiting
  | id :: rest => (rounds d (placeAll d p (id :: rest))).map ((id :: rest) ++ ·)
termination_by p.length
decreasing_by exact length_placeAll_ready_lt d (by assumption)

end Pending

namespace Deployment

/-- All resources, each with the number of its dependencies. -/
def pending (d : Deployment) : Pending :=
  d.resources.keys.map fun id => (id, (d.dependenciesOf id).length)

/-- The resources in an order in which each comes after its dependencies.  Nothing
can be added to the deployment afterwards. -/
def finalize (d : Deployment) : Result (List ResourceId × Deployment) := do
  d.checkOpen
  match Pending.rounds d d.pending with
  | .ok order => pure (order, { d with isFinalized := true })
  | .error stuck => throw (.graph (.cycle stuck))

end Deployment

end Provisioning
