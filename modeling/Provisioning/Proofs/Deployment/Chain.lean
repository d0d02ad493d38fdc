import Mathlib.Data.List.Chain
import Mathlib.Order.Bounds.Basic
import Provisioning.Proofs.Deployment.Graph

/-!
# Chains of dependencies

A chain starts at a resource and goes from each resource to one that it directly
depends on.  The height of a resource is the length of its longest chain, and a
resource has a height unless a cycle can be reached from it.  A deployment has
finitely many resources, so a chain that is long enough passes through one of them
twice, and then it has found a cycle.
-/

namespace Provisioning

set_option autoImplicit false

namespace Deployment

variable {d : Deployment} {id dependency : ResourceId} {n : Nat}

/-! ## Chains -/

/-- There is a chain of the given length that starts at a resource. -/
def HasChain (d : Deployment) (id : ResourceId) (length : Nat) : Prop :=
  ∃ below : List ResourceId, below.length = length ∧ (id :: below).IsChain d.DependsOn

/-- The resource itself is a chain of length zero. -/
theorem hasChain_zero (d : Deployment) (id : ResourceId) : d.HasChain id 0 :=
  ⟨[], rfl, .singleton id⟩

/-- A longer chain goes on from something that the resource depends on. -/
theorem hasChain_succ_iff :
    d.HasChain id (n + 1) ↔ ∃ dependency, d.DependsOn id dependency ∧ d.HasChain dependency n := by
  constructor
  · rintro ⟨below, length, chain⟩
    cases below with
    | nil => cases length
    | cons dependency rest =>
      obtain ⟨depends, later⟩ := List.isChain_cons_cons.mp chain
      exact ⟨dependency, depends, rest, Nat.succ.inj length, later⟩
  · rintro ⟨dependency, depends, rest, length, later⟩
    exact ⟨dependency :: rest, congrArg (· + 1) length, List.isChain_cons_cons.mpr ⟨depends, later⟩⟩

/-- A chain that is cut short is a chain. -/
theorem HasChain.of_succ (chain : d.HasChain id (n + 1)) : d.HasChain id n := by
  induction n generalizing id with
  | zero => exact hasChain_zero d id
  | succ n ih =>
    obtain ⟨dependency, depends, later⟩ := hasChain_succ_iff.mp chain
    exact hasChain_succ_iff.mpr ⟨dependency, depends, ih later⟩

theorem HasChain.of_le {m : Nat} (chain : d.HasChain id n) (le : m ≤ n) : d.HasChain id m := by
  induction le with
  | refl => exact chain
  | step _ ih => exact ih chain.of_succ

/-! ## Heights -/

/-- The longest chain that starts at a resource has the given length. -/
def HasHeight (d : Deployment) (id : ResourceId) (height : Nat) : Prop :=
  IsGreatest {length | d.HasChain id length} height

/-- A height is where the chains end. -/
theorem hasHeight_iff : d.HasHeight id n ↔ d.HasChain id n ∧ ¬ d.HasChain id (n + 1) := by
  constructor
  · rintro ⟨chain, longest⟩
    exact ⟨chain, fun longer => Nat.not_succ_le_self n (longest longer)⟩
  · rintro ⟨chain, ends⟩
    refine ⟨chain, ?_⟩
    intro m longer
    by_contra more
    exact ends (HasChain.of_le longer (Nat.not_le.mp more))

theorem HasHeight.unique {m : Nat} (first : d.HasHeight id m) (second : d.HasHeight id n) :
    m = n :=
  IsGreatest.unique first second

/-- A resource is higher than everything it depends on, directly or not. -/
theorem HasHeight.lt_of_transGen {m : Nat} {other : ResourceId} (height : d.HasHeight id n)
    (depends : Relation.TransGen d.DependsOn id other) (lower : d.HasHeight other m) : m < n := by
  have longer : d.HasChain id (m + 1) := by
    clear height
    induction depends using Relation.TransGen.head_induction_on with
    | single step => exact hasChain_succ_iff.mpr ⟨other, step, lower.1⟩
    | head step _ ih => exact (hasChain_succ_iff.mpr ⟨_, step, ih⟩).of_succ
  exact height.2 longer

/-! ## Cycles -/

/-- A cycle can be reached from a resource along dependencies. -/
def ReachesCycle (d : Deployment) (id : ResourceId) : Prop :=
  ∃ turn, Relation.ReflTransGen d.DependsOn id turn ∧ Relation.TransGen d.DependsOn turn turn

/-- Whoever reaches a cycle depends on something that reaches it. -/
theorem ReachesCycle.exists_dependency (reaches : d.ReachesCycle id) :
    ∃ dependency, d.DependsOn id dependency ∧ d.ReachesCycle dependency := by
  obtain ⟨turn, path, cycle⟩ := reaches
  rcases Relation.ReflTransGen.cases_head path with rfl | ⟨dependency, depends, rest⟩
  · obtain ⟨dependency, depends, rest⟩ := Relation.TransGen.head'_iff.mp cycle
    exact ⟨dependency, depends, id, rest, cycle⟩
  · exact ⟨dependency, depends, turn, rest, cycle⟩

/-- On the way to a cycle and around it there are chains of every length. -/
theorem ReachesCycle.hasChain (reaches : d.ReachesCycle id) (n : Nat) : d.HasChain id n := by
  induction n generalizing id with
  | zero => exact hasChain_zero d id
  | succ n ih =>
    obtain ⟨dependency, depends, next⟩ := reaches.exists_dependency
    exact hasChain_succ_iff.mpr ⟨dependency, depends, ih next⟩

/-- A chain with more dependencies than there are resources has reached a cycle. -/
theorem WellJoined.reachesCycle_of_hasChain (joined : d.WellJoined)
    (chain : d.HasChain id (d.resources.keys.length + 1)) : d.ReachesCycle id := by
  obtain ⟨below, length, linked⟩ := chain
  have ordered : (id :: below).Pairwise (Relation.TransGen d.DependsOn) :=
    (linked.imp fun _ _ step => Relation.TransGen.single step).pairwise
  obtain ⟨fromStart, later⟩ := List.pairwise_cons.mp ordered
  by_contra safe
  -- A resource that stands twice in the chain would depend on itself.
  have nodup : below.Nodup := by
    refine List.Pairwise.imp_of_mem ?_ later
    rintro first second mem _ depends rfl
    exact safe ⟨first, (fromStart first mem).to_reflTransGen, depends⟩
  have declared : below ⊆ d.resources.keys := by
    intro resource mem
    obtain ⟨_, _, last⟩ := Relation.TransGen.tail'_iff.mp (fromStart resource mem)
    exact mem_resources_iff.mpr (joined.declares_dependency last)
  have atMost : below.length ≤ d.resources.keys.length :=
    (List.subperm_of_subset nodup declared).length_le
  omega

/-- A cycle can be reached exactly from where chains have no end. -/
theorem WellJoined.reachesCycle_iff (joined : d.WellJoined) :
    d.ReachesCycle id ↔ ∀ n, d.HasChain id n :=
  ⟨fun reaches n => reaches.hasChain n, fun endless => joined.reachesCycle_of_hasChain (endless _)⟩

/-- A resource with a height reaches no cycle. -/
theorem HasHeight.not_reachesCycle (height : d.HasHeight id n) : ¬ d.ReachesCycle id :=
  fun reaches => (hasHeight_iff.mp height).2 (reaches.hasChain (n + 1))

end Deployment

end Provisioning
