import Mathlib.Logic.Relation
import Provisioning.Deployment.Graph
import Provisioning.Proofs.Result
import Provisioning.Proofs.SortedMap

/-!
# What a deployment graph can be

Resources and dependencies are only ever added, and a dependency is added only
between two distinct resources that were declared before.  So in every state that
adding can bring about, the two ends of a dependency are distinct resources of the
deployment.
-/

namespace Provisioning

set_option autoImplicit false

namespace Deployment

variable {d d' : Deployment} {path : String} {id other dependent dependency : ResourceId}

/-! ## Reading the graph -/

/-- One resource directly depends on another. -/
def DependsOn (d : Deployment) (dependent dependency : ResourceId) : Prop :=
  d.dependsOn dependent dependency = true

instance (d : Deployment) (dependent dependency : ResourceId) :
    Decidable (d.DependsOn dependent dependency) :=
  inferInstanceAs (Decidable (_ = true))

theorem mem_resources_iff : id ∈ d.resources.keys ↔ d.declares id = true :=
  SortedMap.contains_iff_mem_keys.symm

theorem mem_dependenciesOf_iff : dependency ∈ d.dependenciesOf dependent ↔
    d.DependsOn dependent dependency :=
  SortedMap.contains_iff_mem_keys.symm

theorem nodup_dependenciesOf (d : Deployment) (id : ResourceId) : (d.dependenciesOf id).Nodup :=
  (d.dependencySet id).nodup_keys

/-! ## Adding -/

theorem checkOpen_eq_ok_iff : d.checkOpen = .ok () ↔ d.isFinalized = false := by
  rw [checkOpen, Result.refuse_eq_ok_iff, Bool.not_eq_true]

theorem checkDeclared_eq_ok_iff : d.checkDeclared id = .ok () ↔ d.declares id = true := by
  rw [checkDeclared, Result.require_eq_ok_iff]

/-- A resource is declared when its path is well formed and new and the deployment is open. -/
theorem addResource_eq_ok_iff :
    d.addResource path = .ok (id, d') ↔
      ResourceId.isValidPath path = true ∧ d.isFinalized = false ∧ d.declares ⟨path⟩ = false ∧
        id = ⟨path⟩ ∧ d' = { d with resources := SortedSet.add d.resources ⟨path⟩ } := by
  rw [addResource, Result.refuse_bind_eq_ok_iff, Result.check_bind_eq_ok_iff,
    checkOpen_eq_ok_iff, Result.refuse_bind_eq_ok_iff, Bool.not_eq_true', Bool.not_eq_false,
    Bool.not_eq_true]
  constructor
  · rintro ⟨valid, isOpen, isNew, same⟩
    cases same
    exact ⟨valid, isOpen, isNew, rfl, rfl⟩
  · rintro ⟨valid, isOpen, isNew, rfl, rfl⟩
    exact ⟨valid, isOpen, isNew, rfl⟩

/-- A dependency is added between two distinct declared resources of an open deployment. -/
theorem addDependency_eq_ok_iff :
    d.addDependency dependent dependency = .ok d' ↔
      d.isFinalized = false ∧ d.declares dependent = true ∧ d.declares dependency = true ∧
        dependent ≠ dependency ∧
        d' = { d with
          edges := d.edges.insert dependent
            (SortedSet.add (d.dependencySet dependent) dependency) } := by
  rw [addDependency, Result.check_bind_eq_ok_iff, Result.check_bind_eq_ok_iff,
    Result.check_bind_eq_ok_iff, checkOpen_eq_ok_iff, checkDeclared_eq_ok_iff,
    checkDeclared_eq_ok_iff, Result.refuse_bind_eq_ok_iff]
  constructor
  · rintro ⟨isOpen, first, second, differ, same⟩
    cases same
    exact ⟨isOpen, first, second, differ, rfl⟩
  · rintro ⟨isOpen, first, second, differ, rfl⟩
    exact ⟨isOpen, first, second, differ, rfl⟩

theorem declares_addResource (added : d.addResource path = .ok (id, d')) :
    d'.declares other = true ↔ other = id ∨ d.declares other = true := by
  obtain ⟨_, _, _, rfl, rfl⟩ := addResource_eq_ok_iff.mp added
  exact SortedMap.contains_insert

/-- Adding a dependency adds just this one. -/
theorem dependsOn_addDependency (added : d.addDependency dependent dependency = .ok d')
    {first second : ResourceId} :
    d'.DependsOn first second ↔
      (first = dependent ∧ second = dependency) ∨ d.DependsOn first second := by
  obtain ⟨_, _, _, _, rfl⟩ := addDependency_eq_ok_iff.mp added
  by_cases same : first = dependent
  · subst same
    simp only [DependsOn, dependsOn, dependencySet, SortedMap.get?_insert_self, Option.getD_some,
      SortedSet.add, SortedMap.contains_insert, true_and]
  · simp only [DependsOn, dependsOn, dependencySet, SortedMap.get?_insert_of_ne same, same,
      false_and, false_or]

/-- Adding a dependency says nothing about which resources are declared. -/
theorem declares_of_addDependency (added : d.addDependency dependent dependency = .ok d')
    (id : ResourceId) : d'.declares id = d.declares id := by
  obtain ⟨_, _, _, _, rfl⟩ := addDependency_eq_ok_iff.mp added
  rfl

/-- Two dependents of one resource may be added in either order. -/
theorem addDependency_comm {d'' : Deployment}
    (first : d.addDependency dependent dependency = .ok d')
    (second : d'.addDependency other dependency = .ok d'') :
    ∃ between, d.addDependency other dependency = .ok between ∧
      between.addDependency dependent dependency = .ok d'' := by
  obtain ⟨isOpen, declared, declaredDependency, differ, rfl⟩ := addDependency_eq_ok_iff.mp first
  obtain ⟨_, declaredOther, _, differOther, rfl⟩ := addDependency_eq_ok_iff.mp second
  refine ⟨_, addDependency_eq_ok_iff.mpr
    ⟨isOpen, declaredOther, declaredDependency, differOther, rfl⟩,
    addDependency_eq_ok_iff.mpr ⟨isOpen, declared, declaredDependency, differ, ?_⟩⟩
  by_cases same : other = dependent
  · subst same
    rfl
  · simp only [dependencySet, SortedMap.get?_insert_of_ne same,
      SortedMap.get?_insert_of_ne (Ne.symm same)]
    congr 1
    exact SortedMap.insert_comm fun eq => absurd eq (Ne.symm same)

/-! ## Graphs that grew -/

/-- A deployment can be brought into a state by adding resources and dependencies. -/
inductive Grown : Deployment → Prop
  | create {stack region : String} {d : Deployment} (created : create stack region = .ok d) :
      Grown d
  | addResource {d d' : Deployment} {path : String} {id : ResourceId} (before : Grown d)
      (added : d.addResource path = .ok (id, d')) : Grown d'
  | addDependency {d d' : Deployment} {dependent dependency : ResourceId} (before : Grown d)
      (added : d.addDependency dependent dependency = .ok d') : Grown d'

/-- Every dependency joins two distinct declared resources. -/
structure WellJoined (d : Deployment) : Prop where
  declares_dependent : ∀ {first second}, d.DependsOn first second → d.declares first = true
  declares_dependency : ∀ {first second}, d.DependsOn first second → d.declares second = true
  irrefl : ∀ id, ¬ d.DependsOn id id

theorem WellJoined.addResource (joined : d.WellJoined)
    (added : d.addResource path = .ok (id, d')) : d'.WellJoined := by
  have declares : ∀ {other}, d.declares other = true → d'.declares other = true := fun old =>
    (declares_addResource added).mpr (.inr old)
  obtain ⟨_, _, _, _, rfl⟩ := addResource_eq_ok_iff.mp added
  exact ⟨fun depends => declares (joined.declares_dependent depends),
    fun depends => declares (joined.declares_dependency depends), joined.irrefl⟩

theorem WellJoined.addDependency (joined : d.WellJoined)
    (added : d.addDependency dependent dependency = .ok d') : d'.WellJoined := by
  obtain ⟨_, first, second, differ, isChanged⟩ := addDependency_eq_ok_iff.mp added
  have declares : ∀ id, d'.declares id = d.declares id := fun id => by rw [isChanged]; rfl
  refine ⟨fun depends => ?_, fun depends => ?_, fun id depends => ?_⟩
  · rw [declares]
    rcases (dependsOn_addDependency added).mp depends with ⟨rfl, _⟩ | old
    · exact first
    · exact joined.declares_dependent old
  · rw [declares]
    rcases (dependsOn_addDependency added).mp depends with ⟨_, rfl⟩ | old
    · exact second
    · exact joined.declares_dependency old
  · rcases (dependsOn_addDependency added).mp depends with ⟨rfl, same⟩ | old
    · exact differ same
    · exact joined.irrefl id old

/-- A deployment begins open and without dependencies. -/
theorem of_create {stack region : String} (created : create stack region = .ok d) :
    d.isFinalized = false ∧ ∀ first second, ¬ d.DependsOn first second := by
  rw [create] at created
  split at created
  · cases created
  · cases created
    refine ⟨rfl, ?_⟩
    intro first second depends
    cases depends

theorem Grown.wellJoined (grown : d.Grown) : d.WellJoined := by
  induction grown with
  | create created =>
    obtain ⟨_, noEdge⟩ := of_create created
    exact ⟨fun depends => absurd depends (noEdge _ _), fun depends => absurd depends (noEdge _ _),
      fun id => noEdge id id⟩
  | addResource _ added joined => exact joined.addResource added
  | addDependency _ added joined => exact joined.addDependency added

theorem Grown.isFinalized_eq_false (grown : d.Grown) : d.isFinalized = false := by
  induction grown with
  | create created => exact (of_create created).1
  | addResource _ added _ =>
    obtain ⟨_, isOpen, _, _, rfl⟩ := addResource_eq_ok_iff.mp added
    exact isOpen
  | addDependency _ added _ =>
    obtain ⟨isOpen, _, _, _, rfl⟩ := addDependency_eq_ok_iff.mp added
    exact isOpen

end Deployment

end Provisioning
