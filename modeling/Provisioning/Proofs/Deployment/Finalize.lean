import Provisioning.Proofs.Deployment.Order
import Provisioning.Proofs.Deployment.Steps
import Provisioning.Proofs.World.Basic

/-!
# What finalizing yields

A deployment is finalized exactly when its dependencies have no cycle.  Its
resources are then listed by height, and by path where the height is the same; since
this says which list it is, the order in which resources and dependencies were added
does not matter.  With a cycle, finalizing names the resources from which one can be
reached, and the deployment stays open.
-/

namespace Provisioning

set_option autoImplicit false

namespace Deployment

variable {d d' other : Deployment} {order stuck : List ResourceId}

/-! ## One list for each graph -/

/-- A resource does not stand before itself, and of two only one stands before the other. -/
theorem Precedes.asymm {first second : ResourceId} (before : d.Precedes first second) :
    ¬ d.Precedes second first := by
  rintro ⟨n, m, second', first', order'⟩
  obtain ⟨k, l, isFirst, isSecond, order⟩ := before
  cases isFirst.unique first'
  cases isSecond.unique second'
  rcases order with less | ⟨same, less⟩
  · rcases order' with less' | ⟨same', _⟩
    · omega
    · omega
  · rcases order' with less' | ⟨_, less'⟩
    · omega
    · exact Std.lt_irrefl (Std.lt_trans less less')

instance (d : Deployment) : Std.Irrefl d.Precedes :=
  ⟨fun _ before => before.asymm before⟩

instance (d : Deployment) : Std.Antisymm d.Precedes :=
  ⟨fun _ _ before after => absurd after before.asymm⟩

/-- In a list by height and path, the lower of two members comes first. -/
theorem idxOf_lt_of_hasHeight (ordered : order.Pairwise d.Precedes) {low high : ResourceId}
    (memLow : low ∈ order) (memHigh : high ∈ order) {m n : Nat} (isLow : d.HasHeight low m)
    (isHigh : d.HasHeight high n) (less : m < n) : order.idxOf low < order.idxOf high := by
  have boundLow : order.idxOf low < order.length := List.idxOf_lt_length_iff.mpr memLow
  have boundHigh : order.idxOf high < order.length := List.idxOf_lt_length_iff.mpr memHigh
  by_contra notBefore
  rcases Nat.lt_or_eq_of_le (Nat.not_lt.mp notBefore) with before | same
  · have precedes := List.pairwise_iff_getElem.mp ordered _ _ boundHigh boundLow before
    rw [List.getElem_idxOf, List.getElem_idxOf] at precedes
    exact precedes.asymm ⟨m, n, isLow, isHigh, .inl less⟩
  · cases (List.idxOf_inj memHigh).mp same
    cases isLow.unique isHigh
    exact Nat.lt_irrefl m less

/-! ## The rounds from the beginning -/

theorem WellJoined.declares_of_reachesCycle (joined : d.WellJoined) {id : ResourceId}
    (reaches : d.ReachesCycle id) : d.declares id = true := by
  obtain ⟨_, depends, _⟩ := reaches.exists_dependency
  exact joined.declares_dependent depends

theorem WellJoined.rounds_ok (joined : d.WellJoined)
    (ran : Pending.rounds d d.pending = .ok order) :
    order.Pairwise d.Precedes ∧ (∀ id, id ∈ order ↔ d.declares id = true) ∧
      ∀ id ∈ order, ∃ height, d.HasHeight id height := by
  rw [← pendingAfter_nil] at ran
  obtain ⟨ordered, members, heights⟩ := d.placedBelow_nil.of_rounds_ok joined ran
  refine ⟨ordered, fun id => ?_, fun id mem => ?_⟩
  · rw [members, and_iff_left List.not_mem_nil]
  · obtain ⟨height, _, isHeight⟩ := heights id mem
    exact ⟨height, isHeight⟩

theorem WellJoined.rounds_error (joined : d.WellJoined)
    (ran : Pending.rounds d d.pending = .error stuck) :
    stuck ≠ [] ∧ stuck.Pairwise (· < ·) ∧ ∀ id, id ∈ stuck ↔ d.ReachesCycle id := by
  rw [← pendingAfter_nil] at ran
  obtain ⟨some, ordered, members⟩ := d.placedBelow_nil.of_rounds_error joined ran
  refine ⟨some, ordered, ?_⟩
  intro id
  rw [members, and_iff_right_iff_imp]
  exact joined.declares_of_reachesCycle

/-- The rounds place everything exactly when there is no cycle. -/
theorem WellJoined.exists_rounds_ok_iff (joined : d.WellJoined) :
    (∃ order, Pending.rounds d d.pending = .ok order) ↔
      ∀ id, ¬ Relation.TransGen d.DependsOn id id := by
  constructor
  · rintro ⟨order, ran⟩ id cycle
    have reaches : d.ReachesCycle id := ⟨id, .refl, cycle⟩
    obtain ⟨_, members, heights⟩ := joined.rounds_ok ran
    obtain ⟨_, height⟩ := heights id ((members id).mpr (joined.declares_of_reachesCycle reaches))
    exact height.not_reachesCycle reaches
  · intro acyclic
    cases ran : Pending.rounds d d.pending with
    | ok order => exact ⟨order, rfl⟩
    | error stuck =>
      obtain ⟨some, _, members⟩ := joined.rounds_error ran
      obtain ⟨id, mem⟩ := List.exists_mem_of_ne_nil stuck some
      obtain ⟨turn, _, cycle⟩ := (members id).mp mem
      exact absurd cycle (acyclic turn)

/-- The rounds depend on what was declared and what depends on what, and on nothing else. -/
theorem WellJoined.rounds_congr (joined : d.WellJoined) (joined' : other.WellJoined)
    (declares : ∀ id, other.declares id = d.declares id)
    (dependsOn : ∀ first second, other.dependsOn first second = d.dependsOn first second) :
    Pending.rounds other other.pending = Pending.rounds d d.pending := by
  have sameRelation : other.DependsOn = d.DependsOn := by
    funext first second
    rw [DependsOn, DependsOn, dependsOn]
  have samePrecedes : other.Precedes = d.Precedes := by
    funext first second
    simp only [Precedes, HasHeight, HasChain, sameRelation]
  rcases ran : Pending.rounds d d.pending with stuck | order
  · rcases ran' : Pending.rounds other other.pending with stuck' | order'
    · obtain ⟨_, ordered, members⟩ := joined.rounds_error ran
      obtain ⟨_, ordered', members'⟩ := joined'.rounds_error ran'
      have antisymm : Std.Antisymm fun first second : ResourceId => first < second :=
        ⟨fun _ _ less greater => absurd (Std.lt_trans less greater) Std.lt_irrefl⟩
      have irrefl : Std.Irrefl fun first second : ResourceId => first < second :=
        ⟨fun _ => Std.lt_irrefl⟩
      refine congrArg Except.error (ordered'.eq_of_mem_iff ordered ?_)
      intro id
      rw [members, members', ReachesCycle, ReachesCycle, sameRelation]
    · have acyclic := joined'.exists_rounds_ok_iff.mp ⟨order', ran'⟩
      rw [sameRelation] at acyclic
      obtain ⟨_, impossible⟩ := joined.exists_rounds_ok_iff.mpr acyclic
      rw [ran] at impossible
      cases impossible
  · rcases ran' : Pending.rounds other other.pending with stuck' | order'
    · have acyclic := joined.exists_rounds_ok_iff.mp ⟨order, ran⟩
      rw [← sameRelation] at acyclic
      obtain ⟨_, impossible⟩ := joined'.exists_rounds_ok_iff.mpr acyclic
      rw [ran'] at impossible
      cases impossible
    · obtain ⟨ordered, members, _⟩ := joined.rounds_ok ran
      obtain ⟨ordered', members', _⟩ := joined'.rounds_ok ran'
      rw [samePrecedes] at ordered'
      refine congrArg Except.ok (ordered'.eq_of_mem_iff ordered ?_)
      intro id
      rw [members, members', declares]

/-! ## Finalizing -/

theorem finalize_of_ok (isOpen : d.isFinalized = false)
    (ran : Pending.rounds d d.pending = .ok order) :
    d.finalize = .ok (order, { d with isFinalized := true }) := by
  rw [finalize, checkOpen_eq_ok_iff.mpr isOpen, Result.ok_bind, ran]
  rfl

theorem finalize_of_error (isOpen : d.isFinalized = false)
    (ran : Pending.rounds d d.pending = .error stuck) :
    d.finalize = .error (.graph (.cycle stuck)) := by
  rw [finalize, checkOpen_eq_ok_iff.mpr isOpen, Result.ok_bind, ran]
  rfl

/-- An open deployment is finalized when the rounds place everything. -/
theorem finalize_eq_ok_iff (isOpen : d.isFinalized = false) :
    d.finalize = .ok (order, d') ↔
      Pending.rounds d d.pending = .ok order ∧ d' = { d with isFinalized := true } := by
  cases ran : Pending.rounds d d.pending with
  | ok placed =>
    rw [finalize_of_ok isOpen ran]
    constructor
    · rintro ⟨⟩
      exact ⟨rfl, rfl⟩
    · rintro ⟨⟨⟩, rfl⟩
      rfl
  | error stuck =>
    rw [finalize_of_error isOpen ran]
    constructor
    · rintro ⟨⟩
    · rintro ⟨⟨⟩, _⟩

/-- A deployment that is finalized was open, and its rounds placed everything. -/
theorem of_finalize (finalized : d.finalize = .ok (order, d')) :
    Pending.rounds d d.pending = .ok order ∧ d' = { d with isFinalized := true } := by
  obtain ⟨isOpen, _⟩ := Result.check_bind_eq_ok_iff.mp finalized
  exact (finalize_eq_ok_iff (checkOpen_eq_ok_iff.mp isOpen)).mp finalized

/-- What finalizing lists are the declared resources, each once, and each after everything
it depends on, directly or not. -/
theorem WellJoined.of_rounds_eq_ok (joined : d.WellJoined)
    (ran : Pending.rounds d d.pending = .ok order) :
    order.Nodup ∧ (∀ id, id ∈ order ↔ d.declares id = true) ∧
      ∀ dependent dependency, Relation.TransGen d.DependsOn dependent dependency →
        order.idxOf dependency < order.idxOf dependent := by
  obtain ⟨ordered, members, heights⟩ := joined.rounds_ok ran
  refine ⟨ordered.nodup, members, fun dependent dependency depends => ?_⟩
  have memDependent : dependent ∈ order := by
    obtain ⟨_, first, _⟩ := Relation.TransGen.head'_iff.mp depends
    exact (members dependent).mpr (joined.declares_dependent first)
  have memDependency : dependency ∈ order := by
    obtain ⟨_, _, last⟩ := Relation.TransGen.tail'_iff.mp depends
    exact (members dependency).mpr (joined.declares_dependency last)
  obtain ⟨high, isHigh⟩ := heights dependent memDependent
  obtain ⟨low, isLow⟩ := heights dependency memDependency
  exact idxOf_lt_of_hasHeight ordered memDependency memDependent isLow isHigh
    (isHigh.lt_of_transGen depends isLow)

/-- **Finalizing lists the resources by height and path, or names those that reach a
cycle.**  The rounds never take a count below zero.  They end with a list exactly when the
dependencies have no cycle; then every declared resource stands in the list once, after
everything it depends on, directly or not, and the list is the one by height and path.  The
outcome depends on what was declared and what depends on what, not on the order of the
calls.  With a cycle, the error names in path order exactly the resources from which one
can be reached, and nothing changes, not even when it is carried out in steps. -/
theorem finalize_by_height_or_cycle (grown : d.Grown) :
    (∀ p todo, d.Visits p todo →
      (∃ before, Pending.rounds d d.pending =
        (Pending.rounds d (Pending.placeAll d p todo)).map (before ++ ·)) ∧
      ∀ id rest, todo = id :: rest → ∀ waiting count, (waiting, count) ∈ p →
        d.DependsOn waiting id → 0 < count) ∧
    ((∃ order d', d.finalize = .ok (order, d')) ↔
      ∀ id, ¬ Relation.TransGen d.DependsOn id id) ∧
    (∀ order d', d.finalize = .ok (order, d') →
      order.Nodup ∧ (∀ id, id ∈ order ↔ d.declares id = true) ∧
      (∀ dependent dependency, Relation.TransGen d.DependsOn dependent dependency →
        order.idxOf dependency < order.idxOf dependent) ∧
      (∀ id ∈ order, ∃ height, d.HasHeight id height) ∧ order.Pairwise d.Precedes ∧
      d' = { d with isFinalized := true }) ∧
    (∀ other : Deployment, other.Grown → (∀ id, other.declares id = d.declares id) →
      (∀ first second, other.dependsOn first second = d.dependsOn first second) →
      other.finalize.map (·.1) = d.finalize.map (·.1)) ∧
    ((∃ id, Relation.TransGen d.DependsOn id id) →
      ∃ stuck, stuck.Pairwise (· < ·) ∧ (∀ id, id ∈ stuck ↔ d.ReachesCycle id) ∧
        d.finalize = .error (.graph (.cycle stuck)) ∧
        (Error.graph (.cycle stuck)).message =
          "deployment graph error: dependency cycle among: "
            ++ Text.joined ", " (stuck.map (·.path)) ∧
        finalizeSteps.on d = (.error (.graph (.cycle stuck)), d) ∧
        ∀ w : World, w.deployment = d →
          w.apply .finalize = ({ result := .error (.graph (.cycle stuck)) }, w)) := by
  have joined := grown.wellJoined
  have isOpen := grown.isFinalized_eq_false
  refine ⟨fun p todo visits => ⟨visits.exists_rounds_eq, ?_⟩, ?_, ?_, ?_, ?_⟩
  · rintro id rest rfl waiting count mem depends
    exact visits.count_pos mem depends
  · rw [← joined.exists_rounds_ok_iff]
    refine exists_congr ?_
    intro order
    simp only [finalize_eq_ok_iff isOpen, exists_and_left, exists_eq, and_true]
  · intro order d' finalized
    obtain ⟨ran, isFinal⟩ := (finalize_eq_ok_iff isOpen).mp finalized
    obtain ⟨ordered, _, heights⟩ := joined.rounds_ok ran
    obtain ⟨nodup, members, after⟩ := joined.of_rounds_eq_ok ran
    exact ⟨nodup, members, after, heights, ordered, isFinal⟩
  · intro other grown' declares dependsOn
    have same := joined.rounds_congr grown'.wellJoined declares dependsOn
    cases ran : Pending.rounds d d.pending with
    | ok order =>
      rw [finalize_of_ok isOpen ran, finalize_of_ok grown'.isFinalized_eq_false (same.trans ran)]
      rfl
    | error stuck =>
      rw [finalize_of_error isOpen ran,
        finalize_of_error grown'.isFinalized_eq_false (same.trans ran)]
  · rintro ⟨id, cycle⟩
    cases ran : Pending.rounds d d.pending with
    | ok order => exact absurd cycle (joined.exists_rounds_ok_iff.mp ⟨order, ran⟩ id)
    | error stuck =>
      obtain ⟨_, ordered, members⟩ := joined.rounds_error ran
      have fails := finalize_of_error isOpen ran
      refine ⟨stuck, ordered, members, fails, rfl, ?_, ?_⟩
      · rw [finalizeSteps_on, fails]
        rfl
      · rintro w rfl
        rw [World.apply, fails]
        rfl

/-- A database and a repository that depend on each other, a fleet that depends on the
repository, and an archive by itself. -/
def ring : Deployment where
  stack := "Farm"
  region := "us-west-2"
  resources :=
    .ofList [(⟨"Archive"⟩, ()), (⟨"Database"⟩, ()), (⟨"Fleet"⟩, ()), (⟨"Repository"⟩, ())]
  edges := .ofList [
    (⟨"Database"⟩, .ofList [(⟨"Repository"⟩, ())]),
    (⟨"Fleet"⟩, .ofList [(⟨"Repository"⟩, ())]),
    (⟨"Repository"⟩, .ofList [(⟨"Database"⟩, ())])]
  isFinalized := false

/-- The calls that make the ring. -/
def makeRing : Result Deployment := do
  let d ← create "Farm" "us-west-2"
  let (repository, d) ← d.addResource "Repository"
  let (fleet, d) ← d.addResource "Fleet"
  let (database, d) ← d.addResource "Database"
  let (_, d) ← d.addResource "Archive"
  let d ← d.addDependency fleet repository
  let d ← d.addDependency database repository
  d.addDependency repository database

theorem finalize_by_height_or_cycle_ring :
    ring.Grown ∧ Relation.TransGen ring.DependsOn ⟨"Database"⟩ ⟨"Database"⟩ ∧
      ∃ stuck, ring.finalize = .error (.graph (.cycle stuck)) ∧
        ∀ id, id ∈ stuck ↔ ring.ReachesCycle id := by
  have made : makeRing = .ok ring := by decide +kernel
  have grown : ring.Grown := by
    simp only [makeRing, Result.bind_eq_ok_iff] at made
    obtain ⟨_, created, ⟨_, _⟩, first, ⟨_, _⟩, second, ⟨_, _⟩, third, ⟨_, _⟩, fourth, _, fifth, _,
      sixth, seventh⟩ := made
    exact .addDependency (.addDependency (.addDependency (.addResource (.addResource
      (.addResource (.addResource (.create created) first) second) third) fourth) fifth) sixth)
      seventh
  have there : ring.DependsOn ⟨"Database"⟩ ⟨"Repository"⟩ := by decide +kernel
  have back : ring.DependsOn ⟨"Repository"⟩ ⟨"Database"⟩ := by decide +kernel
  have cycle := (Relation.TransGen.single there).tail back
  obtain ⟨_, _, _, _, onCycle⟩ := finalize_by_height_or_cycle grown
  obtain ⟨stuck, _, members, fails, _⟩ := onCycle ⟨_, cycle⟩
  exact ⟨grown, cycle, stuck, fails, members⟩

end Deployment

end Provisioning
