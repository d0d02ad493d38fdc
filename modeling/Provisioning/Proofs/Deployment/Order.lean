import Provisioning.Deployment.Order
import Provisioning.Proofs.Deployment.Chain

/-!
# Rounds of placing resources

While the rounds run, the counts are at every moment the numbers of dependencies
that are not placed yet, so the state of the rounds is known from what was placed.
At the beginning of each round, what is still to place are the resources with a
chain as long as the number of rounds before.  So a round places the resources of
one height, and if the rounds get stuck, the chains of what is left have no end.
-/

namespace Provisioning

set_option autoImplicit false

namespace Deployment

variable {d : Deployment} {id other : ResourceId} {placed todo order stuck : List ResourceId}
  {k : Nat}

/-! ## The counts -/

/-- The counts once some resources were placed. -/
def pendingAfter (d : Deployment) (placed : List ResourceId) : Pending :=
  (d.resources.keys.filter (· ∉ placed)).map fun id =>
    (id, (d.dependenciesOf id).countP (· ∉ placed))

theorem pendingAfter_nil (d : Deployment) : d.pendingAfter [] = d.pending := by
  simp [pendingAfter, pending]

theorem waiting_pendingAfter (d : Deployment) (placed : List ResourceId) :
    (d.pendingAfter placed).waiting = d.resources.keys.filter (· ∉ placed) := by
  simp [pendingAfter, Pending.waiting, Function.comp_def]

theorem mem_waiting_pendingAfter :
    id ∈ (d.pendingAfter placed).waiting ↔ d.declares id = true ∧ id ∉ placed := by
  rw [waiting_pendingAfter, List.mem_filter, mem_resources_iff, decide_eq_true_eq]

/-- Placing one more member of a list without repetitions takes one off the count of
those that are not placed. -/
theorem countP_not_mem_concat {l : List ResourceId} (nodup : l.Nodup) (fresh : id ∉ placed) :
    l.countP (· ∉ placed) = l.countP (· ∉ placed ++ [id]) + if id ∈ l then 1 else 0 := by
  induction l with
  | nil => rfl
  | cons head rest ih =>
    obtain ⟨notMem, others⟩ := List.nodup_cons.mp nodup
    have next := ih others
    by_cases same : head = id
    · subst same
      simp only [if_neg notMem] at next
      simp only [List.countP_cons, next, List.mem_cons_self, List.mem_append, List.mem_singleton,
        fresh, not_false_eq_true, decide_true, if_true, or_true, not_true_eq_false, decide_false]
      rfl
    · have differ : id ≠ head := Ne.symm same
      simp only [List.countP_cons, next, List.mem_cons, List.mem_append, same, differ,
        List.not_mem_nil, or_false, false_or]
      omega

/-- **Placing a resource keeps the counts right.** -/
theorem place_pendingAfter (fresh : id ∉ placed) :
    Pending.place d (d.pendingAfter placed) id = d.pendingAfter (placed ++ [id]) := by
  have left : ∀ other, (decide (other ≠ id) && decide (other ∉ placed)) =
      decide (other ∉ placed ++ [id]) := by
    intro other
    simp [and_comm]
  rw [Pending.place, pendingAfter, pendingAfter, List.filter_map, List.map_map, List.filter_filter]
  simp only [Function.comp_def, left]
  refine List.map_congr_left ?_
  intro other _
  have count := countP_not_mem_concat (d.nodup_dependenciesOf other) fresh
  by_cases depends : d.dependsOn other id = true
  · rw [if_pos (mem_dependenciesOf_iff.mpr depends)] at count
    rw [if_pos depends, count, Nat.add_sub_cancel]
  · rw [if_neg (mt mem_dependenciesOf_iff.mp depends), Nat.add_zero] at count
    rw [if_neg depends, count]

/-- Placing several resources places one after another. -/
theorem placeAll_pendingAfter (nodup : todo.Nodup) (fresh : ∀ id ∈ todo, id ∉ placed) :
    Pending.placeAll d (d.pendingAfter placed) todo = d.pendingAfter (placed ++ todo) := by
  induction todo generalizing placed with
  | nil => rw [List.append_nil]; rfl
  | cons id rest ih =>
    obtain ⟨notMem, others⟩ := List.nodup_cons.mp nodup
    have later : ∀ other ∈ rest, other ∉ placed ++ [id] := by
      intro other mem again
      rcases List.mem_append.mp again with old | same
      · exact fresh other (List.mem_cons_of_mem _ mem) old
      · cases List.mem_singleton.mp same
        exact notMem mem
    have first := place_pendingAfter (d := d) (fresh id List.mem_cons_self)
    have rest' := ih others later
    rw [List.append_assoc, List.singleton_append] at rest'
    rw [Pending.placeAll, List.foldl_cons, first]
    exact rest'

/-! ## What a round places -/

theorem mem_ready_pendingAfter :
    id ∈ (d.pendingAfter placed).ready ↔ d.declares id = true ∧ id ∉ placed ∧
      ∀ dependency, d.DependsOn id dependency → dependency ∈ placed := by
  simp only [Pending.ready, pendingAfter, List.mem_map, List.mem_filter, decide_eq_true_eq]
  constructor
  · rintro ⟨_, ⟨⟨id, ⟨declared, fresh⟩, rfl⟩, none⟩, rfl⟩
    refine ⟨mem_resources_iff.mp declared, fresh, ?_⟩
    intro dependency depends
    have here := List.countP_eq_zero.mp none dependency (mem_dependenciesOf_iff.mpr depends)
    simpa using here
  · rintro ⟨declared, fresh, met⟩
    refine ⟨_, ⟨⟨id, ⟨mem_resources_iff.mpr declared, fresh⟩, rfl⟩, ?_⟩, rfl⟩
    refine List.countP_eq_zero.mpr ?_
    intro dependency mem
    simpa using met dependency (mem_dependenciesOf_iff.mp mem)

theorem ready_sublist_waiting (p : Pending) : p.ready.Sublist p.waiting :=
  List.filter_sublist.map _

theorem waiting_sublist (d : Deployment) (placed : List ResourceId) :
    (d.pendingAfter placed).waiting.Sublist d.resources.keys := by
  rw [waiting_pendingAfter]
  exact List.filter_sublist

theorem pairwise_waiting (d : Deployment) (placed : List ResourceId) :
    (d.pendingAfter placed).waiting.Pairwise (· < ·) :=
  d.resources.pairwise_keys.sublist (waiting_sublist d placed)

theorem pairwise_ready (d : Deployment) (placed : List ResourceId) :
    (d.pendingAfter placed).ready.Pairwise (· < ·) :=
  (pairwise_waiting d placed).sublist (ready_sublist_waiting _)

theorem nodup_ready (d : Deployment) (placed : List ResourceId) :
    (d.pendingAfter placed).ready.Nodup :=
  d.resources.nodup_keys.sublist ((ready_sublist_waiting _).trans (waiting_sublist d placed))

/-- A round leaves the counts right. -/
theorem placeAll_ready (d : Deployment) (placed : List ResourceId) :
    Pending.placeAll d (d.pendingAfter placed) (d.pendingAfter placed).ready =
      d.pendingAfter (placed ++ (d.pendingAfter placed).ready) :=
  placeAll_pendingAfter (nodup_ready d placed) fun _ mem => (mem_ready_pendingAfter.mp mem).2.1

/-! ## Placing one resource after another -/

/-- What the rounds come to, resource by resource: the counts, and what the present round
is still going to place. -/
inductive Visits (d : Deployment) : Pending → List ResourceId → Prop
  | start : Visits d d.pending []
  | round {p : Pending} (ended : Visits d p []) : Visits d p p.ready
  | place {p : Pending} {id : ResourceId} {rest : List ResourceId}
      (next : Visits d p (id :: rest)) : Visits d (Pending.place d p id) rest

/-- The counts are right at every moment. -/
theorem Visits.exists_placed {p : Pending} (visits : d.Visits p todo) :
    ∃ placed, p = d.pendingAfter placed ∧ todo.Nodup ∧ ∀ id ∈ todo, id ∉ placed := by
  induction visits with
  | start => exact ⟨[], (pendingAfter_nil d).symm, .nil, fun _ mem => absurd mem List.not_mem_nil⟩
  | round _ ih =>
    obtain ⟨placed, rfl, _, _⟩ := ih
    exact ⟨placed, rfl, nodup_ready d placed, fun _ mem => (mem_ready_pendingAfter.mp mem).2.1⟩
  | @place _ id rest _ ih =>
    obtain ⟨placed, rfl, nodup, fresh⟩ := ih
    obtain ⟨notMem, others⟩ := List.nodup_cons.mp nodup
    refine ⟨placed ++ [id], place_pendingAfter (fresh id List.mem_cons_self), others, ?_⟩
    intro other mem again
    rcases List.mem_append.mp again with old | same
    · exact fresh other (List.mem_cons_of_mem _ mem) old
    · cases List.mem_singleton.mp same
      exact notMem mem

/-- **No count is taken below zero.**  Whoever depends on the resource that is placed next
has counted it. -/
theorem Visits.count_pos {p : Pending} {rest : List ResourceId} {count : Nat}
    (visits : d.Visits p (id :: rest)) (mem : (other, count) ∈ p)
    (depends : d.DependsOn other id) : 0 < count := by
  obtain ⟨placed, rfl, _, fresh⟩ := visits.exists_placed
  obtain ⟨_, _, same⟩ := List.mem_map.mp mem
  cases same
  refine List.countP_pos_iff.mpr ⟨id, mem_dependenciesOf_iff.mpr depends, ?_⟩
  simpa using fresh id List.mem_cons_self

/-! ## Rounds and heights -/

/-- What was placed are the resources without a chain of the given length. -/
def PlacedBelow (d : Deployment) (placed : List ResourceId) (k : Nat) : Prop :=
  ∀ id, d.declares id = true → (id ∉ placed ↔ d.HasChain id k)

theorem placedBelow_nil (d : Deployment) : d.PlacedBelow [] 0 :=
  fun id _ => iff_of_true List.not_mem_nil (hasChain_zero d id)

/-- A round places the resources of one height. -/
theorem PlacedBelow.mem_ready_iff (below : d.PlacedBelow placed k) (joined : d.WellJoined) :
    id ∈ (d.pendingAfter placed).ready ↔ d.declares id = true ∧ d.HasHeight id k := by
  rw [mem_ready_pendingAfter, hasHeight_iff]
  refine and_congr_right ?_
  intro declared
  rw [below id declared, hasChain_succ_iff]
  refine and_congr_right ?_
  intro _
  constructor
  · rintro met ⟨dependency, depends, chain⟩
    exact (below dependency (joined.declares_dependency depends)).mpr chain (met dependency depends)
  · intro ends dependency depends
    by_contra notPlaced
    exact ends ⟨dependency, depends,
      (below dependency (joined.declares_dependency depends)).mp notPlaced⟩

/-- After a round, what was placed are the resources below the next height. -/
theorem PlacedBelow.succ (below : d.PlacedBelow placed k) (joined : d.WellJoined) :
    d.PlacedBelow (placed ++ (d.pendingAfter placed).ready) (k + 1) := by
  intro id declared
  rw [List.mem_append, not_or, below id declared, below.mem_ready_iff joined, hasHeight_iff]
  constructor
  · rintro ⟨chain, notNow⟩
    by_contra ends
    exact notNow ⟨declared, chain, ends⟩
  · intro longer
    exact ⟨longer.of_succ, fun now => now.2.2 longer⟩

/-- One resource stands before another: it is lower, or as high and first by path. -/
def Precedes (d : Deployment) (first second : ResourceId) : Prop :=
  ∃ m n, d.HasHeight first m ∧ d.HasHeight second n ∧ (m < n ∨ m = n ∧ first < second)

/-! ## Whole rounds -/

theorem rounds_of_ready_eq_nil {p : Pending} (none : p.ready = []) :
    Pending.rounds d p = if p.isEmpty then .ok [] else .error p.waiting := by
  rw [Pending.rounds]
  split
  next => rfl
  next some => cases none.symm.trans some

theorem rounds_of_ready_ne_nil {p : Pending} (some : p.ready ≠ []) :
    Pending.rounds d p =
      (Pending.rounds d (Pending.placeAll d p p.ready)).map (p.ready ++ ·) := by
  rw [Pending.rounds]
  split
  next none => exact absurd none some
  next ready => rw [ready]

/-- A round that places something is followed by the rounds for what is left. -/
theorem rounds_pendingAfter (some : (d.pendingAfter placed).ready ≠ []) :
    Pending.rounds d (d.pendingAfter placed) =
      (Pending.rounds d (d.pendingAfter (placed ++ (d.pendingAfter placed).ready))).map
        ((d.pendingAfter placed).ready ++ ·) := by
  rw [rounds_of_ready_ne_nil some, placeAll_ready]

/-- The rounds really come through every state that is visited: what they yield is what
was placed before, and what they yield from there. -/
theorem Visits.exists_rounds_eq {p : Pending} (visits : d.Visits p todo) :
    ∃ before, Pending.rounds d d.pending =
      (Pending.rounds d (Pending.placeAll d p todo)).map (before ++ ·) := by
  induction visits with
  | start =>
    refine ⟨[], ?_⟩
    change _ = (Pending.rounds d d.pending).map id
    rw [Except.map_id]
    rfl
  | @round p _ ih =>
    obtain ⟨before, ran⟩ := ih
    by_cases none : p.ready = []
    · exact ⟨before, none ▸ ran⟩
    · refine ⟨before ++ p.ready, ran.trans ?_⟩
      rw [Pending.placeAll, List.foldl_nil, rounds_of_ready_ne_nil none]
      cases Pending.rounds d (Pending.placeAll d p p.ready) with
      | error stuck => rfl
      | ok order => exact congrArg Except.ok (List.append_assoc before p.ready order).symm
  | place _ ih => exact ih

/-- **The rounds place the resources by height and path.** -/
theorem PlacedBelow.of_rounds_ok (below : d.PlacedBelow placed k) (joined : d.WellJoined)
    (ran : Pending.rounds d (d.pendingAfter placed) = .ok order) :
    order.Pairwise d.Precedes ∧
      (∀ id, id ∈ order ↔ d.declares id = true ∧ id ∉ placed) ∧
      ∀ id ∈ order, ∃ height, k ≤ height ∧ d.HasHeight id height := by
  generalize isPending : d.pendingAfter placed = p at ran
  induction p using Pending.rounds.induct d generalizing placed k order with
  | case1 p none isEmpty =>
    subst isPending
    rw [rounds_of_ready_eq_nil none, if_pos isEmpty] at ran
    cases ran
    refine ⟨.nil, ?_, fun id mem => absurd mem List.not_mem_nil⟩
    intro id
    rw [← mem_waiting_pendingAfter, Pending.waiting, List.isEmpty_iff.mp isEmpty, List.map_nil]
  | case2 p none notEmpty =>
    rw [rounds_of_ready_eq_nil none, if_neg notEmpty] at ran
    cases ran
  | case3 p first others ready ih =>
    subst isPending
    have some : (d.pendingAfter placed).ready ≠ [] := by
      rw [ready]
      exact List.cons_ne_nil _ _
    rw [rounds_pendingAfter some] at ran
    obtain ⟨later, rest, rfl⟩ := Result.map_eq_ok_iff.mp ran
    rw [← ready, placeAll_ready] at ih
    obtain ⟨ordered, members, heights⟩ := ih (below.succ joined) rfl rest
    refine ⟨List.pairwise_append.mpr ⟨?_, ordered, ?_⟩, fun id => ?_, fun id mem => ?_⟩
    · -- Within a round all have the same height.
      refine List.Pairwise.imp_of_mem (fun here there less => ?_) (pairwise_ready d placed)
      exact ⟨k, k, ((below.mem_ready_iff joined).mp here).2,
        ((below.mem_ready_iff joined).mp there).2, .inr ⟨rfl, less⟩⟩
    · intro now here next there
      obtain ⟨height, above, isHeight⟩ := heights next there
      exact ⟨k, height, ((below.mem_ready_iff joined).mp here).2, isHeight, .inl above⟩
    · rw [List.mem_append, members, List.mem_append, not_or]
      constructor
      · rintro (now | ⟨declared, fresh, _⟩)
        · obtain ⟨declared, fresh, _⟩ := mem_ready_pendingAfter.mp now
          exact ⟨declared, fresh⟩
        · exact ⟨declared, fresh⟩
      · rintro ⟨declared, fresh⟩
        by_cases now : id ∈ (d.pendingAfter placed).ready
        · exact .inl now
        · exact .inr ⟨declared, fresh, now⟩
    · rcases List.mem_append.mp mem with now | next
      · exact ⟨k, Nat.le_refl k, ((below.mem_ready_iff joined).mp now).2⟩
      · obtain ⟨height, above, isHeight⟩ := heights id next
        exact ⟨height, Nat.le_of_succ_le above, isHeight⟩

/-- If a level of heights is empty, the chains of everything above it have no end. -/
theorem PlacedBelow.hasChain_add (below : d.PlacedBelow placed k) (joined : d.WellJoined)
    (none : (d.pendingAfter placed).ready = []) (declared : d.declares id = true)
    (chain : d.HasChain id k) (n : Nat) : d.HasChain id (k + n) := by
  have longer : ∀ other, d.declares other = true → d.HasChain other k →
      d.HasChain other (k + 1) := by
    intro other isDeclared isChain
    by_contra ends
    have now := (below.mem_ready_iff joined).mpr ⟨isDeclared, hasHeight_iff.mpr ⟨isChain, ends⟩⟩
    rw [none] at now
    cases now
  have lift : ∀ n other, d.declares other = true → d.HasChain other (k + n) →
      d.HasChain other (k + n + 1) := by
    intro n
    induction n with
    | zero => exact longer
    | succ n ih =>
      intro other _ isChain
      obtain ⟨dependency, depends, rest⟩ := hasChain_succ_iff.mp isChain
      exact hasChain_succ_iff.mpr
        ⟨dependency, depends, ih dependency (joined.declares_dependency depends) rest⟩
  induction n with
  | zero => exact chain
  | succ n ih => exact lift n id declared ih

/-- **The rounds get stuck with the resources that reach a cycle.** -/
theorem PlacedBelow.of_rounds_error (below : d.PlacedBelow placed k) (joined : d.WellJoined)
    (ran : Pending.rounds d (d.pendingAfter placed) = .error stuck) :
    stuck ≠ [] ∧ stuck.Pairwise (· < ·) ∧
      ∀ id, id ∈ stuck ↔ d.declares id = true ∧ d.ReachesCycle id := by
  generalize isPending : d.pendingAfter placed = p at ran
  induction p using Pending.rounds.induct d generalizing placed k with
  | case1 p none isEmpty =>
    rw [rounds_of_ready_eq_nil none, if_pos isEmpty] at ran
    cases ran
  | case2 p none notEmpty =>
    subst isPending
    rw [rounds_of_ready_eq_nil none, if_neg notEmpty] at ran
    cases ran
    refine ⟨fun nothing => notEmpty ?_, pairwise_waiting d placed, fun id => ?_⟩
    · rw [List.map_eq_nil_iff.mp nothing]
      rfl
    · rw [mem_waiting_pendingAfter]
      refine and_congr_right ?_
      intro declared
      rw [below id declared, joined.reachesCycle_iff]
      constructor
      · intro chain n
        exact (below.hasChain_add joined none declared chain n).of_le (Nat.le_add_left n k)
      · intro endless
        exact endless k
  | case3 p first others ready ih =>
    subst isPending
    have some : (d.pendingAfter placed).ready ≠ [] := by
      rw [ready]
      exact List.cons_ne_nil _ _
    rw [rounds_pendingAfter some] at ran
    rw [← ready, placeAll_ready] at ih
    exact ih (below.succ joined) rfl (Result.map_eq_error_iff.mp ran)

end Deployment

end Provisioning
