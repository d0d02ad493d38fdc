import Mathlib.Data.List.Forall2

/-!
# Steps that can fail

An operation of several steps yields a value exactly when every step does, and
fails with the error of the first step that fails.  The proofs take operations
apart by these equivalences and do not unfold the monad of results.
-/

namespace Provisioning.Result

set_option autoImplicit false

universe u

variable {ε : Type u} {α β : Type u}

/-! ## Two steps -/

/-- Two steps yield a value when the first yields one from which the second does. -/
theorem bind_eq_ok_iff {first : Except ε α} {second : α → Except ε β} {b : β} :
    first >>= second = .ok b ↔ ∃ a, first = .ok a ∧ second a = .ok b := by
  cases first with
  | error e => simp [bind, Except.bind]
  | ok a => simp [bind, Except.bind]

/-- Two steps fail when the first fails, or the second after it. -/
theorem bind_eq_error_iff {first : Except ε α} {second : α → Except ε β} {e : ε} :
    first >>= second = .error e ↔
      first = .error e ∨ ∃ a, first = .ok a ∧ second a = .error e := by
  cases first with
  | error e' => simp [bind, Except.bind]
  | ok a => simp [bind, Except.bind]

/-- A check and what follows it yield a value when the check passes and the rest yields
the value. -/
theorem check_bind_eq_ok_iff {check : Except ε PUnit} {rest : Except ε β} {b : β} :
    (check >>= fun _ => rest) = .ok b ↔ check = .ok ⟨⟩ ∧ rest = .ok b := by
  rw [bind_eq_ok_iff]
  constructor
  · rintro ⟨_, passed, same⟩
    exact ⟨passed, same⟩
  · rintro ⟨passed, same⟩
    exact ⟨⟨⟩, passed, same⟩

/-- A check and what follows it fail when the check does, or the rest after it. -/
theorem check_bind_eq_error_iff {check : Except ε PUnit} {rest : Except ε β} {e : ε} :
    (check >>= fun _ => rest) = .error e ↔
      check = .error e ∨ check = .ok ⟨⟩ ∧ rest = .error e := by
  rw [bind_eq_error_iff]
  refine or_congr_right ⟨?_, fun ⟨passed, failed⟩ => ⟨⟨⟩, passed, failed⟩⟩
  rintro ⟨_, passed, failed⟩
  exact ⟨passed, failed⟩

/-- A check in front of a value that is always there. -/
theorem guarded_eq_ok_iff {check : Except ε PUnit} {value b : β} :
    (check >>= fun _ => .ok value) = .ok b ↔ check = .ok ⟨⟩ ∧ b = value := by
  rw [check_bind_eq_ok_iff, Except.ok.injEq]
  exact and_congr_right fun _ => eq_comm

/-- A check that refuses what meets a condition. -/
theorem refuse_eq_ok_iff {condition : Prop} [Decidable condition] {e : ε} :
    (if condition then .error e else .ok ⟨⟩ : Except ε PUnit) = .ok ⟨⟩ ↔ ¬ condition := by
  split
  next refused => exact iff_of_false (by rintro ⟨⟩) (not_not_intro refused)
  next passed => exact iff_of_true rfl passed

theorem refuse_eq_error_iff {condition : Prop} [Decidable condition] {e e' : ε} :
    (if condition then .error e else .ok ⟨⟩ : Except ε PUnit) = .error e' ↔
      condition ∧ e' = e := by
  split
  next refused =>
    rw [Except.error.injEq, eq_comm]
    exact (and_iff_right refused).symm
  next passed => exact iff_of_false nofun fun refused => passed refused.1

/-- A check that refuses what does not meet a condition. -/
theorem require_eq_ok_iff {condition : Prop} [Decidable condition] {e : ε} :
    (if condition then .ok ⟨⟩ else .error e : Except ε PUnit) = .ok ⟨⟩ ↔ condition := by
  split
  next passed => exact iff_of_true rfl passed
  next refused => exact iff_of_false (by rintro ⟨⟩) refused

theorem require_eq_error_iff {condition : Prop} [Decidable condition] {e e' : ε} :
    (if condition then .ok ⟨⟩ else .error e : Except ε PUnit) = .error e' ↔
      ¬ condition ∧ e' = e := by
  split
  next passed => exact iff_of_false nofun fun refused => refused.1 passed
  next refused =>
    rw [Except.error.injEq, eq_comm]
    exact (and_iff_right refused).symm

/-- A refusal and what follows it yield a value when nothing is refused and the rest yields
the value. -/
theorem refuse_bind_eq_ok_iff {condition : Prop} [Decidable condition] {e : ε}
    {rest : PUnit → Except ε β} {b : β} :
    (if condition then throw e >>= rest else rest ⟨⟩) = .ok b ↔
      ¬ condition ∧ rest ⟨⟩ = .ok b := by
  split
  next refused =>
    constructor
    · rintro ⟨⟩
    · exact fun ⟨passed, _⟩ => absurd refused passed
  next passed => exact (and_iff_right passed).symm

/-- A refusal and what follows it fail when something is refused, or when the rest fails. -/
theorem refuse_bind_eq_error_iff {condition : Prop} [Decidable condition] {e e' : ε}
    {rest : PUnit → Except ε β} :
    (if condition then throw e >>= rest else rest ⟨⟩) = .error e' ↔
      condition ∧ e' = e ∨ ¬ condition ∧ rest ⟨⟩ = .error e' := by
  split
  next refused =>
    constructor
    · rintro ⟨⟩
      exact .inl ⟨refused, rfl⟩
    · rintro (⟨_, rfl⟩ | ⟨passed, _⟩)
      · rfl
      · exact absurd refused passed
  next passed =>
    constructor
    · exact fun failed => .inr ⟨passed, failed⟩
    · rintro (⟨refused, _⟩ | ⟨_, failed⟩)
      · exact absurd refused passed
      · exact failed

@[simp] theorem ok_bind {a : α} {second : α → Except ε β} :
    (Except.ok a : Except ε α) >>= second = second a := rfl

/-- A value is the result of changing another value. -/
theorem map_eq_ok_iff {result : Except ε α} {f : α → β} {b : β} :
    result.map f = .ok b ↔ ∃ a, result = .ok a ∧ f a = b := by
  cases result with
  | error e => simp [Except.map]
  | ok a => simp [Except.map]

/-- Changing the value leaves an error as it is. -/
theorem map_eq_error_iff {result : Except ε α} {f : α → β} {e : ε} :
    result.map f = .error e ↔ result = .error e := by
  cases result with
  | error e' => simp [Except.map]
  | ok a => simp [Except.map]

/-! ## As many steps as a list has members -/

/-- A step for every member of a list yields values exactly when the step of each
member yields its value. -/
theorem mapM_eq_ok_iff {f : α → Except ε β} {members : List α} {values : List β} :
    members.mapM f = .ok values ↔
      List.Forall₂ (fun member value => f member = .ok value) members values := by
  induction members generalizing values with
  | nil =>
    rw [List.mapM_nil, List.forall₂_nil_left_iff]
    constructor
    · rintro ⟨⟩
      rfl
    · rintro rfl
      rfl
  | cons member rest ih =>
    rw [List.mapM_cons, bind_eq_ok_iff, List.forall₂_cons_left_iff]
    constructor
    · rintro ⟨value, head, tail⟩
      obtain ⟨others, run, same⟩ := bind_eq_ok_iff.mp tail
      cases same
      exact ⟨value, others, head, ih.mp run, rfl⟩
    · rintro ⟨value, others, head, run, rfl⟩
      exact ⟨value, head, bind_eq_ok_iff.mpr ⟨others, ih.mpr run, rfl⟩⟩

/-- When two lists are related member by member, each member of the first is related to
one of the second. -/
theorem exists_of_forall₂_left {R : α → β → Prop} {members : List α} {values : List β}
    (related : List.Forall₂ R members values) {member : α} (mem : member ∈ members) :
    ∃ value ∈ values, R member value := by
  induction related with
  | nil => cases mem
  | @cons first value _ _ head _ ih =>
    rcases List.mem_cons.mp mem with rfl | later
    · exact ⟨value, List.mem_cons_self, head⟩
    · obtain ⟨other, there, isRelated⟩ := ih later
      exact ⟨other, List.mem_cons_of_mem _ there, isRelated⟩

/-- When two lists are related member by member, each member of the second is related to
one of the first. -/
theorem exists_of_forall₂_right {R : α → β → Prop} {members : List α} {values : List β}
    (related : List.Forall₂ R members values) {value : β} (mem : value ∈ values) :
    ∃ member ∈ members, R member value :=
  exists_of_forall₂_left (R := flip R) (List.Forall₂.flip related) mem

/-- A check of every member of a list passes exactly when it passes for each. -/
theorem forM_eq_ok_iff {check : α → Except ε PUnit.{u + 1}} {members : List α} :
    members.forM check = .ok ⟨⟩ ↔ ∀ member ∈ members, check member = .ok ⟨⟩ := by
  induction members with
  | nil => exact iff_of_true rfl fun _ mem => absurd mem List.not_mem_nil
  | cons member rest ih =>
    change (check member >>= fun _ => rest.forM check) = .ok ⟨⟩ ↔ _
    rw [check_bind_eq_ok_iff, ih, List.forall_mem_cons]

/-! ## Faults -/

/-- The error of a result that is no value. -/
def fault? : Except ε α → Option ε
  | .ok _ => none
  | .error e => some e

theorem fault?_eq_none_iff {result : Except ε α} : fault? result = none ↔ ∃ a, result = .ok a := by
  cases result with
  | ok a => simp [fault?]
  | error e => simp [fault?]

theorem fault?_eq_some_iff {result : Except ε α} {e : ε} :
    fault? result = some e ↔ result = .error e := by
  cases result with
  | ok a => simp [fault?]
  | error e' => simp [fault?]

/-- The fault of two steps is the one of the first, or else the one of the second, if that
does not depend on the value in between. -/
theorem fault?_bind {first : Except ε α} {second : α → Except ε β} {later : Option ε}
    (same : ∀ a, fault? (second a) = later) :
    fault? (first >>= second) = (fault? first).or later := by
  cases first with
  | ok a => exact (same a).trans Option.none_or.symm
  | error e => rfl

/-- Changing the value at the end adds no fault. -/
theorem fault?_bind_pure {first : Except ε α} {f : α → β} :
    fault? (first >>= fun a => pure (f a)) = fault? first := by
  have added : fault? (first >>= fun a => pure (f a)) = (fault? first).or none :=
    fault?_bind fun _ => rfl
  rw [added, Option.or_none]

/-- The fault of the steps for a list is the first among the faults of its members. -/
theorem fault?_mapM {f : α → Except ε β} {members : List α} :
    fault? (members.mapM f) = members.findSome? fun member => fault? (f member) := by
  induction members with
  | nil => rfl
  | cons member rest ih =>
    rw [List.mapM_cons, List.findSome?_cons]
    cases f member with
    | error e => rfl
    | ok value => exact fault?_bind_pure.trans ih

end Provisioning.Result
