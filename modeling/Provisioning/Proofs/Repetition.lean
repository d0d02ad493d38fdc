import Mathlib.Data.List.Induction
import Mathlib.Data.List.Nodup
import Provisioning.Repetition

/-!
# First occurrences

Members that are appended one after another, unless they are there already, leave the list of
their first occurrences.  It does not matter whether repetitions are dropped once or twice on the
way, or whether the members are renamed before or after, as long as different members keep
different names.
-/

namespace Provisioning

set_option autoImplicit false

universe u v

/-! ## Members one by one -/

section Members

variable {α : Type u} {β : Type v} [DecidableEq α] [DecidableEq β]

theorem appendNew_of_mem {l : List α} {a : α} (mem : a ∈ l) : appendNew l a = l :=
  if_pos mem

theorem appendNew_of_notMem {l : List α} {a : α} (isNew : a ∉ l) : appendNew l a = l ++ [a] :=
  if_neg isNew

theorem nodup_appendNew {l : List α} (nodup : l.Nodup) (a : α) : (appendNew l a).Nodup := by
  rw [appendNew]
  split
  next => exact nodup
  next isNew =>
    refine List.nodup_append.mpr ⟨nodup, List.nodup_singleton a, fun b mem other last => ?_⟩
    cases List.mem_singleton.mp last
    exact fun same => isNew (same ▸ mem)

theorem map_appendNew {f : α → β} (injective : Function.Injective f) (l : List α) (a : α) :
    (appendNew l a).map f = appendNew (l.map f) (f a) := by
  by_cases mem : a ∈ l
  · rw [appendNew_of_mem mem, appendNew_of_mem (List.mem_map_of_mem mem)]
  · have isNew : f a ∉ l.map f := fun image => mem ((List.mem_map_of_injective injective).mp image)
    rw [appendNew_of_notMem mem, appendNew_of_notMem isNew, List.map_append, List.map_singleton]

end Members

/-! ## What first occurrences are -/

/-- The members of a list, each once, in the order of their first occurrences. -/
structure IsFirsts {α : Type u} [BEq α] (firsts l : List α) : Prop where
  mem_iff : ∀ a, a ∈ firsts ↔ a ∈ l
  nodup : firsts.Nodup
  ordered : firsts.Pairwise fun a b => l.idxOf a < l.idxOf b

/-! ## Whole lists -/

/-- A list that repeats nothing is left as it is. -/
theorem eraseDups_of_nodup {α : Type u} [BEq α] [LawfulBEq α] {l : List α} (nodup : l.Nodup) :
    l.eraseDups = l := by
  induction l with
  | nil => rfl
  | cons a rest ih =>
    obtain ⟨isNew, others⟩ := List.nodup_cons.mp nodup
    have kept : rest.filter (fun b => !b == a) = rest := by
      refine List.filter_eq_self.mpr fun b mem => ?_
      have differ : b ≠ a := fun same => isNew (same ▸ mem)
      simp [differ]
    rw [List.eraseDups_cons, kept, ih others]

section Lists

variable {α : Type u} {β : Type v} [DecidableEq α] [BEq α] [LawfulBEq α] [DecidableEq β] [BEq β]
  [LawfulBEq β]

theorem appendNew_eraseDups (l : List α) (a : α) :
    appendNew l.eraseDups a = (l ++ [a]).eraseDups := by
  rw [appendNew, List.eraseDups_append, List.removeAll]
  by_cases mem : a ∈ l
  · simp [mem]
  · simp [mem, List.eraseDups_cons]

/-- Members that are appended one by one come behind the earlier ones. -/
theorem foldl_appendNew_eraseDups (given more : List α) :
    more.foldl appendNew given.eraseDups = (given ++ more).eraseDups := by
  induction more generalizing given with
  | nil => rw [List.append_nil, List.foldl_nil]
  | cons a rest ih =>
    rw [List.foldl_cons, appendNew_eraseDups, ih, List.append_assoc, List.singleton_append]

/-- Behind other members, repetitions may be dropped once or twice. -/
theorem eraseDups_append_eraseDups (given l : List α) :
    (given ++ l.eraseDups).eraseDups = (given ++ l).eraseDups := by
  induction l using List.reverseRecOn with
  | nil => rfl
  | append_singleton l a ih =>
    rw [← appendNew_eraseDups l a, ← List.append_assoc, ← appendNew_eraseDups (given ++ l) a, ← ih]
    by_cases mem : a ∈ l
    · have among : a ∈ (given ++ l.eraseDups).eraseDups := by
        rw [List.mem_eraseDups, List.mem_append, List.mem_eraseDups]
        exact .inr mem
      rw [appendNew_of_mem (List.mem_eraseDups.mpr mem), appendNew_of_mem among]
    · have isNew : a ∉ l.eraseDups := fun mem' => mem (List.mem_eraseDups.mp mem')
      rw [appendNew_of_notMem isNew, ← List.append_assoc, appendNew_eraseDups]

/-- Members may be renamed before or after their repetitions are dropped. -/
theorem eraseDups_map {f : α → β} (injective : Function.Injective f) (l : List α) :
    (l.map f).eraseDups = l.eraseDups.map f := by
  induction l using List.reverseRecOn with
  | nil => rfl
  | append_singleton l a ih =>
    rw [List.map_append, List.map_singleton, ← appendNew_eraseDups, ← appendNew_eraseDups, ih,
      map_appendNew injective]

theorem nodup_eraseDups (l : List α) : l.eraseDups.Nodup := by
  induction l using List.reverseRecOn with
  | nil => exact List.nodup_nil
  | append_singleton l a ih =>
    rw [← appendNew_eraseDups]
    exact nodup_appendNew ih a

theorem pairwise_idxOf_eraseDups (l : List α) :
    l.eraseDups.Pairwise fun a b => l.idxOf a < l.idxOf b := by
  induction l using List.reverseRecOn with
  | nil => exact List.Pairwise.nil
  | append_singleton l a ih =>
    have earlier : l.eraseDups.Pairwise fun b c => (l ++ [a]).idxOf b < (l ++ [a]).idxOf c := by
      refine ih.imp_of_mem fun memb memc before => ?_
      rwa [List.idxOf_append_of_mem (List.mem_eraseDups.mp memb),
        List.idxOf_append_of_mem (List.mem_eraseDups.mp memc)]
    rw [← appendNew_eraseDups]
    by_cases mem : a ∈ l
    · rwa [appendNew_of_mem (List.mem_eraseDups.mpr mem)]
    · have isNew : a ∉ l.eraseDups := fun mem' => mem (List.mem_eraseDups.mp mem')
      rw [appendNew_of_notMem isNew]
      refine List.pairwise_append.mpr
        ⟨earlier, List.pairwise_singleton _ a, fun b memb c last => ?_⟩
      cases List.mem_singleton.mp last
      have within : b ∈ l := List.mem_eraseDups.mp memb
      rw [List.idxOf_append_of_mem within, List.idxOf_append_of_notMem mem]
      exact Nat.lt_add_right _ (List.idxOf_lt_length_of_mem within)

/-- **Without its repetitions a list has its members in the order of their first occurrences.** -/
theorem isFirsts_eraseDups (l : List α) : IsFirsts l.eraseDups l where
  mem_iff _ := List.mem_eraseDups
  nodup := nodup_eraseDups l
  ordered := pairwise_idxOf_eraseDups l

end Lists

end Provisioning
