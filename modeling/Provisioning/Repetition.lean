/-!
# Repetitions in a list

Lists of identifiers that must not repeat are checked from the front; the first
identifier that occurred before is the one to complain about.
-/

namespace Provisioning

set_option autoImplicit false

universe u

variable {α : Type u} [DecidableEq α]

/-- The first member that is among those already seen or occurred before it. -/
def firstRepeated (seen : List α) : List α → Option α
  | [] => none
  | a :: rest => if a ∈ seen then some a else firstRepeated (a :: seen) rest

/-- Nothing is repeated exactly when the list has no duplicates and none of its
members was seen before. -/
theorem firstRepeated_eq_none_iff {seen l : List α} :
    firstRepeated seen l = none ↔ l.Nodup ∧ ∀ a ∈ l, a ∉ seen := by
  induction l generalizing seen with
  | nil => simp [firstRepeated]
  | cons a rest ih =>
    by_cases h : a ∈ seen
    · simp [firstRepeated, h]
    · simp only [firstRepeated, h, if_false, ih, List.nodup_cons, List.mem_cons, not_or]
      constructor
      · rintro ⟨nodup, fresh⟩
        exact ⟨⟨fun mem => (fresh a mem).1 rfl, nodup⟩, by
          rintro b (rfl | mem)
          · exact h
          · exact (fresh b mem).2⟩
      · rintro ⟨⟨notMem, nodup⟩, fresh⟩
        exact ⟨nodup, fun b mem => ⟨fun same => notMem (same ▸ mem), fresh b (.inr mem)⟩⟩

/-- Nothing is repeated in a list exactly when it has no duplicates. -/
theorem firstRepeated_nil_eq_none_iff {l : List α} : firstRepeated [] l = none ↔ l.Nodup :=
  firstRepeated_eq_none_iff.trans (and_iff_left fun _ _ => List.not_mem_nil)

/-- Appends a member unless it is already there. -/
def appendNew (l : List α) (a : α) : List α :=
  if a ∈ l then l else l ++ [a]

end Provisioning
