import Mathlib.Data.List.Sort
import Provisioning.SortedMap

/-!
# The entries of a sorted map

An insertion adds one entry and drops the entry that the key had before.  Since
the keys increase strictly, a key has at most one entry, finding the value of a
key is the same as finding the entry in the list, and a map is known by its
entries, whatever order they arrived in.
-/

namespace Provisioning.SortedMap

set_option autoImplicit false

universe u v

variable {κ : Type u} {α : Type v} [LT κ] [LE κ] [DecidableEq κ] [DecidableLT κ]
  [Std.IsLinearOrder κ] [Std.LawfulOrderLT κ] {m : SortedMap κ α} {k : κ} {a b : α} {e : κ × α}

/-! ## Insertion -/

theorem mem_insertEntry_iff {l : List (κ × α)} (sorted : l.Pairwise (·.1 < ·.1)) :
    e ∈ insertEntry k a l ↔ e = (k, a) ∨ e ∈ l ∧ e.1 ≠ k := by
  induction l with
  | nil => simp [insertEntry]
  | cons head rest ih =>
    obtain ⟨first, others⟩ := List.pairwise_cons.mp sorted
    rw [insertEntry]
    split
    next less =>
      have distinct : ∀ x ∈ head :: rest, x.1 ≠ k := by
        intro x mem same
        rcases List.mem_cons.mp mem with rfl | mem
        · exact Std.lt_irrefl (same ▸ less)
        · exact Std.lt_irrefl (same ▸ Std.lt_trans less (first x mem))
      rw [List.mem_cons]
      constructor
      · rintro (rfl | mem)
        · exact .inl rfl
        · exact .inr ⟨mem, distinct e mem⟩
      · rintro (rfl | ⟨mem, _⟩)
        · exact .inl rfl
        · exact .inr mem
    next notLess =>
      split
      next same =>
        subst same
        rw [List.mem_cons, List.mem_cons]
        constructor
        · rintro (rfl | mem)
          · exact .inl rfl
          · exact .inr ⟨.inr mem, fun same => Std.lt_irrefl (same ▸ first e mem)⟩
        · rintro (rfl | ⟨rfl | mem, differs⟩)
          · exact .inl rfl
          · exact absurd rfl differs
          · exact .inr mem
      next differ =>
        rw [List.mem_cons, List.mem_cons, ih others]
        constructor
        · rintro (rfl | rfl | ⟨mem, differs⟩)
          · exact .inr ⟨.inl rfl, Ne.symm differ⟩
          · exact .inl rfl
          · exact .inr ⟨.inr mem, differs⟩
        · rintro (rfl | ⟨rfl | mem, differs⟩)
          · exact .inr (.inl rfl)
          · exact .inl rfl
          · exact .inr (.inr ⟨mem, differs⟩)

/-- An insertion adds one entry in place of the entry that the key had. -/
theorem mem_entries_insert :
    e ∈ (m.insert k a).entries ↔ e = (k, a) ∨ e ∈ m.entries ∧ e.1 ≠ k :=
  mem_insertEntry_iff m.sorted

/-! ## Values of keys -/

omit [DecidableEq κ] [DecidableLT κ] [Std.IsLinearOrder κ] in
/-- A key has at most one value. -/
theorem eq_of_mem_entries (first : (k, a) ∈ m.entries) (second : (k, b) ∈ m.entries) : a = b := by
  obtain ⟨entries, sorted⟩ := m
  induction entries with
  | nil => cases first
  | cons head rest ih =>
    obtain ⟨least, others⟩ := List.pairwise_cons.mp sorted
    rcases List.mem_cons.mp first with rfl | later
    · rcases List.mem_cons.mp second with same | later
      · cases same
        rfl
      · exact absurd (least (k, b) later) Std.lt_irrefl
    · rcases List.mem_cons.mp second with rfl | later'
      · exact absurd (least (k, a) later) Std.lt_irrefl
      · exact ih others later later'

omit [DecidableLT κ] [Std.IsLinearOrder κ] in
/-- The value of a key is the one in its entry. -/
theorem get?_eq_some_iff : m.get? k = some a ↔ (k, a) ∈ m.entries := by
  rw [get?, Option.map_eq_some_iff]
  constructor
  · rintro ⟨⟨k', a'⟩, found, rfl⟩
    have same : k' = k := by simpa using List.find?_some found
    exact same ▸ List.mem_of_find?_eq_some found
  · intro mem
    match found : m.entries.find? (·.1 = k) with
    | none =>
      have absent := List.find?_eq_none.mp found _ mem
      simp at absent
    | some (k', a') =>
      have same : k' = k := by simpa using List.find?_some found
      subst same
      exact ⟨(k', a'), found, eq_of_mem_entries (List.mem_of_find?_eq_some found) mem⟩

theorem get?_insert_self (m : SortedMap κ α) (k : κ) (a : α) : (m.insert k a).get? k = some a :=
  get?_eq_some_iff.mpr (mem_entries_insert.mpr (.inl rfl))

theorem get?_insert_of_ne {other : κ} (differ : other ≠ k) :
    (m.insert k a).get? other = m.get? other := by
  refine Option.ext ?_
  intro b
  rw [get?_eq_some_iff, get?_eq_some_iff, mem_entries_insert]
  constructor
  · rintro (same | ⟨old, _⟩)
    · exact absurd (Prod.mk.inj same).1 differ
    · exact old
  · intro old
    exact .inr ⟨old, differ⟩

/-! ## Keys -/

omit [LE κ] [DecidableLT κ] [Std.IsLinearOrder κ] [Std.LawfulOrderLT κ] in
theorem contains_iff_mem_keys : m.contains k = true ↔ k ∈ m.keys := by
  simp only [contains, keys, List.any_eq_true, decide_eq_true_eq, List.mem_map]

theorem contains_insert {other : κ} :
    (m.insert k a).contains other = true ↔ other = k ∨ m.contains other = true := by
  simp only [contains, List.any_eq_true, decide_eq_true_eq, mem_entries_insert]
  constructor
  · rintro ⟨e, rfl | ⟨old, _⟩, rfl⟩
    · exact .inl rfl
    · exact .inr ⟨e, old, rfl⟩
  · rintro (rfl | ⟨e, old, rfl⟩)
    · exact ⟨(other, a), .inl rfl, rfl⟩
    · by_cases same : e.1 = k
      · exact ⟨(k, a), .inl rfl, same.symm⟩
      · exact ⟨e, .inr ⟨old, same⟩, rfl⟩

omit [LE κ] [DecidableEq κ] [DecidableLT κ] [Std.IsLinearOrder κ] [Std.LawfulOrderLT κ] in
theorem pairwise_keys (m : SortedMap κ α) : m.keys.Pairwise (· < ·) :=
  List.pairwise_map.mpr m.sorted

omit [DecidableEq κ] [DecidableLT κ] [Std.IsLinearOrder κ] in
theorem nodup_keys (m : SortedMap κ α) : m.keys.Nodup := by
  refine m.pairwise_keys.imp ?_
  rintro first second less rfl
  exact Std.lt_irrefl less

/-! ## Maps with the same entries -/

omit [DecidableEq κ] [DecidableLT κ] in
/-- A map is known by its entries. -/
theorem eq_of_mem_entries_iff {n : SortedMap κ α}
    (same : ∀ e, e ∈ m.entries ↔ e ∈ n.entries) : m = n := by
  have antisymm : Std.Antisymm fun first second : κ × α => first.1 < second.1 :=
    ⟨fun _ _ less greater => absurd (Std.lt_trans less greater) Std.lt_irrefl⟩
  have irrefl : Std.Irrefl fun first second : κ × α => first.1 < second.1 :=
    ⟨fun _ => Std.lt_irrefl⟩
  exact ext (m.sorted.eq_of_mem_iff n.sorted same)

/-- Inserting what a key has already changes nothing. -/
theorem insert_of_get? (found : m.get? k = some a) : m.insert k a = m := by
  have mem := get?_eq_some_iff.mp found
  refine eq_of_mem_entries_iff fun e => ?_
  rw [mem_entries_insert]
  constructor
  · rintro (rfl | ⟨old, _⟩)
    · exact mem
    · exact old
  · intro old
    by_cases same : e.1 = k
    · obtain ⟨key, value⟩ := e
      cases same
      exact .inl (congrArg (Prod.mk key) (eq_of_mem_entries old mem))
    · exact .inr ⟨old, same⟩

/-- Adding what is a member already changes nothing. -/
theorem add_of_contains {members : SortedSet κ} (isMember : members.contains k = true) :
    SortedSet.add members k = members := by
  obtain ⟨⟨_, ⟨⟩⟩, mem, rfl⟩ := List.mem_map.mp (contains_iff_mem_keys.mp isMember)
  exact insert_of_get? (get?_eq_some_iff.mpr mem)

/-- Of two values that a key is given, the second one counts. -/
theorem insert_insert_self (m : SortedMap κ α) (k : κ) (a b : α) :
    (m.insert k a).insert k b = m.insert k b := by
  refine eq_of_mem_entries_iff fun e => ?_
  simp only [mem_entries_insert]
  constructor
  · rintro (rfl | ⟨rfl | ⟨old, _⟩, differ⟩)
    · exact .inl rfl
    · exact absurd rfl differ
    · exact .inr ⟨old, differ⟩
  · rintro (rfl | ⟨old, differ⟩)
    · exact .inl rfl
    · exact .inr ⟨.inr ⟨old, differ⟩, differ⟩

/-- The order of insertions does not matter, unless they give one key two values. -/
theorem insert_comm {other : κ} (agree : k = other → a = b) :
    (m.insert k a).insert other b = (m.insert other b).insert k a := by
  refine eq_of_mem_entries_iff ?_
  intro e
  simp only [mem_entries_insert]
  by_cases same : k = other
  · cases same
    cases agree rfl
    exact Iff.rfl
  · constructor
    · rintro (rfl | ⟨rfl | ⟨old, left⟩, right⟩)
      · exact .inr ⟨.inl rfl, Ne.symm same⟩
      · exact .inl rfl
      · exact .inr ⟨.inr ⟨old, right⟩, left⟩
    · rintro (rfl | ⟨rfl | ⟨old, left⟩, right⟩)
      · exact .inr ⟨.inl rfl, same⟩
      · exact .inl rfl
      · exact .inr ⟨.inr ⟨old, right⟩, left⟩

end Provisioning.SortedMap
