/-!
# Finite maps listed in key order

A finite map is the list of its entries in strictly increasing key order.  Since
the order is part of the type, a map has exactly one representation: two maps
with the same entries are equal, whatever order the entries arrived in.  Answers
that list a map, such as the registered segments of a store or the dependencies
of a resource, read the list as it is.
-/

namespace Provisioning

set_option autoImplicit false

universe u v

/-- Entries in strictly increasing key order. -/
structure SortedMap (κ : Type u) (α : Type v) [LT κ] where
  entries : List (κ × α)
  sorted : entries.Pairwise (·.1 < ·.1)

namespace SortedMap

variable {κ : Type u} {α : Type v} [LT κ]

/-- The map without entries. -/
def empty : SortedMap κ α :=
  ⟨[], List.Pairwise.nil⟩

instance : EmptyCollection (SortedMap κ α) := ⟨empty⟩
instance : Inhabited (SortedMap κ α) := ⟨empty⟩

/-- Maps are equal when they list the same entries. -/
@[ext] theorem ext {m n : SortedMap κ α} (h : m.entries = n.entries) : m = n := by
  cases m; cases n; cases h; rfl

instance [DecidableEq κ] [DecidableEq α] : DecidableEq (SortedMap κ α) := fun m n =>
  decidable_of_iff (m.entries = n.entries) ⟨ext, fun h => h ▸ rfl⟩

/-- The number of entries. -/
def size (m : SortedMap κ α) : Nat :=
  m.entries.length

/-- The keys in increasing order. -/
def keys (m : SortedMap κ α) : List κ :=
  m.entries.map (·.1)

/-- The value of a key. -/
def get? [DecidableEq κ] (m : SortedMap κ α) (k : κ) : Option α :=
  (m.entries.find? (·.1 = k)).map (·.2)

/-- Whether a key has a value. -/
def contains [DecidableEq κ] (m : SortedMap κ α) (k : κ) : Bool :=
  m.entries.any (·.1 = k)

section Insertion

variable [LE κ] [DecidableEq κ] [DecidableLT κ]

/-- Puts an entry in its place, replacing the value of a key already present. -/
def insertEntry (k : κ) (a : α) : List (κ × α) → List (κ × α)
  | [] => [(k, a)]
  | e :: rest =>
    if k < e.1 then (k, a) :: e :: rest
    else if k = e.1 then (k, a) :: rest
    else e :: insertEntry k a rest

omit [LE κ] in
/-- Every entry after an insertion is the new one or an old one. -/
theorem eq_or_mem_of_mem_insertEntry {k : κ} {a : α} {e : κ × α} {l : List (κ × α)}
    (h : e ∈ insertEntry k a l) : e = (k, a) ∨ e ∈ l := by
  induction l with
  | nil => simpa [insertEntry] using h
  | cons head rest ih =>
    simp only [insertEntry] at h
    split at h
    · simpa using h
    · split at h
      · simp only [List.mem_cons] at h ⊢
        rcases h with rfl | h
        · exact .inl rfl
        · exact .inr (.inr h)
      · simp only [List.mem_cons] at h ⊢
        rcases h with rfl | h
        · exact .inr (.inl rfl)
        · rcases ih h with rfl | h
          · exact .inl rfl
          · exact .inr (.inr h)

variable [Std.IsLinearOrder κ] [Std.LawfulOrderLT κ]

/-- Insertion keeps the entries in order. -/
theorem pairwise_insertEntry (k : κ) (a : α) {l : List (κ × α)}
    (h : l.Pairwise (·.1 < ·.1)) : (insertEntry k a l).Pairwise (·.1 < ·.1) := by
  induction l with
  | nil => simp [insertEntry]
  | cons e rest ih =>
    obtain ⟨first, others⟩ := List.pairwise_cons.mp h
    simp only [insertEntry]
    split
    next less =>
      refine List.pairwise_cons.mpr ⟨fun x hx => ?_, h⟩
      rcases List.mem_cons.mp hx with rfl | hx
      · exact less
      · exact Std.lt_trans less (first x hx)
    next notLess =>
      split
      next same =>
        subst same
        exact List.pairwise_cons.mpr ⟨first, others⟩
      next differ =>
        refine List.pairwise_cons.mpr ⟨fun x hx => ?_, ih others⟩
        rcases eq_or_mem_of_mem_insertEntry hx with rfl | hx
        · exact Std.lt_of_le_of_ne (Std.not_lt.mp notLess) (Ne.symm differ)
        · exact first x hx

/-- Gives a key a value, in place of any value it had. -/
def insert (m : SortedMap κ α) (k : κ) (a : α) : SortedMap κ α :=
  ⟨insertEntry k a m.entries, pairwise_insertEntry k a m.sorted⟩

/-- Changes the value of a key; a key without a value starts from `fallback`. -/
def alter (m : SortedMap κ α) (k : κ) (fallback : α) (f : α → α) : SortedMap κ α :=
  m.insert k (f ((m.get? k).getD fallback))

/-- The map with the given entries; of several for one key the last counts. -/
def ofList (l : List (κ × α)) : SortedMap κ α :=
  l.foldl (fun m e => m.insert e.1 e.2) empty

end Insertion

end SortedMap

/-! ## Finite sets -/

/-- A finite set, listed in increasing order. -/
abbrev SortedSet (κ : Type u) [LT κ] := SortedMap κ Unit

namespace SortedSet

variable {κ : Type u} [LT κ] [LE κ] [DecidableEq κ] [DecidableLT κ]
  [Std.IsLinearOrder κ] [Std.LawfulOrderLT κ]

/-- Adds a member. -/
def add (s : SortedSet κ) (k : κ) : SortedSet κ :=
  SortedMap.insert s k ()

end SortedSet

end Provisioning
