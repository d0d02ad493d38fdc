import Provisioning.Text.Quoted

/-!
# Texts with separators

A separator that does not occur in the parts of a text tells them apart: the text is divided
into its parts at the separators, and the first of them ends the first part.
-/

namespace Provisioning.Text

set_option autoImplicit false

variable {separator : String} {parts : List String} {cs before behind : List Char} {c : Char}

theorem toList_joined (separator : String) (parts : List String) :
    (joined separator parts).toList = separator.toList.intercalate (parts.map String.toList) := by
  induction parts with
  | nil => rfl
  | cons first rest ih =>
    cases rest with
    | nil => simp [joined]
    | cons second others =>
      rw [joined, String.toList_append, String.toList_append, ih]
      · simp
      · simp

/-- The separator stands between the first part and the others, when there are others. -/
theorem toList_joined_cons (isChar : separator.toList = [c]) (first : String)
    (somePart : parts ≠ []) :
    (joined separator (first :: parts)).toList =
      first.toList ++ c :: (joined separator parts).toList := by
  rw [joined, String.toList_append, String.toList_append, isChar, List.append_assoc,
    List.singleton_append]
  exact somePart

/-- A text is what the separators divide it into, with the separators between. -/
theorem eq_intercalate_of_splitOn {fields : List (List Char)} (divided : cs.splitOn c = fields) :
    cs = [c].intercalate fields := by
  rw [← divided, List.intercalate_splitOn]

/-- Parts that do not hold the separator are told apart by it. -/
theorem splitOn_joined (isChar : separator.toList = [c]) (somePart : parts ≠ [])
    (plain : ∀ part ∈ parts, c ∉ part.toList) :
    (joined separator parts).toList.splitOn c = parts.map String.toList := by
  rw [toList_joined, isChar]
  refine List.splitOn_intercalate c (fun part mem => ?_) (mt List.map_eq_nil_iff.mp somePart)
  obtain ⟨text, here, rfl⟩ := List.mem_map.mp mem
  exact plain text here

/-- No part that the separators divide a text into holds one of them.  The induction is on the
length of the text, which is cut at its first separator. -/
theorem not_mem_of_mem_splitOn {part : List Char} (mem : part ∈ cs.splitOn c) : c ∉ part := by
  induction size : cs.length using Nat.strongRecOn generalizing cs with
  | ind size' ih =>
    by_cases divided : c ∈ cs
    · obtain ⟨before, behind, rfl, notBefore⟩ := List.eq_append_cons_of_mem divided
      rw [List.splitOn_append_cons_self_of_not_mem notBefore] at mem
      rcases List.mem_cons.mp mem with rfl | later
      · exact notBefore
      · have shorter : behind.length < size' := by
          rw [← size, List.length_append, List.length_cons]
          omega
        exact ih behind.length shorter later rfl
    · rw [List.splitOn_eq_singleton divided] at mem
      exact List.mem_singleton.mp mem ▸ divided

/-- A part that does not hold the separator is cut off at the first separator; the later ones
are all in the rest. -/
theorem cut_append_cons {first rest : List Char} (notFirst : c ∉ first)
    (same : first ++ c :: rest = before ++ c :: behind) :
    before = first ∨ ∃ more, before = first ++ c :: more ∧ rest = more ++ c :: behind := by
  rcases List.append_eq_append_iff.mp same with ⟨more, rfl, tail⟩ | ⟨more, rfl, tail⟩
  · cases more with
    | nil => exact .inl (List.append_nil first)
    | cons other more =>
      rw [List.cons_append] at tail
      obtain ⟨rfl, later⟩ := List.cons.inj tail
      exact .inr ⟨more, rfl, later⟩
  · cases more with
    | nil => exact .inl (List.append_nil before).symm
    | cons other more =>
      rw [List.cons_append] at tail
      obtain ⟨rfl, _⟩ := List.cons.inj tail
      exact absurd (List.mem_append_right before List.mem_cons_self) notFirst

/-! ## Lines -/

/-- The lines that the line breaks divide a text into. -/
def linesOf (text : String) : List String :=
  (text.toList.splitOn '\n').map String.ofList

/-- Lines without line breaks are the lines of the text they are joined to. -/
theorem linesOf_joined (somePart : parts ≠ []) (plain : ∀ part ∈ parts, '\n' ∉ part.toList) :
    linesOf (joined "\n" parts) = parts := by
  rw [linesOf, splitOn_joined rfl somePart plain, List.map_map]
  exact List.map_id'' (fun _ => String.ofList_toList) parts

/-! ## The first separator -/

theorem bne_of_mem_of_not_mem (notBefore : c ∉ before) :
    ∀ other ∈ before, (other != c) = true :=
  fun _ mem => bne_iff_ne.mpr fun same => notBefore (same ▸ mem)

theorem takeWhile_ne_of_not_mem (notBefore : c ∉ before) :
    (before ++ c :: behind).takeWhile (· != c) = before := by
  rw [List.takeWhile_append_of_pos (bne_of_mem_of_not_mem notBefore),
    List.takeWhile_cons_of_neg (by simp), List.append_nil]

theorem dropWhile_ne_of_not_mem (notBefore : c ∉ before) :
    (before ++ c :: behind).dropWhile (· != c) = c :: behind := by
  rw [List.dropWhile_append_of_pos (bne_of_mem_of_not_mem notBefore),
    List.dropWhile_cons_of_neg (by simp)]

/-- Where characters are left, the text is cut at the first separator. -/
theorem takeWhile_append_cons_of_dropWhile {first : Char}
    (rest : cs.dropWhile (· != c) = first :: behind) :
    cs.takeWhile (· != c) ++ c :: behind = cs := by
  have isSeparator : first = c := by
    have stops := List.head?_dropWhile_not (· != c) cs
    rw [rest] at stops
    simpa using stops
  rw [← isSeparator, ← rest, isSeparator, List.takeWhile_append_dropWhile]

/-! ## The start and the end of a text -/

end Provisioning.Text
