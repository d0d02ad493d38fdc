import Provisioning.Proofs.Registration.SourceSubnet
import Provisioning.Reconcile.SettingName

/-!
# Reading the names of managed settings

A managed name is read back as the connection and the source that it was made
of, provided that neither is empty or holds a bar.  Segment ids meet both
conditions, so the names for two different pairs of segment ids differ.  In the
other direction a name that can be read is the name of what is read from it.
-/

namespace Provisioning

set_option autoImplicit false

/-- No character of a segment id separates the parts of a name. -/
theorem separator_not_mem_of_isSubnetId {id : String} (valid : isSubnetId id = true) :
    SettingName.separator ∉ id.toList :=
  not_mem_of_isSubnetId (by decide) valid

namespace SettingName

variable {connection source name : String}

/-! ## The parts of a name -/

theorem toList_text (connection source : String) :
    (text connection source).toList =
      marker.toList ++ separator :: (connection.toList ++ separator :: source.toList) := by
  simp [text]

/-- The bars in a name divide it into the marker, the connection and the source. -/
theorem splitOn_text (plainConnection : separator ∉ connection.toList)
    (plainSource : separator ∉ source.toList) :
    (text connection source).toList.splitOn separator =
      [marker.toList, connection.toList, source.toList] := by
  have plainMarker : separator ∉ marker.toList := by decide
  rw [toList_text, List.splitOn_append_cons_self_of_not_mem plainMarker,
    List.splitOn_append_cons_self_of_not_mem plainConnection,
    List.splitOn_eq_singleton plainSource]

/-! ## Both directions -/

/-- A name is read as two texts exactly when the bars in it divide it into the marker and these
texts, and neither of them is empty. -/
theorem read?_eq_some_iff :
    read? name = some (connection, source) ↔
      name.toList.splitOn separator = [marker.toList, connection.toList, source.toList] ∧
        connection.toList ≠ [] ∧ source.toList ≠ [] := by
  constructor
  · intro read
    unfold read? at read
    split at read
    next first left right parts =>
      split at read
      next known =>
        simp only [Option.some.injEq, Prod.mk.injEq] at read
        obtain ⟨rfl, rfl⟩ := read
        simp only [Bool.and_eq_true, beq_iff_eq, Bool.not_eq_true', List.isEmpty_eq_false_iff]
          at known
        obtain ⟨⟨rfl, someConnection⟩, someSource⟩ := known
        simp only [String.toList_ofList]
        exact ⟨parts, someConnection, someSource⟩
      next => cases read
    next => cases read
  · rintro ⟨parts, someConnection, someSource⟩
    rw [read?, parts]
    simp [someConnection, someSource]

/-- A name made of parts that are not empty and hold no bar is read as these parts. -/
theorem read?_text (someConnection : connection.toList ≠ []) (someSource : source.toList ≠ [])
    (plainConnection : separator ∉ connection.toList)
    (plainSource : separator ∉ source.toList) :
    read? (text connection source) = some (connection, source) :=
  read?_eq_some_iff.mpr ⟨splitOn_text plainConnection plainSource, someConnection, someSource⟩

/-- A name that can be read is the name of what is read from it. -/
theorem text_of_read? (read : read? name = some (connection, source)) :
    text connection source = name := by
  apply String.toList_injective
  rw [toList_text, Text.eq_intercalate_of_splitOn (read?_eq_some_iff.mp read).1]
  simp

/-- A text that is one part is that part. -/
theorem eq_of_splitOn_eq_singleton {text part : List Char}
    (parts : text.splitOn separator = [part]) : part = text := by
  rw [Text.eq_intercalate_of_splitOn parts, List.intercalate_singleton]

/-- What is read from a name made of two parts is these parts.  Neither of them can hold a
bar, for then the name would have more parts. -/
theorem eq_of_read?_text {connection' source' : String}
    (read : read? (text connection source) = some (connection', source')) :
    connection = connection' ∧ source = source' := by
  have plainMarker : separator ∉ marker.toList := by decide
  have parts := (read?_eq_some_iff.mp read).1
  rw [toList_text, List.splitOn_append_cons_self_of_not_mem plainMarker,
    List.splitOn_append_cons_self] at parts
  have behindMarker := (List.cons.inj parts).2
  rcases List.append_eq_cons_iff.mp behindMarker with ⟨none, _⟩ | ⟨more, isLeft, rest⟩
  · exact absurd none (List.splitOn_ne_nil _ _)
  · rcases List.append_eq_singleton_iff.mp rest.symm with ⟨noMore, isRight⟩ | ⟨_, none⟩
    · subst noMore
      exact ⟨String.toList_injective (eq_of_splitOn_eq_singleton isLeft).symm,
        String.toList_injective (eq_of_splitOn_eq_singleton isRight).symm⟩
    · exact absurd none (List.splitOn_ne_nil _ _)

/-- Names made of segment ids are read as these segment ids. -/
theorem read?_text_of_isSubnetId (connectionValid : isSubnetId connection = true)
    (sourceValid : isSubnetId source = true) :
    read? (text connection source) = some (connection, source) :=
  read?_text (toList_ne_nil_of_isSubnetId connectionValid)
    (toList_ne_nil_of_isSubnetId sourceValid)
    (separator_not_mem_of_isSubnetId connectionValid)
    (separator_not_mem_of_isSubnetId sourceValid)

end SettingName

end Provisioning
