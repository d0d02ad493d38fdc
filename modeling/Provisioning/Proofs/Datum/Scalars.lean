import Provisioning.Datum.Json
import Provisioning.Datum.Printer
import Provisioning.Proofs.Text.Decimal

/-!
# Scalars are read back

A string is read back whatever it holds, and whatever follows its closing mark.  A numeral has
no mark at its end: it is read back when the number fits 64 bits, and when no character follows
that could go on with it.
-/

namespace Provisioning.Datum.Json

set_option autoImplicit false

variable {cs rest : List Char} {c : Char} {n : Nat}

/-! ## Strings -/

/-- An escape with the number of a character that is no half of a pair is that character, also
when another such escape follows. -/
theorem stringBody_numbered {a b c d : Char} (number : hexNumber? [a, b, c, d] = some n)
    (notHigh : isHighSurrogate n = false) (notLow : isLowSurrogate n = false) (rest : List Char) :
    stringBody ('\\' :: 'u' :: a :: b :: c :: d :: rest) =
      (stringBody rest).map (push (Char.ofNat n)) := by
  rw [stringBody.eq_def]
  split <;> grind

/-- A character that needs no escape is itself. -/
theorem stringBody_plain (notMark : c ≠ '"') (notBackslash : c ≠ '\\') (printed : ¬ c.toNat < 32)
    (rest : List Char) : stringBody (c :: rest) = (stringBody rest).map (push c) := by
  rw [stringBody.eq_def]
  split <;> grind

theorem stringBody_controlEscape (control : c.toNat < 32) (rest : List Char) :
    stringBody (controlEscape c ++ rest) = (stringBody rest).map (push c) := by
  -- the numbers of the 32 control characters have two digits
  have all : ∀ n < 32,
      controlEscape (Char.ofNat n) =
        ['\\', 'u', '0', '0', (n / 16).digitChar, (n % 16).digitChar] ∧
      hexNumber? ['0', '0', (n / 16).digitChar, (n % 16).digitChar] = some n ∧
      isHighSurrogate n = false ∧ isLowSurrogate n = false := by
    decide
  obtain ⟨written, number, notHigh, notLow⟩ := all c.toNat control
  have read := stringBody_numbered number notHigh notLow rest
  rw [Char.ofNat_toNat] at written read
  rw [written]
  exact read

/-- What is written for a character is read as that character. -/
theorem stringBody_escapeChar (c : Char) (rest : List Char) :
    stringBody (escapeChar c ++ rest) = (stringBody rest).map (push c) := by
  unfold escapeChar
  split
  case h_8 notMark notBackslash _ _ _ _ _ =>
    split
    next control => exact stringBody_controlEscape control rest
    next plain => exact stringBody_plain notMark notBackslash plain rest
  all_goals rfl

/-- The characters of a string in front of others. -/
theorem toList_stringText_append (s : String) (rest : List Char) :
    (stringText s).toList ++ rest = '"' :: (s.toList.flatMap escapeChar ++ '"' :: rest) := by
  simp [stringText]

/-- **A string is read back**, and what follows it is left. -/
theorem stringBody_escaped (cs rest : List Char) :
    stringBody (cs.flatMap escapeChar ++ '"' :: rest) = some (some cs, rest) := by
  induction cs with
  | nil => rfl
  | cons c cs ih =>
    rw [List.flatMap_cons, List.append_assoc, stringBody_escapeChar, ih]
    rfl

/-! ## Numbers -/

/-- What may stand behind a value: nothing, or a comma or a line break first. -/
inductive EndsValue : List Char → Prop where
  | nil : EndsValue []
  | comma (rest : List Char) : EndsValue (',' :: rest)
  | lineBreak (rest : List Char) : EndsValue ('\n' :: rest)

/-- An integer that fits 64 bits, signed or unsigned. -/
def Fits (n : Int) : Prop :=
  -(Nat.pow 2 63 : Nat) ≤ n ∧ n < (Nat.pow 2 64 : Nat)

theorem digits?_append (numeric : ∀ c ∈ cs, c.isDigit = true) (someDigit : cs ≠ [])
    (ends : EndsValue rest) : digits? (cs ++ rest) = some (cs, rest) := by
  have noDigit : rest.takeWhile Char.isDigit = [] := by cases ends <;> rfl
  have allLeft : rest.dropWhile Char.isDigit = rest := by cases ends <;> rfl
  rw [digits?, List.takeWhile_append_of_pos numeric, noDigit, List.append_nil,
    List.dropWhile_append_of_pos numeric, allLeft]
  cases cs with
  | nil => exact absurd rfl someDigit
  | cons c cs => rfl

/-- A numeral is a whole part, for it has no superfluous zero in front. -/
theorem wholePart?_decimal (n : Nat) (ends : EndsValue rest) :
    wholePart? ((Text.decimal n).toList ++ rest) = some ((Text.decimal n).toList, rest) := by
  rw [wholePart?, digits?_append (fun c => Text.isDigit_of_mem_decimal) (by simp) ends]
  split
  next second more _ zeroFirst =>
    simp only [Option.some.injEq, Prod.mk.injEq] at zeroFirst
    by_cases positive : 0 < n
    · exact absurd (by rw [zeroFirst.1]; rfl) (Text.head?_decimal_ne positive)
    · obtain rfl : n = 0 := by omega
      cases zeroFirst.1
  next => rfl

theorem exists_cons_decimal (n : Nat) :
    ∃ first more, (Text.decimal n).toList = first :: more ∧ first.isDigit = true := by
  obtain ⟨first, more, digits⟩ : ∃ first more, (Text.decimal n).toList = first :: more :=
    List.exists_cons_of_ne_nil (by simp)
  exact ⟨first, more, digits, Text.isDigit_of_mem_decimal (digits ▸ List.mem_cons_self)⟩

/-- A number begins with a sign or a digit. -/
theorem exists_cons_signedDecimal (n : Int) :
    ∃ first more, (Text.signedDecimal n).toList = first :: more ∧
      (first = '-' ∨ first.isDigit = true) := by
  cases n with
  | ofNat n =>
    obtain ⟨first, more, digits, isDigit⟩ := exists_cons_decimal n
    exact ⟨first, more, digits, .inr isDigit⟩
  | negSucc n => exact ⟨'-', _, by simp [Text.signedDecimal]; rfl, .inl rfl⟩

theorem integer?_ofNat (notAbove : n < Nat.pow 2 64) : integer? false n = some (.ofNat n) :=
  if_pos notAbove

theorem integer?_negSucc (notBelow : n + 1 ≤ Nat.pow 2 63) :
    integer? true (n + 1) = some (.negSucc n) := by
  have small : 0 < n + 1 ∧ n + 1 ≤ Nat.pow 2 63 := ⟨Nat.succ_pos n, notBelow⟩
  rw [integer?, if_pos rfl, if_pos small]
  rfl

/-- **A number that fits is read back.** -/
theorem number?_signedDecimal {n : Int} (fits : Fits n) (ends : EndsValue rest) :
    number? ((Text.signedDecimal n).toList ++ rest) = some (.integer n, rest) := by
  have noFraction : fraction? rest = some ([], rest) := by cases ends <;> rfl
  have noExponent : exponent? rest = some ([], rest) := by cases ends <;> rfl
  obtain ⟨notBelow, notAbove⟩ := fits
  cases n with
  | ofNat n =>
    have value := integer?_ofNat (Int.ofNat_lt.mp notAbove)
    have noSign (more : List Char) : (Text.decimal n).toList ++ rest ≠ '-' :: more := by
      obtain ⟨first, others, digits, isDigit⟩ := exists_cons_decimal n
      rw [digits]
      rintro ⟨⟩
      cases isDigit
    rw [Text.signedDecimal, number?]
    · simp [-Text.toList_decimal, wholePart?_decimal n ends, noFraction, noExponent, value]
    · exact noSign
  | negSucc n =>
    have value := integer?_negSucc (n := n) (by omega)
    have text : (Text.signedDecimal (.negSucc n)).toList ++ rest =
        '-' :: ((Text.decimal (n + 1)).toList ++ rest) := by
      simp [Text.signedDecimal]
    rw [text, number?]
    simp [-Text.toList_decimal, wholePart?_decimal (n + 1) ends, noFraction, noExponent, value]

end Provisioning.Datum.Json
