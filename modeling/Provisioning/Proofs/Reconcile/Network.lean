import Provisioning.Proofs.Text.Decimal
import Provisioning.Proofs.Text.Separator
import Provisioning.Reconcile.AddressPattern

/-!
# How networks are written

A network is written as the four octets of its address in decimal, with dots between them,
a slash, and a numeral for the number of bits that are fixed.  An octet is written in one
way only; the numeral may have a plus sign and zeros in front.  Every text of this form is
read as the network that it stands for, unless a bit after the fixed ones is set, and no
other text is read.
-/

namespace Provisioning

set_option autoImplicit false

/-! ## Addresses -/

namespace Ipv4Address

variable {cs digits : List Char} {octet : UInt8} {a : Ipv4Address}

/-- The octets in decimal, with dots between them. -/
def text (a : Ipv4Address) : String :=
  Text.joined "." (a.octets.map fun octet => Text.decimal octet.toNat)

/-- The text of an octet is its numeral and nothing else. -/
theorem readOctet?_eq_some_iff :
    readOctet? digits = some octet ↔ digits = (Text.decimal octet.toNat).toList := by
  constructor
  · intro read
    simp only [readOctet?] at read
    split at read
    next valid =>
      cases read
      simp only [Bool.and_eq_true, List.all_eq_true, Bool.not_eq_true', Bool.or_eq_true,
        bne_iff_ne, beq_iff_eq, decide_eq_true_eq, List.isEmpty_eq_false_iff] at valid
      obtain ⟨⟨⟨⟨numeric, someDigit⟩, _⟩, canonical⟩, small⟩ := valid
      rw [UInt8.toNat_ofNat_of_lt' small,
        Text.toList_decimal_decimalValue numeric canonical someDigit]
    next => cases read
  · rintro rfl
    have small : octet.toNat < 256 := octet.toNat_lt
    have short : (Text.decimal octet.toNat).toList.length ≤ 3 := by
      rw [Text.toList_decimal, Nat.length_toDigits_le_iff (by decide) (by decide)]
      omega
    have canonical : (Text.decimal octet.toNat).toList.head? ≠ some '0' ∨
        (Text.decimal octet.toNat).toList.length = 1 := by
      by_cases positive : 0 < octet.toNat
      · exact .inl (Text.head?_decimal_ne positive)
      · rw [Nat.eq_zero_of_not_pos positive]
        exact .inr (by decide)
    have numeric : ∀ c ∈ (Text.decimal octet.toNat).toList, c.isDigit = true :=
      fun c => Text.isDigit_of_mem_decimal
    have someDigit : (Text.decimal octet.toNat).toList ≠ [] := by
      rw [Text.toList_decimal]
      exact Nat.toDigits_ne_nil
    rw [readOctet?, if_pos, Text.decimalValue_decimal, UInt8.ofNat_toNat]
    simp only [Bool.and_eq_true, List.all_eq_true, Bool.not_eq_true', Bool.or_eq_true,
      bne_iff_ne, beq_iff_eq, decide_eq_true_eq, List.isEmpty_eq_false_iff,
      Text.decimalValue_decimal]
    exact ⟨⟨⟨⟨numeric, someDigit⟩, short⟩, canonical⟩, small⟩

theorem slash_not_mem_text (a : Ipv4Address) : '/' ∉ a.text.toList := by
  have noDigit (octet : UInt8) : '/' ∉ (Text.decimal octet.toNat).toList :=
    Text.not_mem_decimal (by decide) octet.toNat
  simp only [text, octets, Text.toList_joined, List.map_cons, List.map_nil]
  simp [noDigit, -Text.toList_decimal]

/-- The dots in the text divide it into the octets. -/
theorem splitOn_text (a : Ipv4Address) :
    a.text.toList.splitOn '.' = a.octets.map fun octet => (Text.decimal octet.toNat).toList := by
  rw [text, Text.splitOn_joined rfl (by simp [octets])]
  · rw [List.map_map]
    rfl
  · intro part mem
    obtain ⟨octet, _, rfl⟩ := List.mem_map.mp mem
    exact Text.not_mem_decimal (by decide) octet.toNat

/-- An address is read from its text and from no other. -/
theorem read?_eq_some_iff : read? cs = some a ↔ cs = a.text.toList := by
  constructor
  · intro read
    unfold read? at read
    split at read
    next first second third fourth parts =>
      obtain ⟨octet₁, isFirst, read⟩ := Option.bind_eq_some_iff.mp read
      obtain ⟨octet₂, isSecond, read⟩ := Option.bind_eq_some_iff.mp read
      obtain ⟨octet₃, isThird, read⟩ := Option.bind_eq_some_iff.mp read
      obtain ⟨octet₄, isFourth, read⟩ := Option.bind_eq_some_iff.mp read
      cases read
      rw [Text.eq_intercalate_of_splitOn parts, readOctet?_eq_some_iff.mp isFirst, readOctet?_eq_some_iff.mp isSecond,
        readOctet?_eq_some_iff.mp isThird, readOctet?_eq_some_iff.mp isFourth, text,
        Text.toList_joined]
      rfl
    next => cases read
  · rintro rfl
    have first := readOctet?_eq_some_iff.mpr (Eq.refl (Text.decimal a.first.toNat).toList)
    have second := readOctet?_eq_some_iff.mpr (Eq.refl (Text.decimal a.second.toNat).toList)
    have third := readOctet?_eq_some_iff.mpr (Eq.refl (Text.decimal a.third.toNat).toList)
    have fourth := readOctet?_eq_some_iff.mpr (Eq.refl (Text.decimal a.fourth.toNat).toList)
    rw [read?, splitOn_text]
    simp only [octets, List.map_cons, List.map_nil, first, second, third, fourth]
    rfl

end Ipv4Address

/-! ## Networks -/

namespace Network

variable {cs : List Char} {text : String} {n : Network}

/-- One or more digits of a value, with zeros in front or without. -/
structure IsNumeral (value : Nat) (digits : List Char) : Prop where
  someDigit : digits ≠ []
  numeric : ∀ c ∈ digits, c.isDigit = true
  value : Text.decimalValue digits = value

/-- A text stands for a network: it is the text of the address, a slash, a plus sign if one
likes, and a numeral of the length. -/
def IsWrittenAs (n : Network) (text : String) : Prop :=
  ∃ sign digits, (sign = [] ∨ sign = ['+']) ∧ IsNumeral n.length digits ∧
    text.toList = n.address.text.toList ++ '/' :: (sign ++ digits)

theorem readLength?_eq_some_iff {length : { length : Nat // length ≤ 32 }} :
    readLength? cs = some length ↔
      ∃ sign digits, (sign = [] ∨ sign = ['+']) ∧ IsNumeral length digits ∧
        cs = sign ++ digits := by
  have read_iff (digits : List Char) :
      (if !digits.isEmpty && digits.all Char.isDigit then
        if h : Text.decimalValue digits ≤ 32 then some ⟨Text.decimalValue digits, h⟩ else none
      else none) = some length ↔ IsNumeral length digits := by
    constructor
    · intro read
      split at read
      next valid =>
        split at read
        next =>
          cases read
          rw [Bool.and_eq_true, List.all_eq_true, Bool.not_eq_true',
            List.isEmpty_eq_false_iff] at valid
          exact ⟨valid.1, valid.2, rfl⟩
        next => cases read
      next => cases read
    · intro numeral
      have small : Text.decimalValue digits ≤ 32 := numeral.value ▸ length.property
      rw [if_pos, dif_pos small]
      · exact congrArg some (Subtype.ext numeral.value)
      · rw [Bool.and_eq_true, List.all_eq_true, Bool.not_eq_true', List.isEmpty_eq_false_iff]
        exact ⟨numeral.someDigit, numeral.numeric⟩
  unfold readLength?
  split
  next rest =>
    refine (read_iff rest).trans ⟨fun numeral => ⟨['+'], rest, .inr rfl, numeral, rfl⟩, ?_⟩
    rintro ⟨sign, digits, rfl | rfl, numeral, parts⟩
    · -- the sign would be a digit
      rw [List.nil_append] at parts
      exact absurd (numeral.numeric '+' (parts ▸ List.mem_cons_self)) (by decide)
    · cases parts
      exact numeral
  next noPlus =>
    refine (read_iff cs).trans ⟨fun numeral => ⟨[], cs, .inl rfl, numeral, rfl⟩, ?_⟩
    rintro ⟨sign, digits, rfl | rfl, numeral, rfl⟩
    · exact numeral
    · exact absurd rfl (noPlus digits)

/-- A text that stands for a network is read as the network if its other bits are clear, and
refused for the bits that are set if they are not. -/
theorem IsWrittenAs.read_eq (written : n.IsWrittenAs text) :
    read text = if n.isAligned then .ok n else .error (.config (.hostBitsSet text)) := by
  obtain ⟨sign, digits, isSign, numeral, parts⟩ := written
  have noSlash := Ipv4Address.slash_not_mem_text n.address
  have address : Ipv4Address.read? n.address.text.toList = some n.address :=
    Ipv4Address.read?_eq_some_iff.mpr rfl
  have length : readLength? (sign ++ digits) = some ⟨n.length, n.length_le⟩ :=
    readLength?_eq_some_iff.mpr ⟨sign, digits, isSign, numeral, rfl⟩
  simp only [read, parts, Text.takeWhile_ne_of_not_mem noSlash,
    Text.dropWhile_ne_of_not_mem noSlash, address, length]

/-- Nothing is read but a text that stands for a network whose other bits are clear. -/
theorem read_eq_ok_iff : read text = .ok n ↔ n.IsWrittenAs text ∧ n.isAligned = true := by
  constructor
  · intro accepted
    simp only [read] at accepted
    split at accepted
    next => cases accepted
    next rest =>
      split at accepted
      next => cases accepted
      next isAddress =>
        split at accepted
        next => cases accepted
        next isLength =>
          split at accepted
          next aligned =>
            cases accepted
            obtain ⟨sign, digits, isSign, numeral, rfl⟩ := readLength?_eq_some_iff.mp isLength
            refine ⟨⟨sign, digits, isSign, numeral, ?_⟩, aligned⟩
            rw [← Ipv4Address.read?_eq_some_iff.mp isAddress,
              Text.takeWhile_append_cons_of_dropWhile rest]
          next => cases accepted
  · rintro ⟨written, aligned⟩
    rw [written.read_eq, if_pos aligned]

/-- A text that is read stands for one network. -/
theorem IsWrittenAs.unique {other : Network} (written : n.IsWrittenAs text)
    (aligned : n.isAligned = true) (otherWritten : other.IsWrittenAs text) : other = n := by
  have isRead : read text = .ok n := read_eq_ok_iff.mpr ⟨written, aligned⟩
  rw [otherWritten.read_eq] at isRead
  split at isRead
  next =>
    cases isRead
    rfl
  next => cases isRead

end Network

end Provisioning
