import Mathlib.Data.Nat.Bitwise
import Provisioning.Reconcile.AddressPattern

/-!
# Leading bits

The leading bits of an address are those of its octets, one octet after the other.  Numbers
agree in their leading bits when they are the same without the others, so the octets that
agree with one whose other bits are clear are the next ones that follow it.  What is to be
left of each octet can also be taken from a mask, octet by octet; the arithmetic on octets that
this takes is exact.
-/

namespace Provisioning

set_option autoImplicit false

/-! ## Bit vectors -/

section BitVec

variable {v w k : Nat} {x x' : BitVec v} {y y' : BitVec w}

/-- The first bits are the same. -/
def SameStart (k : Nat) (x x' : BitVec v) : Prop :=
  ∀ i < k, x.getMsbD i = x'.getMsbD i

theorem sameStart_append_iff :
    SameStart k (x ++ y) (x' ++ y') ↔ SameStart (min k v) x x' ∧ SameStart (k - v) y y' := by
  constructor
  · intro same
    refine ⟨fun i lt => ?_, fun i lt => ?_⟩
    · simpa [BitVec.getMsbD_append, show ¬ v ≤ i by omega] using same i (by omega)
    · simpa [BitVec.getMsbD_append] using same (v + i) (by omega)
  · rintro ⟨first, second⟩ i lt
    rw [BitVec.getMsbD_append, BitVec.getMsbD_append]
    by_cases behind : v ≤ i
    · rw [if_pos behind, if_pos behind]
      exact second (i - v) (by omega)
    · rw [if_neg behind, if_neg behind]
      exact first i (by omega)

/-- The first bits are the same when the numbers are the same without the other bits. -/
theorem sameStart_iff_div_eq (le : k ≤ v) :
    SameStart k x x' ↔ x.toNat / 2 ^ (v - k) = x'.toNat / 2 ^ (v - k) := by
  constructor
  · intro same
    apply Nat.eq_of_testBit_eq
    intro i
    rw [Nat.testBit_div_two_pow, Nat.testBit_div_two_pow, BitVec.testBit_toNat,
      BitVec.testBit_toNat]
    -- bit `i` of a quotient is the leading bit `k - 1 - i`, counted from the front
    by_cases inside : i < k
    · have bit := same (k - 1 - i) (by omega)
      rw [BitVec.getMsbD_eq_getLsbD, BitVec.getMsbD_eq_getLsbD,
        show v - 1 - (k - 1 - i) = i + (v - k) by omega] at bit
      simpa [show k - 1 - i < v by omega] using bit
    · rw [BitVec.getLsbD_of_ge x _ (by omega), BitVec.getLsbD_of_ge x' _ (by omega)]
  · intro same i lt
    have bit := congrArg (fun n => n.testBit (k - 1 - i)) same
    simp only [Nat.testBit_div_two_pow, BitVec.testBit_toNat] at bit
    rw [BitVec.getMsbD_eq_getLsbD, BitVec.getMsbD_eq_getLsbD,
      show v - 1 - i = k - 1 - i + (v - k) by omega, bit]

/-- The number whose first bits are set and whose other bits are clear.  If none is to be set,
all are shifted out. -/
def leadingMask (w k : Nat) : BitVec w :=
  BitVec.allOnes w <<< (w - k)

theorem getLsbD_leadingMask (i : Nat) :
    (leadingMask w k).getLsbD i = (decide (i < w) && decide (w - k ≤ i)) := by
  rw [leadingMask, BitVec.getLsbD_shiftLeft, BitVec.getLsbD_allOnes, Bool.eq_iff_iff]
  simp only [Bool.and_eq_true, Bool.not_eq_true', decide_eq_true_eq, decide_eq_false_iff_not]
  omega

/-- The octets of a mask are masks. -/
theorem extractLsb'_leadingMask {start : Nat} (le : k ≤ v) (inside : start + w ≤ v) :
    (leadingMask v k).extractLsb' start w = leadingMask w (min w (k - (v - (start + w)))) := by
  apply BitVec.eq_of_getLsbD_eq
  intro i lt
  rw [BitVec.getLsbD_extractLsb', getLsbD_leadingMask, getLsbD_leadingMask]
  have together : v - k ≤ start + i ↔ w - min w (k - (v - (start + w))) ≤ i := by omega
  simp [lt, show start + i < v by omega, together]

end BitVec

/-! ## Octets -/

section Octet

variable {bits : Nat} {octet other : UInt8}

namespace Network

/-- The other bits are clear when what they stand for divides the octet. -/
theorem isClear_iff : isClear bits octet = true ↔ 2 ^ (8 - bits) ∣ octet.toNat := by
  rw [isClear, beq_iff_eq]
  exact Nat.dvd_iff_mod_eq_zero.symm

/-- If no bit is fixed, they are all clear. -/
theorem eq_zero_of_isClear (clear : isClear 0 octet = true) : octet = 0 :=
  UInt8.toNat_inj.mp (Nat.eq_zero_of_dvd_of_lt (isClear_iff.mp clear) octet.toNat_lt)

end Network

/-- Above an octet whose other bits are clear there is room for all that they can stand for. -/
theorem toNat_add_le (clear : Network.isClear bits octet = true) :
    octet.toNat + 2 ^ (8 - bits) ≤ 2 ^ 8 := by
  obtain ⟨count, whole⟩ : 2 ^ (8 - bits) ∣ 2 ^ 8 := Nat.pow_dvd_pow 2 (Nat.sub_le 8 bits)
  obtain ⟨before, start⟩ := Network.isClear_iff.mp clear
  have below : octet.toNat < 2 ^ 8 := octet.toNat_lt
  rw [start, whole] at below
  rw [start, whole, ← Nat.mul_succ]
  exact Nat.mul_le_mul_left _ (Nat.lt_of_mul_lt_mul_left below)

namespace OctetPattern

/-- The pattern admits the octets that begin with the fixed bits. -/
theorem admits_ofBits_iff (le : bits ≤ 8) (clear : Network.isClear bits octet = true) :
    (ofBits bits octet).admits other = true ↔
      SameStart bits octet.toBitVec other.toBitVec := by
  rw [sameStart_iff_div_eq le, UInt8.toNat_toBitVec, UInt8.toNat_toBitVec]
  unfold ofBits
  split
  next whole =>
    rw [whole, Nat.sub_self, Nat.pow_zero, Nat.div_one, Nat.div_one, admits, beq_iff_eq,
      UInt8.toNat_inj]
    exact eq_comm
  next =>
    split
    next free =>
      rw [free, Nat.div_eq_of_lt octet.toNat_lt, Nat.div_eq_of_lt other.toNat_lt]
      exact iff_of_true rfl rfl
    next =>
      have some : 0 < 2 ^ (8 - bits) := Nat.two_pow_pos (8 - bits)
      obtain ⟨before, start⟩ := Network.isClear_iff.mp clear
      rw [start, Nat.mul_div_cancel_left before some]
      refine Iff.trans ?_ eq_comm
      rw [Nat.div_eq_iff some, Nat.mul_comm before]
      simp only [admits, Bool.and_eq_true, decide_eq_true_eq, Nat.pow_eq]
      omega

/-- Octets whose other bits are clear have the same pattern only if they are the same and the
same bits of them are fixed. -/
theorem ofBits_inj {bits' : Nat} {octet' : UInt8} (le : bits ≤ 8) (le' : bits' ≤ 8)
    (clear : Network.isClear bits octet = true) (clear' : Network.isClear bits' octet' = true)
    (same : ofBits bits octet = ofBits bits' octet') : bits = bits' ∧ octet = octet' := by
  unfold ofBits at same
  split at same
  next whole =>
    split at same
    next whole' =>
      cases same
      exact ⟨whole.trans whole'.symm, rfl⟩
    next => split at same <;> cases same
  next =>
    split at same
    next free =>
      split at same
      next => cases same
      next =>
        split at same
        next free' =>
          subst free free'
          exact ⟨rfl, (Network.eq_zero_of_isClear clear).trans
            (Network.eq_zero_of_isClear clear').symm⟩
        next => cases same
    next =>
      split at same
      next => cases same
      next =>
        split at same
        next => cases same
        next =>
          injection same with low high
          have some := Nat.two_pow_pos (8 - bits)
          have some' := Nat.two_pow_pos (8 - bits')
          have sizes : 2 ^ (8 - bits) = 2 ^ (8 - bits') := by
            simp only [Nat.pow_eq] at high
            omega
          have free : 8 - bits = 8 - bits' := Nat.pow_right_injective (Nat.le_refl 2) sizes
          exact ⟨by omega, UInt8.toNat_inj.mp low⟩

/-! ### Masks -/

/-- The pattern that a mask leaves of an octet, computed with octets. -/
def ofMask (mask octet : UInt8) : OctetPattern :=
  if mask = 255 then exact octet
  else if mask = 0 then any
  else range (mask &&& octet).toNat ((mask &&& octet) + ~~~mask).toNat

end OctetPattern

/-- The octet whose first bits are set. -/
def octetMask (bits : Nat) : UInt8 :=
  ⟨leadingMask 8 bits⟩

theorem octetMask_eq_max_iff (le : bits ≤ 8) : octetMask bits = 255 ↔ bits = 8 := by
  decide +revert

theorem octetMask_eq_zero_iff (le : bits ≤ 8) : octetMask bits = 0 ↔ bits = 0 := by
  decide +revert

theorem toNat_not_octetMask (le : bits ≤ 8) : (~~~octetMask bits).toNat = 2 ^ (8 - bits) - 1 := by
  decide +revert

/-- A mask leaves an octet whose other bits are clear as it is. -/
theorem octetMask_and (clear : Network.isClear bits octet = true) :
    octetMask bits &&& octet = octet := by
  apply UInt8.toBitVec_inj.mp
  apply BitVec.eq_of_getLsbD_eq
  intro i lt
  rw [UInt8.toBitVec_and, BitVec.getLsbD_and, octetMask, getLsbD_leadingMask]
  by_cases fixed : 8 - bits ≤ i
  · rw [decide_eq_true lt, decide_eq_true fixed, Bool.true_and, Bool.true_and]
  · obtain ⟨before, start⟩ := Network.isClear_iff.mp clear
    rw [← BitVec.testBit_toNat, UInt8.toNat_toBitVec, start, Nat.testBit_two_pow_mul]
    simp [fixed]

/-- What the free bits can stand for is added to an octet without a carry. -/
theorem toNat_octetMask_add_lt (le : bits ≤ 8) (clear : Network.isClear bits octet = true) :
    (octetMask bits &&& octet).toNat + (~~~octetMask bits).toNat < 2 ^ 8 := by
  have room := toNat_add_le clear
  have some := Nat.two_pow_pos (8 - bits)
  rw [octetMask_and clear, toNat_not_octetMask le]
  omega

/-- The pattern for an octet whose other bits are clear is what the mask leaves of it. -/
theorem OctetPattern.ofBits_eq_ofMask (le : bits ≤ 8)
    (clear : Network.isClear bits octet = true) :
    ofBits bits octet = ofMask (octetMask bits) octet := by
  have upper : (octet + ~~~octetMask bits).toNat = octet.toNat + (2 ^ (8 - bits) - 1) := by
    have room := toNat_octetMask_add_lt le clear
    rw [octetMask_and clear] at room
    rw [UInt8.toNat_add, Nat.mod_eq_of_lt room, toNat_not_octetMask le]
  simp only [ofBits, ofMask, octetMask_eq_max_iff le, octetMask_eq_zero_iff le,
    octetMask_and clear, upper, Nat.pow_eq]

end Octet

/-! ## Addresses -/

namespace Ipv4Address

variable {a b : Ipv4Address} {length : Nat}

theorem ext (first : a.first = b.first) (second : a.second = b.second)
    (third : a.third = b.third) (fourth : a.fourth = b.fourth) : a = b := by
  cases a
  cases b
  simp only [mk.injEq]
  exact ⟨first, second, third, fourth⟩

/-- The bits of the octets, one octet after the other. -/
def bits (a : Ipv4Address) : BitVec 32 :=
  a.first.toBitVec ++ a.second.toBitVec ++ a.third.toBitVec ++ a.fourth.toBitVec

/-- The address with the given bits. -/
def ofBits (bits : BitVec 32) : Ipv4Address where
  first := ⟨bits.extractLsb' 24 8⟩
  second := ⟨bits.extractLsb' 16 8⟩
  third := ⟨bits.extractLsb' 8 8⟩
  fourth := ⟨bits.extractLsb' 0 8⟩

theorem bits_ofBits (x : BitVec 32) : (ofBits x).bits = x := by
  simp only [bits, ofBits]
  rw [BitVec.extractLsb'_append_extractLsb'_eq_extractLsb' (show 24 = 16 + 8 from rfl),
    BitVec.extractLsb'_append_extractLsb'_eq_extractLsb' (show 16 = 8 + 8 from rfl),
    BitVec.extractLsb'_append_extractLsb'_eq_extractLsb' (show 8 = 0 + 8 from rfl)]
  exact BitVec.extractLsb'_eq_self

/-- The first bits of two addresses are the same when those of their octets are. -/
theorem sameStart_bits_iff (le : length ≤ 32) :
    SameStart length a.bits b.bits ↔
      SameStart (Network.fixedBits length 0) a.first.toBitVec b.first.toBitVec ∧
      SameStart (Network.fixedBits length 1) a.second.toBitVec b.second.toBitVec ∧
      SameStart (Network.fixedBits length 2) a.third.toBitVec b.third.toBitVec ∧
      SameStart (Network.fixedBits length 3) a.fourth.toBitVec b.fourth.toBitVec := by
  have first : min (min (min length (8 + 8 + 8)) (8 + 8)) 8 = Network.fixedBits length 0 := by
    simp only [Network.fixedBits]; omega
  have second : min (min length (8 + 8 + 8)) (8 + 8) - 8 = Network.fixedBits length 1 := by
    simp only [Network.fixedBits]; omega
  have third : min length (8 + 8 + 8) - (8 + 8) = Network.fixedBits length 2 := by
    simp only [Network.fixedBits]; omega
  have fourth : length - (8 + 8 + 8) = Network.fixedBits length 3 := by
    simp only [Network.fixedBits]; omega
  rw [bits, bits, sameStart_append_iff, sameStart_append_iff, sameStart_append_iff, first, second,
    third, fourth, and_assoc, and_assoc]

end Ipv4Address

namespace Network

variable {n n' : Network}

theorem ext (address : n.address = n'.address) (length : n.length = n'.length) : n = n' := by
  cases n
  cases n'
  simp only [mk.injEq]
  exact ⟨address, length⟩

theorem fixedBits_le (length index : Nat) : fixedBits length index ≤ 8 :=
  Nat.min_le_left 8 _

theorem isAligned_iff :
    n.isAligned = true ↔
      isClear (fixedBits n.length 0) n.address.first = true ∧
      isClear (fixedBits n.length 1) n.address.second = true ∧
      isClear (fixedBits n.length 2) n.address.third = true ∧
      isClear (fixedBits n.length 3) n.address.fourth = true := by
  simp [isAligned, Ipv4Address.octets]

/-- The address whose fixed bits are set. -/
def mask (n : Network) : Ipv4Address :=
  Ipv4Address.ofBits (leadingMask 32 n.length)

theorem octets_mask (n : Network) :
    n.mask.octets =
      [octetMask (fixedBits n.length 0), octetMask (fixedBits n.length 1),
        octetMask (fixedBits n.length 2), octetMask (fixedBits n.length 3)] := by
  simp only [mask, Ipv4Address.ofBits, Ipv4Address.octets,
    extractLsb'_leadingMask n.length_le (show 24 + 8 ≤ 32 by decide),
    extractLsb'_leadingMask n.length_le (show 16 + 8 ≤ 32 by decide),
    extractLsb'_leadingMask n.length_le (show 8 + 8 ≤ 32 by decide),
    extractLsb'_leadingMask n.length_le (show 0 + 8 ≤ 32 by decide)]
  rfl

/-- Under the mask of a network the octets of its address leave room for the free bits. -/
theorem toNat_and_mask_add_lt (aligned : n.isAligned = true) {mask octet : UInt8}
    (mem : (mask, octet) ∈ n.mask.octets.zip n.address.octets) :
    (mask &&& octet).toNat + (~~~mask).toNat < 2 ^ 8 := by
  obtain ⟨first, second, third, fourth⟩ := isAligned_iff.mp aligned
  rw [octets_mask] at mem
  simp only [Ipv4Address.octets, List.zip_cons_cons, List.zip_nil_right, List.mem_cons,
    List.not_mem_nil, or_false, Prod.mk.injEq] at mem
  rcases mem with ⟨rfl, rfl⟩ | ⟨rfl, rfl⟩ | ⟨rfl, rfl⟩ | ⟨rfl, rfl⟩
  · exact toNat_octetMask_add_lt (fixedBits_le _ _) first
  · exact toNat_octetMask_add_lt (fixedBits_le _ _) second
  · exact toNat_octetMask_add_lt (fixedBits_le _ _) third
  · exact toNat_octetMask_add_lt (fixedBits_le _ _) fourth

end Network

namespace AddressPattern

variable {n n' : Network}

/-- The pattern of a network is what its mask leaves of each octet of its address. -/
theorem ofNetwork_eq_zipWith_ofMask (aligned : n.isAligned = true) :
    ofNetwork n = List.zipWith OctetPattern.ofMask n.mask.octets n.address.octets := by
  obtain ⟨first, second, third, fourth⟩ := Network.isAligned_iff.mp aligned
  rw [Network.octets_mask]
  simp only [Ipv4Address.octets, List.zipWith_cons_cons, List.zipWith_nil_left,
    ← OctetPattern.ofBits_eq_ofMask (Network.fixedBits_le n.length _), first, second, third, fourth]
  rfl

/-- The pattern admits the addresses that begin with the bits that the network fixes. -/
theorem admits_ofNetwork_iff (aligned : n.isAligned = true) {a : Ipv4Address} :
    (ofNetwork n).admits a = true ↔ SameStart n.length n.address.bits a.bits := by
  obtain ⟨first, second, third, fourth⟩ := Network.isAligned_iff.mp aligned
  rw [Ipv4Address.sameStart_bits_iff n.length_le,
    ← OctetPattern.admits_ofBits_iff (Network.fixedBits_le _ _) first,
    ← OctetPattern.admits_ofBits_iff (Network.fixedBits_le _ _) second,
    ← OctetPattern.admits_ofBits_iff (Network.fixedBits_le _ _) third,
    ← OctetPattern.admits_ofBits_iff (Network.fixedBits_le _ _) fourth]
  simp [admits, ofNetwork, Ipv4Address.octets]

/-- Networks whose other bits are clear have patterns of their own. -/
theorem ofNetwork_inj (aligned : n.isAligned = true) (aligned' : n'.isAligned = true)
    (same : ofNetwork n = ofNetwork n') : n = n' := by
  obtain ⟨first, second, third, fourth⟩ := Network.isAligned_iff.mp aligned
  obtain ⟨first', second', third', fourth'⟩ := Network.isAligned_iff.mp aligned'
  simp only [ofNetwork, Ipv4Address.octets, List.zipIdx_cons, List.zipIdx_nil, List.map_cons,
    List.map_nil, List.cons.injEq, and_true] at same
  obtain ⟨sameFirst, sameSecond, sameThird, sameFourth⟩ := same
  have le := Network.fixedBits_le n.length
  have le' := Network.fixedBits_le n'.length
  obtain ⟨bits₁, octet₁⟩ := OctetPattern.ofBits_inj (le 0) (le' 0) first first' sameFirst
  obtain ⟨bits₂, octet₂⟩ := OctetPattern.ofBits_inj (le 1) (le' 1) second second' sameSecond
  obtain ⟨bits₃, octet₃⟩ := OctetPattern.ofBits_inj (le 2) (le' 2) third third' sameThird
  obtain ⟨bits₄, octet₄⟩ := OctetPattern.ofBits_inj (le 3) (le' 3) fourth fourth' sameFourth
  refine Network.ext ?_ ?_
  · exact Ipv4Address.ext octet₁ octet₂ octet₃ octet₄
  · have bounded := n.length_le
    have bounded' := n'.length_le
    simp only [Network.fixedBits] at bits₁ bits₂ bits₃ bits₄
    omega

end AddressPattern

end Provisioning
