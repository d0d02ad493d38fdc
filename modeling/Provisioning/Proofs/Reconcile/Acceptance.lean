import Mathlib.Data.List.TakeWhile
import Provisioning.Proofs.Reconcile.AddressPattern

/-!
# Which networks are accepted

A text has a pattern when it stands for a network without a bit behind the fixed ones.  Any other
text is refused for the first thing that is wrong with it, in the order in which it is read: the
slash, the address, the length, the bits.

The repository's own computation of a pattern works with words of 32 bits and with octets: it
subtracts the length from 32, shifts a word by the difference, tests the address against the mask
and adds octets.  Not every difference, shift or sum of such words is one.  Taken with operations
that may fail the computation never does: what is read before says enough about the length and
the bits.
-/

namespace Provisioning

set_option autoImplicit false

/-! ## Clear bits -/

section BitVec

variable {v w k : Nat} {x : BitVec v} {y : BitVec w}

/-- No bit behind the first ones is set. -/
def ClearFrom (k : Nat) (x : BitVec v) : Prop :=
  ∀ i, k ≤ i → x.getMsbD i = false

theorem clearFrom_append_iff :
    ClearFrom k (x ++ y) ↔ ClearFrom (min v k) x ∧ ClearFrom (k - v) y := by
  constructor
  · intro clear
    refine ⟨fun i le => ?_, fun i le => ?_⟩
    · by_cases inside : i < v
      · simpa [BitVec.getMsbD_append, show ¬ v ≤ i by omega] using clear i (by omega)
      · exact BitVec.getMsbD_of_ge x i (by omega)
    · simpa [BitVec.getMsbD_append] using clear (v + i) (by omega)
  · rintro ⟨first, second⟩ i le
    rw [BitVec.getMsbD_append]
    by_cases behind : v ≤ i
    · rw [if_pos behind]
      exact second (i - v) (by omega)
    · rw [if_neg behind]
      exact first i (by omega)

/-- The other bits are clear when what they stand for divides the number. -/
theorem clearFrom_iff_dvd (le : k ≤ v) : ClearFrom k x ↔ 2 ^ (v - k) ∣ x.toNat := by
  rw [Nat.dvd_iff_mod_eq_zero]
  constructor
  · intro clear
    apply Nat.eq_of_testBit_eq
    intro i
    rw [Nat.testBit_mod_two_pow, Nat.zero_testBit, BitVec.testBit_toNat]
    -- bit `i` of the remainder is the bit `v - 1 - i`, counted from the front
    by_cases free : i < v - k
    · have bit := clear (v - 1 - i) (by omega)
      rw [BitVec.getMsbD_eq_getLsbD, show v - 1 - (v - 1 - i) = i by omega,
        decide_eq_true (show v - 1 - i < v by omega), Bool.true_and] at bit
      rw [bit, Bool.and_false]
    · rw [decide_eq_false free, Bool.false_and]
  · intro divides i ge
    by_cases inside : i < v
    · have bit := congrArg (fun n => n.testBit (v - 1 - i)) divides
      simp only [Nat.testBit_mod_two_pow, BitVec.testBit_toNat, Nat.zero_testBit,
        decide_eq_true (show v - 1 - i < v - k by omega), Bool.true_and] at bit
      rw [BitVec.getMsbD_eq_getLsbD, bit, Bool.and_false]
    · exact BitVec.getMsbD_of_ge x i (by omega)

/-- The other bits are clear when nothing is left of the number outside of the mask. -/
theorem and_not_leadingMask_eq_zero_iff (le : k ≤ v) :
    x &&& ~~~leadingMask v k = 0#v ↔ ClearFrom k x := by
  have bit {i : Nat} (inside : i < v) :
      (x &&& ~~~leadingMask v k).getMsbD i = (x.getMsbD i && decide (k ≤ i)) := by
    rw [BitVec.getMsbD_and, BitVec.getMsbD_not, BitVec.getMsbD_eq_getLsbD (leadingMask v k),
      getLsbD_leadingMask, decide_eq_true inside, decide_eq_true (show v - 1 - i < v by omega)]
    congr 1
    rw [Bool.eq_iff_iff]
    simp only [Bool.true_and, Bool.not_eq_true', decide_eq_true_eq, decide_eq_false_iff_not]
    omega
  constructor
  · intro nothing i ge
    by_cases inside : i < v
    · have clear := bit inside
      rw [nothing, BitVec.getMsbD_zero, decide_eq_true ge, Bool.and_true] at clear
      exact clear.symm
    · exact BitVec.getMsbD_of_ge x i (by omega)
  · intro clear
    apply BitVec.eq_of_getMsbD_eq
    intro i inside
    rw [bit inside, BitVec.getMsbD_zero]
    by_cases ge : k ≤ i
    · rw [clear i ge, Bool.false_and]
    · rw [decide_eq_false ge, Bool.and_false]

end BitVec

/-! ## Accepted and refused texts -/

namespace Network

variable {text : String} {n : Network} {fault : ConfigFault}

theorem isClear_iff_clearFrom {bits : Nat} {octet : UInt8} (le : bits ≤ 8) :
    isClear bits octet = true ↔ ClearFrom bits octet.toBitVec := by
  rw [isClear_iff, clearFrom_iff_dvd le, UInt8.toNat_toBitVec]

/-- The bits of a network are clear, octet by octet, when they are clear in the whole address. -/
theorem isAligned_iff_clearFrom : n.isAligned = true ↔ ClearFrom n.length n.address.bits := by
  have le := n.length_le
  have first : min 8 (min (8 + 8) (min (8 + 8 + 8) n.length)) = fixedBits n.length 0 := by
    simp only [fixedBits]; omega
  have second : min (8 + 8) (min (8 + 8 + 8) n.length) - 8 = fixedBits n.length 1 := by
    simp only [fixedBits]; omega
  have third : min (8 + 8 + 8) n.length - (8 + 8) = fixedBits n.length 2 := by
    simp only [fixedBits]; omega
  have fourth : n.length - (8 + 8 + 8) = fixedBits n.length 3 := by
    simp only [fixedBits]; omega
  rw [Ipv4Address.bits, clearFrom_append_iff, clearFrom_append_iff, clearFrom_append_iff, first,
    second, third, fourth, isAligned_iff, isClear_iff_clearFrom (fixedBits_le _ _),
    isClear_iff_clearFrom (fixedBits_le _ _), isClear_iff_clearFrom (fixedBits_le _ _),
    isClear_iff_clearFrom (fixedBits_le _ _), and_assoc, and_assoc]

/-- What is wrong with a text, first of all: there is no slash, or no address stands before the
first one, or no length behind it, or the network has a bit behind the fixed ones. -/
inductive RefusedFor (text : String) : ConfigFault → Prop where
  | noSlash (absent : '/' ∉ text.toList) : RefusedFor text (.notCidrBlock text)
  | noAddress {before behind : List Char} (parts : text.toList = before ++ '/' :: behind)
      (isFirst : '/' ∉ before) (noAddress : ∀ a : Ipv4Address, before ≠ a.text.toList) :
      RefusedFor text (.notIpv4Network text)
  | noLength {a : Ipv4Address} {behind : List Char}
      (parts : text.toList = a.text.toList ++ '/' :: behind)
      (noLength : ∀ length sign digits, (sign = [] ∨ sign = ['+']) → IsNumeral length digits →
        behind = sign ++ digits → 32 < length) :
      RefusedFor text (.invalidPrefixLength text)
  | hostBits {n : Network} {i : Nat} (written : n.IsWrittenAs text) (free : n.length ≤ i)
      (isSet : n.address.bits.getMsbD i = true) : RefusedFor text (.hostBitsSet text)

theorem readLength?_eq_none_iff {cs : List Char} :
    readLength? cs = none ↔ ∀ length sign digits, (sign = [] ∨ sign = ['+']) →
      IsNumeral length digits → cs = sign ++ digits → 32 < length := by
  rw [Option.eq_none_iff_forall_ne_some]
  constructor
  · intro noLength length sign digits isSign numeral parts
    by_contra small
    exact noLength ⟨length, Nat.not_lt.mp small⟩
      (readLength?_eq_some_iff.mpr ⟨sign, digits, isSign, numeral, parts⟩)
  · rintro large ⟨length, small⟩ isLength
    obtain ⟨sign, digits, isSign, numeral, parts⟩ := readLength?_eq_some_iff.mp isLength
    exact absurd (large length sign digits isSign numeral parts) (Nat.not_lt.mpr small)

/-- The text in front of the first slash and the text behind it are read on their own. -/
theorem read_eq_of_parts {before behind : List Char}
    (parts : text.toList = before ++ '/' :: behind) (isFirst : '/' ∉ before) :
    read text =
      match Ipv4Address.read? before with
      | none => .error (.config (.notIpv4Network text))
      | some address =>
        match readLength? behind with
        | none => .error (.config (.invalidPrefixLength text))
        | some ⟨length, bound⟩ =>
          let n : Network := ⟨address, length, bound⟩
          if n.isAligned then .ok n else .error (.config (.hostBitsSet text)) := by
  rewrite [read, parts, Text.takeWhile_ne_of_not_mem isFirst,
    Text.dropWhile_ne_of_not_mem isFirst]
  rfl

/-- A text is refused for the first thing that is wrong with it. -/
theorem RefusedFor.read_eq (refused : RefusedFor text fault) :
    read text = .error (.config fault) := by
  cases refused with
  | noSlash absent =>
    have nothing : text.toList.dropWhile (· != '/') = [] :=
      List.dropWhile_eq_nil_iff.mpr (Text.bne_of_mem_of_not_mem absent)
    simp only [read, nothing]
  | noAddress parts isFirst noAddress =>
    have unread : Ipv4Address.read? _ = none := Option.eq_none_iff_forall_ne_some.mpr
      fun a isAddress => noAddress a (Ipv4Address.read?_eq_some_iff.mp isAddress)
    rw [read_eq_of_parts parts isFirst, unread]
  | @noLength a _ parts noLength =>
    rw [read_eq_of_parts parts (Ipv4Address.slash_not_mem_text a),
      Ipv4Address.read?_eq_some_iff.mpr rfl, readLength?_eq_none_iff.mpr noLength]
  | hostBits written free isSet =>
    rw [written.read_eq, if_neg]
    intro aligned
    exact absurd (isAligned_iff_clearFrom.mp aligned _ free) (ne_false_of_eq_true isSet)

/-- A text stands for a network without a bit behind the fixed ones, or something is wrong with
it. -/
theorem accepted_or_refused (text : String) :
    (∃ n : Network, n.IsWrittenAs text ∧ ClearFrom n.length n.address.bits) ∨
      ∃ fault, RefusedFor text fault := by
  by_cases slash : '/' ∈ text.toList
  · obtain ⟨before, behind, parts, isFirst⟩ := List.eq_append_cons_of_mem slash
    by_cases address : ∃ a : Ipv4Address, before = a.text.toList
    · obtain ⟨a, rfl⟩ := address
      cases isLength : readLength? behind with
      | none => exact .inr ⟨_, .noLength parts (readLength?_eq_none_iff.mp isLength)⟩
      | some length =>
        obtain ⟨sign, digits, isSign, numeral, rfl⟩ := readLength?_eq_some_iff.mp isLength
        have written : IsWrittenAs ⟨a, length.val, length.property⟩ text :=
          ⟨sign, digits, isSign, numeral, parts⟩
        by_cases clear : ClearFrom length.val a.bits
        · exact .inl ⟨_, written, clear⟩
        · obtain ⟨i, set⟩ := not_forall.mp clear
          obtain ⟨free, isSet⟩ := Classical.not_imp.mp set
          exact .inr ⟨_, .hostBits written free (Bool.not_eq_false _ ▸ isSet)⟩
    · exact .inr ⟨_, .noAddress parts isFirst (not_exists.mp address)⟩
  · exact .inr ⟨_, .noSlash slash⟩

end Network

/-! ## The computation in words -/

namespace Checked

variable {m n : Nat}

/-- The difference of two numbers, if nothing is borrowed. -/
def difference? (m n : Nat) : Option Nat :=
  if n ≤ m then some (m - n) else none

/-- A word of 32 bits shifted to the left, if by fewer places than it has. -/
def shiftLeft? (x : BitVec 32) (places : Nat) : Option (BitVec 32) :=
  if places < 32 then some (x <<< places) else none

/-- The sum of two octets, if it is one. -/
def sum? (x y : UInt8) : Option UInt8 :=
  if x.toNat + y.toNat < 2 ^ 8 then some (x + y) else none

/-- What stands behind a plus sign, or the whole if there is none. -/
def unsigned : List Char → List Char
  | '+' :: digits => digits
  | digits => digits

/-- A number that a word of 32 bits can hold, with a plus sign in front if one likes. -/
def readWord? (cs : List Char) : Option Nat :=
  if !(unsigned cs).isEmpty && (unsigned cs).all Char.isDigit then
    if Text.decimalValue (unsigned cs) < 2 ^ 32 then some (Text.decimalValue (unsigned cs))
    else none
  else none

/-- The mask of a length. -/
def mask? (length : Nat) : Option (BitVec 32) :=
  if length = 0 then some 0
  else do shiftLeft? (BitVec.allOnes 32) (← difference? 32 length)

/-- What a mask leaves of an octet. -/
def octetPattern? (mask octet : UInt8) : Option OctetPattern :=
  if mask = 255 then some (.exact octet)
  else if mask = 0 then some .any
  else do
    let high ← sum? (mask &&& octet) (~~~mask)
    pure (.range (mask &&& octet).toNat high.toNat)

/-- The pattern of an address and a length, unless the address has a bit outside of the mask. -/
def pattern? (text : String) (address : Ipv4Address) (length : Nat) : Option (Result String) := do
  let mask ← mask? length
  if address.bits &&& ~~~mask ≠ 0 then
    pure (.error (.config (.hostBitsSet text)))
  else
    let octets ← ((Ipv4Address.ofBits mask).octets.zip address.octets).mapM
      fun item => octetPattern? item.1 item.2
    pure (.ok (AddressPattern.text octets))

/-- The pattern, as text, of a network given as text. -/
def addressMatch? (text : String) : Option (Result String) :=
  let cs := text.toList
  match cs.dropWhile (· != '/') with
  | [] => some (.error (.config (.notCidrBlock text)))
  | _ :: behind =>
    match Ipv4Address.read? (cs.takeWhile (· != '/')) with
    | none => some (.error (.config (.notIpv4Network text)))
    | some address =>
      match (readWord? behind).filter (· ≤ 32) with
      | none => some (.error (.config (.invalidPrefixLength text)))
      | some length => pattern? text address length

/-- The length is at most 32 and the difference smaller than 32, unless the length is zero. -/
theorem mask?_eq_some (le : n ≤ 32) : mask? n = some (leadingMask 32 n) := by
  unfold mask?
  split
  next zero =>
    subst zero
    decide
  next positive =>
    have places : difference? 32 n = some (32 - n) := if_pos le
    have inside : 32 - n < 32 := by omega
    rw [places]
    exact if_pos inside

theorem octetPattern?_eq_some {mask octet : UInt8}
    (room : (mask &&& octet).toNat + (~~~mask).toNat < 2 ^ 8) :
    octetPattern? mask octet = some (.ofMask mask octet) := by
  have sum : sum? (mask &&& octet) (~~~mask) = some ((mask &&& octet) + ~~~mask) := if_pos room
  unfold octetPattern? OctetPattern.ofMask
  split
  next => rfl
  next =>
    split
    next => rfl
    next =>
      rw [sum]
      rfl

/-- A list of computations none of which fails. -/
theorem mapM_eq_some_map {α β : Type} {compute : α → Option β} {value : α → β} {items : List α}
    (defined : ∀ item ∈ items, compute item = some (value item)) :
    items.mapM compute = some (items.map value) := by
  induction items with
  | nil => rfl
  | cons item rest ih =>
    rw [List.mapM_cons, defined item List.mem_cons_self,
      ih fun other mem => defined other (List.mem_cons_of_mem item mem)]
    rfl

/-- A length of at most 32 is a word, so nothing is lost where a longer numeral is none. -/
theorem filter_readWord? (cs : List Char) :
    (readWord? cs).filter (· ≤ 32) = (Network.readLength? cs).map Subtype.val := by
  have unfolded : Network.readLength? cs =
      if !(unsigned cs).isEmpty && (unsigned cs).all Char.isDigit then
        if small : Text.decimalValue (unsigned cs) ≤ 32 then
          some ⟨Text.decimalValue (unsigned cs), small⟩
        else none
      else none := rfl
  rw [unfolded, readWord?]
  split
  next =>
    by_cases small : Text.decimalValue (unsigned cs) ≤ 32
    · have word : Text.decimalValue (unsigned cs) < 2 ^ 32 := by omega
      rw [if_pos word, dif_pos small]
      exact Option.filter_some_pos (decide_eq_true small)
    · rw [dif_neg small]
      split
      next => exact Option.filter_some_neg (by simpa using small)
      next => rfl
  next => rfl

/-- Where the bits behind the fixed ones are clear, there is room for them in every octet. -/
theorem pattern?_eq_some (text : String) (n : Network) :
    pattern? text n.address n.length =
      some (if n.isAligned then .ok (AddressPattern.ofNetwork n).text
        else .error (.config (.hostBitsSet text))) := by
  have tested : n.address.bits &&& ~~~leadingMask 32 n.length = 0 ↔ n.isAligned = true :=
    (and_not_leadingMask_eq_zero_iff n.length_le).trans Network.isAligned_iff_clearFrom.symm
  simp only [pattern?, mask?_eq_some n.length_le, Option.bind_eq_bind, Option.bind_some, ne_eq,
    tested]
  by_cases aligned : n.isAligned = true
  · have octets := mapM_eq_some_map
      (fun item mem => octetPattern?_eq_some (Network.toNat_and_mask_add_lt aligned mem))
    rw [if_neg (not_not_intro aligned), if_pos aligned,
      AddressPattern.ofNetwork_eq_zipWith_ofMask aligned, ← List.map_uncurry_zip_eq_zipWith]
    exact congrArg (Option.bind · _) octets
  · rw [if_pos aligned, if_neg aligned]
    rfl

/-- The computation in words fails nowhere and comes to the same. -/
theorem addressMatch?_eq_some (text : String) :
    addressMatch? text = some (addressMatch text) := by
  simp only [addressMatch?, addressMatch, Network.read]
  cases text.toList.dropWhile (· != '/') with
  | nil => rfl
  | cons separator behind =>
    cases Ipv4Address.read? (text.toList.takeWhile (· != '/')) with
    | none => rfl
    | some a =>
      simp only [filter_readWord?]
      cases Network.readLength? behind with
      | none => rfl
      | some length =>
        let n : Network := ⟨a, length.val, length.property⟩
        refine (pattern?_eq_some text n).trans (congrArg some ?_)
        exact (apply_ite (Except.map fun n => (AddressPattern.ofNetwork n).text)
          (n.isAligned = true) (.ok n) (.error (Error.config (.hostBitsSet text)))).symm

end Checked

/-! ## The language of networks -/

/-- **Networks are accepted by their grammar.**  A text has a pattern exactly when it is the text
of an address, a slash, a plus sign if one likes, and a numeral of at most 32, and no bit of the
address behind that many is set.  Every other text is refused for the first thing that is wrong
with it.  In no case does the computation with words of fixed width run into a difference, a shift
or a sum that such words do not have. -/
theorem addressMatch_accepts_grammar (text : String) :
    ((∃ pattern, addressMatch text = .ok pattern) ↔
      ∃ n : Network, n.IsWrittenAs text ∧ ClearFrom n.length n.address.bits) ∧
    ((∃ fault, addressMatch text = .error (.config fault)) ↔
      ¬∃ n : Network, n.IsWrittenAs text ∧ ClearFrom n.length n.address.bits) ∧
    (∀ fault, addressMatch text = .error (.config fault) ↔ Network.RefusedFor text fault) ∧
    Checked.addressMatch? text = some (addressMatch text) := by
  have accepted_iff : (∃ pattern, addressMatch text = .ok pattern) ↔
      ∃ n : Network, n.IsWrittenAs text ∧ ClearFrom n.length n.address.bits := by
    simp only [addressMatch_eq_ok_iff, Network.isAligned_iff_clearFrom]
    constructor
    · rintro ⟨_, n, written, clear, _⟩
      exact ⟨n, written, clear⟩
    · rintro ⟨n, written, clear⟩
      exact ⟨_, n, written, clear, rfl⟩
  have refused {fault : ConfigFault} (wrong : Network.RefusedFor text fault) :
      addressMatch text = .error (.config fault) := by
    rw [addressMatch, wrong.read_eq]
    rfl
  have notBoth {fault : ConfigFault} (failed : addressMatch text = .error (.config fault)) :
      ¬∃ n : Network, n.IsWrittenAs text ∧ ClearFrom n.length n.address.bits := by
    rw [← accepted_iff]
    rintro ⟨pattern, succeeded⟩
    rw [failed] at succeeded
    cases succeeded
  refine ⟨accepted_iff, ⟨?_, fun noNetwork => ?_⟩,
    fun fault => ⟨fun failed => ?_, refused⟩, Checked.addressMatch?_eq_some text⟩
  · rintro ⟨fault, failed⟩
    exact notBoth failed
  · obtain ⟨fault, wrong⟩ := (Network.accepted_or_refused text).resolve_left noNetwork
    exact ⟨fault, refused wrong⟩
  · obtain ⟨other, wrong⟩ := (Network.accepted_or_refused text).resolve_left (notBoth failed)
    have same := (refused wrong).symm.trans failed
    cases same
    exact wrong

/-- Of a network with several slashes the second is part of the length. -/
example : addressMatch "10.0.0.0/8/8" = .error (.config (.invalidPrefixLength "10.0.0.0/8/8")) := by
  rfl

end Provisioning
