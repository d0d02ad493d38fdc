import Mathlib.Data.List.Forall2
import Provisioning.Proofs.Reconcile.LeadingBits
import Provisioning.Proofs.Reconcile.Network
import Provisioning.Proofs.Result

/-!
# Exact address patterns

The repository knows nothing of networks.  It takes the text of a pattern apart at the dots and
admits an address octet by octet.  What it admits under the pattern of a network are the
addresses of the network and no others, and a pattern belongs to one network only.
-/

namespace Provisioning

set_option autoImplicit false

/-! ## Octet patterns as text -/

namespace OctetPattern

variable {p q : OctetPattern} {octet : UInt8}

/-- The octets that a text admits: a number admits itself, a star every octet, and two numbers
with a dash between them the octets from the first number to the second. -/
inductive TextAdmits : List Char → UInt8 → Prop where
  | number (octet : UInt8) : TextAdmits (Text.decimal octet.toNat).toList octet
  | star (octet : UInt8) : TextAdmits ['*'] octet
  | between {low high : Nat} {octet : UInt8} (above : low ≤ octet.toNat)
      (below : octet.toNat ≤ high) :
      TextAdmits ((Text.decimal low).toList ++ '-' :: (Text.decimal high).toList) octet

theorem toList_text_range (low high : Nat) :
    (range low high).text.toList =
      (Text.decimal low).toList ++ '-' :: (Text.decimal high).toList := by
  simp only [text, String.toList_append, List.append_assoc]
  rfl

theorem dash_not_mem_decimal (n : Nat) : '-' ∉ (Text.decimal n).toList :=
  Text.not_mem_decimal (by decide) n

theorem star_not_mem_decimal (n : Nat) : '*' ∉ (Text.decimal n).toList :=
  Text.not_mem_decimal (by decide) n

/-- A dash shows that a pattern is a range. -/
theorem dash_mem_text_iff : '-' ∈ p.text.toList ↔ ∃ low high, p = range low high := by
  cases p with
  | exact n => exact iff_of_false (dash_not_mem_decimal n.toNat) nofun
  | any => exact iff_of_false (by decide) nofun
  | range low high =>
    rw [toList_text_range]
    exact iff_of_true (List.mem_append_right _ List.mem_cons_self) ⟨low, high, rfl⟩

/-- A star shows that a pattern admits every octet. -/
theorem star_mem_text_iff : '*' ∈ p.text.toList ↔ p = any := by
  cases p with
  | exact n => exact iff_of_false (star_not_mem_decimal n.toNat) nofun
  | any => exact iff_of_true List.mem_cons_self rfl
  | range low high =>
    rw [toList_text_range, List.mem_append, List.mem_cons]
    refine iff_of_false ?_ nofun
    rintro (inLow | isDash | inHigh)
    · exact star_not_mem_decimal low inLow
    · exact absurd isDash (by decide)
    · exact star_not_mem_decimal high inHigh

theorem dot_not_mem_text (p : OctetPattern) : '.' ∉ p.text.toList := by
  have notInDecimal (n : Nat) : '.' ∉ (Text.decimal n).toList :=
    Text.not_mem_decimal (by decide) n
  cases p with
  | exact n => exact notInDecimal n.toNat
  | any => decide
  | range low high =>
    rw [toList_text_range, List.mem_append, List.mem_cons, not_or, not_or]
    exact ⟨notInDecimal low, by decide, notInDecimal high⟩

theorem text_injective : Function.Injective text := by
  intro p q same
  have sameChars : p.text.toList = q.text.toList := congrArg String.toList same
  have ranges : (∃ low high, p = range low high) ↔ ∃ low high, q = range low high := by
    rw [← dash_mem_text_iff, ← dash_mem_text_iff, sameChars]
  have stars : p = any ↔ q = any := by
    rw [← star_mem_text_iff, ← star_mem_text_iff, sameChars]
  cases p with
  | exact m =>
    cases q with
    | exact n => rw [UInt8.toNat_inj.mp (Text.decimal_injective same)]
    | any => cases stars.mpr rfl
    | range low high =>
      obtain ⟨_, _, isRange⟩ := ranges.mpr ⟨low, high, rfl⟩
      cases isRange
  | any => exact (stars.mp rfl).symm
  | range low high =>
    obtain ⟨low', high', rfl⟩ := ranges.mp ⟨low, high, rfl⟩
    rw [toList_text_range, toList_text_range, List.append_cons_inj_of_notMem
      (dash_not_mem_decimal low) (dash_not_mem_decimal high)] at sameChars
    rw [Text.decimal_injective (String.toList_injective sameChars.1),
      Text.decimal_injective (String.toList_injective sameChars.2.2)]

/-- The text of a pattern admits the octets that the pattern admits. -/
theorem textAdmits_text_iff : TextAdmits p.text.toList octet ↔ p.admits octet = true := by
  constructor
  · intro admitted
    generalize written : p.text.toList = cs at admitted
    cases admitted with
    | number octet =>
      rw [text_injective (String.toList_injective written : p.text = (exact octet).text)]
      exact beq_self_eq_true octet
    | star octet =>
      rw [text_injective (String.toList_injective written : p.text = any.text)]
      rfl
    | between above below =>
      rw [← toList_text_range] at written
      rw [text_injective (String.toList_injective written), admits, Bool.and_eq_true,
        decide_eq_true_eq, decide_eq_true_eq]
      exact ⟨above, below⟩
  · intro admitted
    cases p with
    | exact n =>
      rw [beq_iff_eq.mp admitted]
      exact .number n
    | any => exact .star octet
    | range low high =>
      rw [admits, Bool.and_eq_true, decide_eq_true_eq, decide_eq_true_eq] at admitted
      rw [toList_text_range]
      exact .between admitted.1 admitted.2

end OctetPattern

/-! ## Address patterns as text -/

namespace AddressPattern

variable {p q : AddressPattern} {a : Ipv4Address}

/-- The addresses that a text admits: between its dots are texts that admit the octets. -/
def TextAdmits (pattern : String) (a : Ipv4Address) : Prop :=
  List.Forall₂ OctetPattern.TextAdmits (pattern.toList.splitOn '.') a.octets

/-- The dots in the text divide it into the patterns of the octets. -/
theorem splitOn_text (somePart : p ≠ []) :
    p.text.toList.splitOn '.' = p.map fun octet => octet.text.toList := by
  rw [text, Text.splitOn_joined rfl (mt List.map_eq_nil_iff.mp somePart), List.map_map]
  · rfl
  · intro part mem
    obtain ⟨octet, _, rfl⟩ := List.mem_map.mp mem
    exact octet.dot_not_mem_text

theorem text_inj (somePart : p ≠ []) (somePart' : q ≠ []) (same : p.text = q.text) : p = q := by
  have parts : (p.map fun octet => octet.text.toList) = q.map fun octet => octet.text.toList := by
    rw [← splitOn_text somePart, ← splitOn_text somePart', same]
  refine List.map_injective_iff.mpr (fun octet octet' sameChars => ?_) parts
  exact OctetPattern.text_injective (String.toList_injective sameChars)

theorem admits_iff : p.admits a = true ↔
    List.Forall₂ (fun octet other => octet.admits other = true) p a.octets := by
  rw [admits, Bool.and_eq_true, beq_iff_eq, List.all_eq_true, List.forall₂_iff_zip]
  exact and_congr_right fun _ => ⟨fun all _ _ mem => all _ mem, fun all _ mem => all mem⟩

/-- The text of a pattern admits the addresses that the pattern admits. -/
theorem textAdmits_text_iff (somePart : p ≠ []) : TextAdmits p.text a ↔ p.admits a = true := by
  rw [TextAdmits, splitOn_text somePart, List.forall₂_map_left_iff, admits_iff]
  simp only [OctetPattern.textAdmits_text_iff]

theorem ofNetwork_ne_nil (n : Network) : ofNetwork n ≠ [] :=
  List.cons_ne_nil _ _

end AddressPattern

/-! ## Networks and their patterns -/

section AddressMatch

variable {text pattern : String}

theorem addressMatch_eq_ok_iff :
    addressMatch text = .ok pattern ↔
      ∃ n : Network, n.IsWrittenAs text ∧ n.isAligned = true ∧
        (AddressPattern.ofNetwork n).text = pattern := by
  simp only [addressMatch, Result.map_eq_ok_iff, Network.read_eq_ok_iff, and_assoc]

/-- **The pattern of a network is exact.**  A text with a pattern stands for one network, and
an address is admitted by the text of the pattern exactly when it begins with the bits that the
network fixes.  The pattern is what the mask of the network leaves of the octets, and the sums of
octets in it do not overflow.  Two texts have the same pattern exactly when the networks that they
stand for have the same address and fix the same number of bits. -/
theorem addressMatch_exact (accepted : addressMatch text = .ok pattern) :
    ∃ n : Network, (∀ other : Network, other.IsWrittenAs text ↔ other = n) ∧
      (∀ x : BitVec 32, AddressPattern.TextAdmits pattern (Ipv4Address.ofBits x) ↔
        ∀ i < n.length, n.address.bits.getMsbD i = x.getMsbD i) ∧
      pattern =
        AddressPattern.text (List.zipWith OctetPattern.ofMask n.mask.octets n.address.octets) ∧
      (∀ mask octet, (mask, octet) ∈ n.mask.octets.zip n.address.octets →
        (mask &&& octet).toNat + (~~~mask).toNat < 2 ^ 8) ∧
      ∀ (text' pattern' : String) (n' : Network), addressMatch text' = .ok pattern' →
        n'.IsWrittenAs text' →
        (pattern = pattern' ↔ n.address = n'.address ∧ n.length = n'.length) := by
  obtain ⟨n, written, aligned, rfl⟩ := addressMatch_eq_ok_iff.mp accepted
  refine ⟨n, fun other => ⟨written.unique aligned, fun same => same ▸ written⟩, fun x => ?_, ?_,
    fun mask octet => Network.toNat_and_mask_add_lt aligned,
    fun text' pattern' n' accepted' written' => ?_⟩
  · rw [AddressPattern.textAdmits_text_iff (AddressPattern.ofNetwork_ne_nil n),
      AddressPattern.admits_ofNetwork_iff aligned, Ipv4Address.bits_ofBits]
    rfl
  · rw [AddressPattern.ofNetwork_eq_zipWith_ofMask aligned]
  · obtain ⟨other, otherWritten, aligned', rfl⟩ := addressMatch_eq_ok_iff.mp accepted'
    obtain rfl : n' = other := otherWritten.unique aligned' written'
    constructor
    · intro same
      obtain rfl : n = n' := AddressPattern.ofNetwork_inj aligned aligned'
        (AddressPattern.text_inj (AddressPattern.ofNetwork_ne_nil n)
          (AddressPattern.ofNetwork_ne_nil n') same)
      exact ⟨rfl, rfl⟩
    · rintro ⟨address, length⟩
      rw [Network.ext address length]

/-- The pattern of a network that ends within an octet, whose length can be written with a plus
sign and a zero as well. -/
theorem addressMatch_exact_withinOctet :
    addressMatch "10.2.4.0/22" = .ok "10.2.4-7.*" ∧
      addressMatch "10.2.4.0/+022" = .ok "10.2.4-7.*" ∧
      (∀ x : BitVec 32, AddressPattern.TextAdmits "10.2.4-7.*" (Ipv4Address.ofBits x) ↔
        ∀ i < 22, (0x0A020400#32).getMsbD i = x.getMsbD i) ∧
      Network.IsWrittenAs ⟨⟨10, 2, 4, 0⟩, 22, by decide⟩ "10.2.4.0/+022" := by
  have accepted : addressMatch "10.2.4.0/22" = .ok "10.2.4-7.*" := by rfl
  have accepted' : addressMatch "10.2.4.0/+022" = .ok "10.2.4-7.*" := by rfl
  have read : Network.read "10.2.4.0/22" = .ok ⟨⟨10, 2, 4, 0⟩, 22, by decide⟩ := by rfl
  obtain ⟨n, written, exact, _, _, onlyOne⟩ := addressMatch_exact accepted
  obtain rfl := (written _).mp (Network.read_eq_ok_iff.mp read).1
  obtain ⟨n', written', _⟩ := addressMatch_exact accepted'
  obtain ⟨address, length⟩ := (onlyOne _ _ n' accepted' ((written' n').mpr rfl)).mp rfl
  refine ⟨accepted, accepted', exact, (written' _).mpr ?_⟩
  exact Network.ext address length

end AddressMatch

end Provisioning
