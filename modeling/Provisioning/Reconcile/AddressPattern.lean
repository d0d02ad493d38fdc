import Provisioning.Error

/-!
# Networks and address patterns

A network is written as an IPv4 address and the number of its leading bits that
are fixed.  The repository filters addresses by patterns instead: four octets
with dots between them, where an octet may be a number, a range of numbers, or
`*` for any.  A network whose remaining bits are clear is exactly one pattern:
octets with all bits fixed are numbers, octets with no bit fixed are `*`, and the
octet in which the fixed bits end is a range.
-/

namespace Provisioning

set_option autoImplicit false

/-! ## Networks -/

/-- An address as four octets. -/
structure Ipv4Address where
  first : UInt8
  second : UInt8
  third : UInt8
  fourth : UInt8
  deriving DecidableEq

/-- An address and the number of leading bits that are fixed. -/
structure Network where
  address : Ipv4Address
  length : Nat
  length_le : length ≤ 32
  deriving DecidableEq

namespace Ipv4Address

/-- The octets in order. -/
def octets (a : Ipv4Address) : List UInt8 :=
  [a.first, a.second, a.third, a.fourth]

/-- One octet of an address: up to three digits without a superfluous leading
zero, of value at most 255. -/
def readOctet? (digits : List Char) : Option UInt8 :=
  let plain := digits.all Char.isDigit && !digits.isEmpty && digits.length ≤ 3
  let canonical := digits.head? != some '0' || digits.length == 1
  let n := Text.decimalValue digits
  if plain && canonical && n < 256 then some (UInt8.ofNat n) else none

/-- The address of a text. -/
def read? (cs : List Char) : Option Ipv4Address :=
  match cs.splitOn '.' with
  | [a, b, c, d] => do
    pure ⟨← readOctet? a, ← readOctet? b, ← readOctet? c, ← readOctet? d⟩
  | _ => none

end Ipv4Address

namespace Network

/-- The length of a network: digits, with a plus sign in front if one likes, of
value at most 32. -/
def readLength? (cs : List Char) : Option { n : Nat // n ≤ 32 } :=
  let digits := match cs with
    | '+' :: rest => rest
    | cs => cs
  if !digits.isEmpty && digits.all Char.isDigit then
    let n := Text.decimalValue digits
    if h : n ≤ 32 then some ⟨n, h⟩ else none
  else none

/-- How many bits are fixed in the octet at an index. -/
def fixedBits (length index : Nat) : Nat :=
  min 8 (length - 8 * index)

/-- Whether the bits of an octet after the fixed ones are clear. -/
def isClear (bits : Nat) (octet : UInt8) : Bool :=
  octet.toNat % Nat.pow 2 (8 - bits) == 0

/-- Whether all bits after the fixed ones are clear. -/
def isAligned (n : Network) : Bool :=
  n.address.octets.zipIdx.all fun (octet, index) => isClear (fixedBits n.length index) octet

/-- Reads a network. -/
def read (text : String) : Result Network :=
  let cs := text.toList
  let address := cs.takeWhile (· != '/')
  match cs.dropWhile (· != '/') with
  | [] => .error (.config (.notCidrBlock text))
  | _ :: length =>
    match Ipv4Address.read? address with
    | none => .error (.config (.notIpv4Network text))
    | some address =>
      match readLength? length with
      | none => .error (.config (.invalidPrefixLength text))
      | some ⟨length, bound⟩ =>
        let n : Network := ⟨address, length, bound⟩
        if n.isAligned then .ok n else .error (.config (.hostBitsSet text))

end Network

/-! ## Patterns -/

/-- Which octets are admitted. -/
inductive OctetPattern where
  | exact (octet : UInt8)
  | any
  | range (low high : Nat)
  deriving DecidableEq

namespace OctetPattern

/-- Whether an octet is admitted. -/
def admits (p : OctetPattern) (octet : UInt8) : Bool :=
  match p with
  | exact n => octet == n
  | any => true
  | range low high => low ≤ octet.toNat && octet.toNat ≤ high

/-- The text of an octet pattern. -/
def text : OctetPattern → String
  | exact n => Text.decimal n.toNat
  | any => "*"
  | range low high => Text.decimal low ++ "-" ++ Text.decimal high

/-- The octets that agree with a given one in its leading bits. -/
def ofBits (bits : Nat) (octet : UInt8) : OctetPattern :=
  if bits = 8 then exact octet
  else if bits = 0 then any
  else range octet.toNat (octet.toNat + (Nat.pow 2 (8 - bits) - 1))

end OctetPattern

/-- A pattern for each octet of an address. -/
abbrev AddressPattern := List OctetPattern

namespace AddressPattern

/-- The addresses of a network. -/
def ofNetwork (n : Network) : AddressPattern :=
  n.address.octets.zipIdx.map fun (octet, index) =>
    OctetPattern.ofBits (Network.fixedBits n.length index) octet

/-- Whether an address is admitted, octet by octet. -/
def admits (p : AddressPattern) (a : Ipv4Address) : Bool :=
  p.length == a.octets.length && (p.zip a.octets).all fun (pattern, octet) => pattern.admits octet

/-- The text of a pattern. -/
def text (p : AddressPattern) : String :=
  Text.joined "." (p.map OctetPattern.text)

end AddressPattern

/-- The pattern, as text, of a network given as text. -/
def addressMatch (network : String) : Result String :=
  (Network.read network).map fun n => (AddressPattern.ofNetwork n).text

end Provisioning
