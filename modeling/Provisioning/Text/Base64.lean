/-!
# Base64

Three bytes become four letters of a 64-letter alphabet; the last group is filled
up with `=`.
-/

namespace Provisioning.Text.Base64

set_option autoImplicit false

/-- The letters, in the order of their values. -/
def alphabet : List Char :=
  "ABCDEFGHIJKLMNOPQRSTUVWXYZabcdefghijklmnopqrstuvwxyz0123456789+/".toList

/-- The letter of a value below 64. -/
def letter (value : Nat) : Char :=
  alphabet.getD value '='

/-- Letters for a list of bytes. -/
def encode : List UInt8 → List Char
  | [] => []
  | [a] =>
    let n := a.toNat * 16
    [letter (n / 64), letter (n % 64), '=', '=']
  | [a, b] =>
    let n := a.toNat * 1024 + b.toNat * 4
    [letter (n / 4096), letter (n / 64 % 64), letter (n % 64), '=']
  | a :: b :: c :: rest =>
    let n := a.toNat * 65536 + b.toNat * 256 + c.toNat
    letter (n / 262144) :: letter (n / 4096 % 64) :: letter (n / 64 % 64) :: letter (n % 64)
      :: encode rest

end Provisioning.Text.Base64

namespace Provisioning.Text

/-- The UTF-8 bytes of a text. -/
def bytes (s : String) : List UInt8 :=
  s.toUTF8.toList

/-- The UTF-8 bytes of a text, in base64. -/
def base64 (s : String) : String :=
  String.ofList (Base64.encode (bytes s))

end Provisioning.Text
