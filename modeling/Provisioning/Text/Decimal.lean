/-!
# Decimal numerals

Numbers in messages and documents are written in decimal, without leading zeros.
-/

namespace Provisioning.Text

set_option autoImplicit false

/-- A natural number in decimal. -/
def decimal (n : Nat) : String :=
  String.ofList (Nat.toDigits 10 n)

/-- An integer in decimal, with a minus sign when it is negative. -/
def signedDecimal : Int → String
  | .ofNat n => decimal n
  | .negSucc n => "-" ++ decimal (n + 1)

/-- The value of decimal digits; leading zeros do not matter. -/
def decimalValue (digits : List Char) : Nat :=
  digits.foldl (fun n c => 10 * n + (c.toNat - '0'.toNat)) 0

end Provisioning.Text
