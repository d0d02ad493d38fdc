import Provisioning.Text.Base64

/-!
# Base64 can be read back

Four letters carry three bytes as one number of 24 bits.  A letter has the value for which
it was written and is never the filler, so a group that was filled up is recognized, and
the bytes of every text are found again.  The reader knows the letters by their ranges and
nothing of the list from which the writer takes them.
-/

namespace Provisioning.Text.Base64

set_option autoImplicit false

/-! ## Reading -/

/-- The value of a letter. -/
def value? (c : Char) : Option Nat :=
  if 'A' ≤ c ∧ c ≤ 'Z' then some (c.toNat - 'A'.toNat)
  else if 'a' ≤ c ∧ c ≤ 'z' then some (c.toNat - 'a'.toNat + 26)
  else if '0' ≤ c ∧ c ≤ '9' then some (c.toNat - '0'.toNat + 52)
  else if c = '+' then some 62
  else if c = '/' then some 63
  else none

/-- The bytes that letters stand for.  The unused bits of a group that was filled up do not
matter. -/
def decode? : List Char → Option (List UInt8)
  | [] => some []
  | [w, x, '=', '='] => do
    let n := (← value? w) * 64 + (← value? x)
    pure [UInt8.ofNat (n / 16)]
  | [w, x, y, '='] => do
    let n := (← value? w) * 4096 + (← value? x) * 64 + (← value? y)
    pure [UInt8.ofNat (n / 1024), UInt8.ofNat (n / 4 % 256)]
  | w :: x :: y :: z :: rest => do
    let n := (← value? w) * 262144 + (← value? x) * 4096 + (← value? y) * 64 + (← value? z)
    let bytes ← decode? rest
    pure (UInt8.ofNat (n / 65536) :: UInt8.ofNat (n / 256 % 256) :: UInt8.ofNat (n % 256) :: bytes)
  | _ => none

/-! ## Letters -/

theorem value?_letter {n : Nat} (small : n < 64) : value? (letter n) = some n :=
  (by decide +kernel : ∀ n < 64, value? (letter n) = some n) n small

/-- No letter is the filler. -/
theorem letter_ne_filler {n : Nat} (small : n < 64) : letter n ≠ '=' :=
  (by decide +kernel : ∀ n < 64, letter n ≠ '=') n small

/-! ## Groups -/

variable {p q r s : Nat}

/-- A group of one byte. -/
theorem decode?_one (hp : p < 64) (hq : q < 64) :
    decode? [letter p, letter q, '=', '='] = some [UInt8.ofNat ((p * 64 + q) / 16)] := by
  rw [decode?, value?_letter hp, value?_letter hq]
  rfl

/-- A group of two bytes. -/
theorem decode?_two (hp : p < 64) (hq : q < 64) (hr : r < 64) :
    decode? [letter p, letter q, letter r, '='] =
      some [UInt8.ofNat ((p * 4096 + q * 64 + r) / 1024),
        UInt8.ofNat ((p * 4096 + q * 64 + r) / 4 % 256)] := by
  rw [decode?, value?_letter hp, value?_letter hq, value?_letter hr]
  · rfl
  · exact letter_ne_filler hr

/-- A group of three bytes, with whatever comes after it. -/
theorem decode?_three (hp : p < 64) (hq : q < 64) (hr : r < 64) (hs : s < 64)
    (rest : List Char) :
    decode? (letter p :: letter q :: letter r :: letter s :: rest) =
      (decode? rest).map fun bytes =>
        UInt8.ofNat ((p * 262144 + q * 4096 + r * 64 + s) / 65536) ::
        UInt8.ofNat ((p * 262144 + q * 4096 + r * 64 + s) / 256 % 256) ::
        UInt8.ofNat ((p * 262144 + q * 4096 + r * 64 + s) % 256) :: bytes := by
  rw [decode?, value?_letter hp, value?_letter hq, value?_letter hr, value?_letter hs]
  · cases decode? rest with
    | none => rfl
    | some bytes => rfl
  · exact fun filler _ _ => letter_ne_filler hr filler
  · exact fun filler _ => letter_ne_filler hs filler

/-! ## Texts -/

theorem ofNat_eq {n : Nat} {b : UInt8} (same : n = b.toNat) : UInt8.ofNat n = b := by
  rw [same, UInt8.ofNat_toNat]

/-- **What was encoded is read back.** -/
theorem decode?_encode (bytes : List UInt8) : decode? (encode bytes) = some bytes := by
  induction bytes using encode.induct with
  | case1 => rfl
  | case2 a =>
    have ha := a.toNat_lt
    have first : (a.toNat * 16 / 64 * 64 + a.toNat * 16 % 64) / 16 = a.toNat := by omega
    rw [encode, decode?_one (by omega) (by omega), ofNat_eq first]
  | case3 a b =>
    have ha := a.toNat_lt
    have hb := b.toNat_lt
    let n := a.toNat * 1024 + b.toNat * 4
    have digits : n / 4096 * 4096 + n / 64 % 64 * 64 + n % 64 = n := by omega
    have first : n / 1024 = a.toNat := by omega
    have second : n / 4 % 256 = b.toNat := by omega
    rw [encode, decode?_two (by omega) (by omega) (by omega), digits, ofNat_eq first,
      ofNat_eq second]
  | case4 a b c rest ih =>
    have ha := a.toNat_lt
    have hb := b.toNat_lt
    have hc := c.toNat_lt
    let n := a.toNat * 65536 + b.toNat * 256 + c.toNat
    have digits : n / 262144 * 262144 + n / 4096 % 64 * 4096 + n / 64 % 64 * 64 + n % 64 = n := by
      omega
    have first : n / 65536 = a.toNat := by omega
    have second : n / 256 % 256 = b.toNat := by omega
    have third : n % 256 = c.toNat := by omega
    rw [encode, decode?_three (by omega) (by omega) (by omega) (by omega), ih, Option.map_some,
      digits, ofNat_eq first, ofNat_eq second, ofNat_eq third]

/-- The bytes of a text are read back from its Base64. -/
theorem decode?_toList_base64 (s : String) : decode? (base64 s).toList = some s.toUTF8.toList := by
  rw [base64, String.toList_ofList, decode?_encode, bytes]

end Provisioning.Text.Base64
