import Provisioning.Text.Decimal

/-!
# Durations

A span of time in whole seconds and a fraction in nanoseconds.  Messages show it
in the biggest unit that leaves a nonzero whole part, with as many decimals as it
needs.
-/

namespace Provisioning

set_option autoImplicit false

/-- A span of time; the fraction is less than a second. -/
structure Duration where
  secs : Nat
  nanos : Nat := 0
  nanos_lt : nanos < 1000000000 := by decide
  deriving DecidableEq, Repr

namespace Duration

/-- A whole number of seconds. -/
def ofSecs (secs : Nat) : Duration where
  secs := secs

/-- The span in nanoseconds, by which spans are compared. -/
def toNanos (d : Duration) : Nat :=
  d.secs * 1000000000 + d.nanos

/-- The empty span. -/
def isZero (d : Duration) : Bool :=
  d.toNanos == 0

/-- `d` is longer than `e`. -/
def isLongerThan (d e : Duration) : Bool :=
  e.toNanos < d.toNanos

@[simp] theorem toNanos_ofSecs (secs : Nat) : (ofSecs secs).toNanos = secs * 1000000000 := by
  simp [toNanos, ofSecs]

/-- Removes the zeros at the end. -/
def trimZeros (digits : List Char) : List Char :=
  (digits.reverse.dropWhile (· == '0')).reverse

/-- The decimals of `n / 10 ^ width`, without zeros at the end. -/
def fraction (width n : Nat) : List Char :=
  let digits := Nat.toDigits 10 n
  trimZeros (List.replicate (width - digits.length) '0' ++ digits)

/-- A whole part and the decimals after it, in a unit. -/
def amount (whole : Nat) (decimals : List Char) (unit : String) : String :=
  Text.decimal whole
    ++ (if decimals.isEmpty then "" else "." ++ String.ofList decimals) ++ unit

/-- The span as messages show it. -/
def text (d : Duration) : String :=
  if 0 < d.secs then amount d.secs (fraction 9 d.nanos) "s"
  else if 1000000 ≤ d.nanos then
    amount (d.nanos / 1000000) (fraction 6 (d.nanos % 1000000)) "ms"
  else if 1000 ≤ d.nanos then amount (d.nanos / 1000) (fraction 3 (d.nanos % 1000)) "µs"
  else amount d.nanos [] "ns"

end Duration

end Provisioning
