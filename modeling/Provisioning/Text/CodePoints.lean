/-!
# Sets of code points given by ranges

A property of characters that a standard lists, rather than computes, is stored
as a list of inclusive ranges of code points.  The tables are modules of their
own, each named for its property; this module only says when a character
belongs to one.
-/

namespace Provisioning.Text

set_option autoImplicit false

/-- Inclusive ranges of code points. -/
abbrev CodePoints := List (Nat × Nat)

/-- Whether the character lies in one of the ranges. -/
def CodePoints.has (ranges : CodePoints) (c : Char) : Bool :=
  ranges.any fun range => range.1 ≤ c.toNat && c.toNat ≤ range.2

end Provisioning.Text
