import Provisioning.Text.CodePoints

/-!
# White space

The characters with the Unicode property White_Space.  A name made of nothing
else counts as blank.
-/

namespace Provisioning.Text

set_option autoImplicit false

/-- The code points with the property White_Space. -/
def whiteSpace : CodePoints := [
  (0x9, 0xd), (0x20, 0x20), (0x85, 0x85), (0xa0, 0xa0), (0x1680, 0x1680), (0x2000, 0x200a),
  (0x2028, 0x2029), (0x202f, 0x202f), (0x205f, 0x205f), (0x3000, 0x3000)]

/-- Whether the character is white space. -/
def isWhiteSpace (c : Char) : Bool :=
  whiteSpace.has c

/-- Whether a text shows nothing: it is empty or all white space. -/
def isBlank (s : String) : Bool :=
  s.toList.all isWhiteSpace

end Provisioning.Text
