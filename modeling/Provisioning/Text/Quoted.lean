import Provisioning.Text.GraphemeExtend
import Provisioning.Text.Unprintable

/-!
# Quoted text

Messages show a text that may hold anything between quotation marks, with every
character that would be invisible, or would blend into its neighbour, written as
an escape.  The written form determines the text: no two texts look the same.
-/

namespace Provisioning.Text

set_option autoImplicit false

/-- How quoted text writes one character.  A single quotation mark needs no
escape inside double ones. -/
def escape (c : Char) : List Char :=
  match c with
  | '\x00' => ['\\', '0']
  | '\t' => ['\\', 't']
  | '\r' => ['\\', 'r']
  | '\n' => ['\\', 'n']
  | '"' => ['\\', '"']
  | '\\' => ['\\', '\\']
  | c =>
    if extendsGrapheme c || isUnprintable c then
      ['\\', 'u', '\x7b'] ++ Nat.toDigits 16 c.toNat ++ ['\x7d']
    else [c]

/-- The text between double quotation marks, with escapes. -/
def quoted (s : String) : String :=
  String.ofList ('"' :: s.toList.flatMap escape ++ ['"'])

/-- The text between double quotation marks, as it is. -/
def inMarks (s : String) : String :=
  "\"" ++ s ++ "\""

/-- Texts joined by a separator. -/
def joined (separator : String) : List String → String
  | [] => ""
  | [s] => s
  | s :: rest => s ++ separator ++ joined separator rest

/-- Every text followed by a line break. -/
def terminated (lines : List String) : String :=
  String.join (lines.map (· ++ "\n"))

end Provisioning.Text
