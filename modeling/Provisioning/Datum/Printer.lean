import Provisioning.Datum
import Provisioning.Text.Decimal
import Provisioning.Text.Quoted

/-!
# JSON text of a tree of data

Two forms are written.  The compact form has no blanks.  The pretty form is a
list of lines: an array or record that is not empty opens a line, holds its
members indented by two blanks, and closes on a line of its own.  Strings are
escaped so that no control character is ever written raw; in particular a line
break inside a string never ends a line.
-/

namespace Provisioning.Datum

set_option autoImplicit false

/-- Four lowercase hexadecimal digits of a control character. -/
def controlEscape (c : Char) : List Char :=
  let digits := Nat.toDigits 16 c.toNat
  ['\\', 'u'] ++ List.replicate (4 - digits.length) '0' ++ digits

/-- How a JSON string writes one character. -/
def escapeChar (c : Char) : List Char :=
  match c with
  | '"' => ['\\', '"']
  | '\\' => ['\\', '\\']
  | '\x08' => ['\\', 'b']
  | '\x0c' => ['\\', 'f']
  | '\n' => ['\\', 'n']
  | '\r' => ['\\', 'r']
  | '\t' => ['\\', 't']
  | c => if c.toNat < 32 then controlEscape c else [c]

/-- A JSON string. -/
def stringText (s : String) : String :=
  String.ofList ('"' :: s.toList.flatMap escapeChar ++ ['"'])

/-! ## Compact form -/

mutual
/-- The tree without any blank. -/
def text : Datum → String
  | .null => "null"
  | .bool true => "true"
  | .bool false => "false"
  | .integer n => Text.signedDecimal n
  | .date s => s
  | .other s => s
  | .string s => stringText s
  | .array items => "[" ++ Text.joined "," (itemTexts items) ++ "]"
  | .record fields => "\x7b" ++ Text.joined "," (fieldTexts fields) ++ "\x7d"

/-- The members of an array, each in compact form. -/
def itemTexts : List Datum → List String
  | [] => []
  | d :: rest => text d :: itemTexts rest

/-- The members of a record, each in compact form. -/
def fieldTexts : List (String × Datum) → List String
  | [] => []
  | (name, d) :: rest => (stringText name ++ ":" ++ text d) :: fieldTexts rest
end

/-! ## Pretty form -/

/-- Appends a comma to the last line. -/
def withComma : List String → List String
  | [] => []
  | [line] => [line ++ ","]
  | line :: rest => line :: withComma rest

/-- Blocks of lines, a comma after each but the last. -/
def commaSeparated : List (List String) → List String
  | [] => []
  | [block] => block
  | block :: rest => withComma block ++ commaSeparated rest

/-- Writes a name in front of the first line. -/
def labelled (name : String) : List String → List String
  | [] => []
  | line :: rest => (stringText name ++ ": " ++ line) :: rest

/-- Lines between an opening and a closing line, indented. -/
def bracketed (opening closing : String) (inner : List String) : List String :=
  opening :: inner.map ("  " ++ ·) ++ [closing]

mutual
/-- The tree as lines. -/
def lines : Datum → List String
  | .array [] => ["[]"]
  | .array (d :: rest) => bracketed "[" "]" (commaSeparated (itemLines (d :: rest)))
  | .record [] => ["\x7b\x7d"]
  | .record (f :: rest) => bracketed "\x7b" "\x7d" (commaSeparated (fieldLines (f :: rest)))
  | .null => ["null"]
  | .bool true => ["true"]
  | .bool false => ["false"]
  | .integer n => [Text.signedDecimal n]
  | .date s => [s]
  | .other s => [s]
  | .string s => [stringText s]

/-- The members of an array, each as a block of lines. -/
def itemLines : List Datum → List (List String)
  | [] => []
  | d :: rest => lines d :: itemLines rest

/-- The members of a record, each as a block of lines. -/
def fieldLines : List (String × Datum) → List (List String)
  | [] => []
  | (name, d) :: rest => labelled name (lines d) :: fieldLines rest
end

/-- The pretty form, without a line break at its end. -/
def pretty (d : Datum) : String :=
  Text.joined "\n" (lines d)

end Provisioning.Datum
