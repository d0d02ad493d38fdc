import Provisioning.Datum
import Provisioning.Text.Decimal

/-!
# Reading JSON text

A strict reader of one JSON value with blanks around it.  A number is an integer
only when it has no fraction and no exponent, fits 64 bits, and is not `-0`; any
other number is kept as it was written.  A string whose escapes name half of a
surrogate pair is well formed, so a reader may skip it, but it is no text; the
same holds of a record that has such a string as a field name.
-/

namespace Provisioning.Datum.Json

set_option autoImplicit false

/-- The blanks allowed between the parts of a value. -/
def isBlank (c : Char) : Bool :=
  c == ' ' || c == '\n' || c == '\r' || c == '\t'

/-- The input from its first character that is not blank. -/
def skip (cs : List Char) : List Char :=
  cs.dropWhile isBlank

/-- The value of a hexadecimal digit. -/
def hexValue? (c : Char) : Option Nat :=
  if '0' ≤ c ∧ c ≤ '9' then some (c.toNat - '0'.toNat)
  else if 'a' ≤ c ∧ c ≤ 'f' then some (c.toNat - 'a'.toNat + 10)
  else if 'A' ≤ c ∧ c ≤ 'F' then some (c.toNat - 'A'.toNat + 10)
  else none

/-- The value of hexadecimal digits. -/
def hexNumber? (digits : List Char) : Option Nat :=
  digits.foldlM (fun n c => (hexValue? c).map (16 * n + ·)) 0

/-- What a backslash and this letter stand for. -/
def simpleEscape? (c : Char) : Option Char :=
  match c with
  | '"' => some '"'
  | '\\' => some '\\'
  | '/' => some '/'
  | 'b' => some '\x08'
  | 'f' => some '\x0c'
  | 'n' => some '\n'
  | 'r' => some '\r'
  | 't' => some '\t'
  | _ => none

/-- The code units that start a surrogate pair. -/
def isHighSurrogate (n : Nat) : Bool :=
  0xD800 ≤ n && n ≤ 0xDBFF

/-- The code units that end a surrogate pair. -/
def isLowSurrogate (n : Nat) : Bool :=
  0xDC00 ≤ n && n ≤ 0xDFFF

/-- One more character of a string, when the rest of it is text. -/
def push (c : Char) (body : Option (List Char) × List Char) : Option (List Char) × List Char :=
  (body.1.map (c :: ·), body.2)

/-- Marks a string as no text. -/
def spoil (body : Option (List Char) × List Char) : Option (List Char) × List Char :=
  (none, body.2)

/-- The characters up to the closing quotation mark, and the input after it.  The
characters are `none` when the string is well formed but no text. -/
def stringBody : List Char → Option (Option (List Char) × List Char)
  | [] => none
  | '"' :: rest => some (some [], rest)
  | '\\' :: 'u' :: a :: b :: c :: d :: '\\' :: 'u' :: e :: f :: g :: h :: rest => do
    let high ← hexNumber? [a, b, c, d]
    if isHighSurrogate high then
      let low ← hexNumber? [e, f, g, h]
      if isLowSurrogate low then
        (stringBody rest).map
          (push (Char.ofNat (0x10000 + (high - 0xD800) * 0x400 + (low - 0xDC00))))
      else (stringBody ('\\' :: 'u' :: e :: f :: g :: h :: rest)).map spoil
    else if isLowSurrogate high then
      (stringBody ('\\' :: 'u' :: e :: f :: g :: h :: rest)).map spoil
    else (stringBody ('\\' :: 'u' :: e :: f :: g :: h :: rest)).map (push (Char.ofNat high))
  | '\\' :: 'u' :: a :: b :: c :: d :: rest => do
    let n ← hexNumber? [a, b, c, d]
    if isHighSurrogate n || isLowSurrogate n then (stringBody rest).map spoil
    else (stringBody rest).map (push (Char.ofNat n))
  | '\\' :: c :: rest => do
    let escaped ← simpleEscape? c
    (stringBody rest).map (push escaped)
  | '\\' :: [] => none
  | c :: rest => if c.toNat < 32 then none else (stringBody rest).map (push c)

/-- The digits at the start of the input, and what follows them; at least one. -/
def digits? (cs : List Char) : Option (List Char × List Char) :=
  match cs.takeWhile Char.isDigit with
  | [] => none
  | ds => some (ds, cs.dropWhile Char.isDigit)

/-- The whole part of a number: no zero before another digit. -/
def wholePart? (cs : List Char) : Option (List Char × List Char) :=
  match digits? cs with
  | some ('0' :: _ :: _, _) => none
  | found => found

/-- A fraction, if one follows. -/
def fraction? : List Char → Option (List Char × List Char)
  | '.' :: rest => (digits? rest).map fun p => ('.' :: p.1, p.2)
  | cs => some ([], cs)

/-- An exponent, if one follows. -/
def exponent? : List Char → Option (List Char × List Char)
  | [] => some ([], [])
  | c :: rest =>
    if c == 'e' || c == 'E' then
      match rest with
      | '+' :: rest => (digits? rest).map fun p => (c :: '+' :: p.1, p.2)
      | '-' :: rest => (digits? rest).map fun p => (c :: '-' :: p.1, p.2)
      | rest => (digits? rest).map fun p => (c :: p.1, p.2)
    else some ([], c :: rest)

/-- An integer that fits 64 bits, signed or unsigned, and is not minus zero. -/
def integer? (negative : Bool) (n : Nat) : Option Int :=
  if negative then
    if 0 < n ∧ n ≤ Nat.pow 2 63 then some (-(n : Int)) else none
  else if n < Nat.pow 2 64 then some n else none

/-- A number. -/
def number? (cs : List Char) : Option (Datum × List Char) := do
  let (negative, cs) := match cs with
    | '-' :: rest => (true, rest)
    | cs => (false, cs)
  let (whole, cs) ← wholePart? cs
  let (decimals, cs) ← fraction? cs
  let (power, cs) ← exponent? cs
  let written := String.ofList ((if negative then ['-'] else []) ++ whole ++ decimals ++ power)
  let value := match integer? negative (Text.decimalValue whole) with
    | some n => if decimals.isEmpty && power.isEmpty then .integer n else .other written
    | none => .other written
  pure (value, cs)

/-- A well-formed value that stands for nothing. -/
def skipped : Datum :=
  .other "\"\""

mutual
/-- One value, and the input after it.  The number bounds the nesting of calls. -/
def value? : Nat → List Char → Option (Datum × List Char)
  | 0, _ => none
  | fuel + 1, cs =>
    match skip cs with
    | 'n' :: 'u' :: 'l' :: 'l' :: rest => some (.null, rest)
    | 't' :: 'r' :: 'u' :: 'e' :: rest => some (.bool true, rest)
    | 'f' :: 'a' :: 'l' :: 's' :: 'e' :: rest => some (.bool false, rest)
    | '"' :: rest => do
      let (body, rest) ← stringBody rest
      match body with
      | some chars => pure (.string (String.ofList chars), rest)
      | none => pure (skipped, rest)
    | '[' :: rest =>
      match skip rest with
      | ']' :: rest => some (.array [], rest)
      | rest => (items? fuel rest).map fun p => (.array p.1, p.2)
    | '\x7b' :: rest =>
      match skip rest with
      | '\x7d' :: rest => some (.record [], rest)
      | rest => (fields? fuel rest).map fun p => ((p.1.map .record).getD skipped, p.2)
    | cs => number? cs

/-- The items of an array up to its closing bracket. -/
def items? : Nat → List Char → Option (List Datum × List Char)
  | 0, _ => none
  | fuel + 1, cs => do
    let (d, rest) ← value? fuel cs
    match skip rest with
    | ']' :: rest => pure ([d], rest)
    | ',' :: rest =>
      let (ds, rest) ← items? fuel rest
      pure (d :: ds, rest)
    | _ => none

/-- The fields of a record up to its closing brace; `none` in the first place
when a name is no text. -/
def fields? : Nat → List Char → Option (Option (List (String × Datum)) × List Char)
  | 0, _ => none
  | fuel + 1, cs =>
    match skip cs with
    | '"' :: rest => do
      let (name, rest) ← stringBody rest
      match skip rest with
      | ':' :: rest =>
        let (d, rest) ← value? fuel rest
        let field := name.map fun chars => (String.ofList chars, d)
        match skip rest with
        | '\x7d' :: rest => pure (field.map ([·]), rest)
        | ',' :: rest =>
          let (others, rest) ← fields? fuel rest
          pure (field.bind fun f => others.map (f :: ·), rest)
        | _ => none
      | _ => none
    | _ => none
end

end Json

/-- The value that a JSON text denotes. -/
def ofJson? (text : String) : Option Datum :=
  let cs := text.toList
  match Json.value? (2 * cs.length + 2) cs with
  | some (d, rest) => if (Json.skip rest).isEmpty then some d else none
  | none => none

end Provisioning.Datum
