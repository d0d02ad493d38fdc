import Provisioning.Datum.Json

/-!
# Reading TOML text

A reader of TOML 1.0 documents.  Scalars are read from the input first; the
statements of the document then build a tree of tables, where the rules about
tables that are defined twice are enforced; the tree is at last turned into data.
Dates and numbers with a fraction are checked and kept as they were written,
since no reader in this library has a use for them.  Dotted keys in an inline
table may add to an inline table written before them.  Keys and values nest less
than `depthLimit` deep.
-/

namespace Provisioning.Datum.Toml

set_option autoImplicit false

/-! ## Blanks, comments and ends of lines -/

/-- A blank within a line. -/
def isBlank (c : Char) : Bool :=
  c == ' ' || c == '\t'

/-- The input from its first character that is not a blank. -/
def skip (cs : List Char) : List Char :=
  cs.dropWhile isBlank

/-- A character that may stand in a comment: anything but a control character,
and the tab. -/
def isCommentChar (c : Char) : Bool :=
  c == '\t' || (32 ≤ c.toNat && c.toNat != 127)

/-- The input after a line break. -/
def newline? : List Char → Option (List Char)
  | '\n' :: rest => some rest
  | '\r' :: '\n' :: rest => some rest
  | _ => none

/-- The input after a comment, if one starts here. -/
def skipComment : List Char → List Char
  | '#' :: rest => rest.dropWhile isCommentChar
  | cs => cs

/-- The input after the end of a line: blanks, a comment, and a line break or the
end of the input. -/
def lineEnd? (cs : List Char) : Option (List Char) :=
  match skipComment (skip cs) with
  | [] => some []
  | rest => newline? rest

/-- Passing over a comment makes the input no longer. -/
theorem length_skipComment_le (cs : List Char) : (skipComment cs).length ≤ cs.length := by
  unfold skipComment
  split
  next rest => exact Nat.le_succ_of_le (List.dropWhile_sublist _).length_le
  next => exact Nat.le_refl _

/-- A line break is at least one character. -/
theorem length_lt_of_newline? {cs rest : List Char} (h : newline? cs = some rest) :
    rest.length < cs.length := by
  unfold newline? at h
  split at h <;> cases h <;> simp only [List.length_cons] <;> omega

/-- Passes over blanks, comments and line breaks, as allowed within an array. -/
def skipLines (cs : List Char) : List Char :=
  match _ : newline? (skipComment (skip cs)) with
  | some rest => skipLines rest
  | none => skipComment (skip cs)
termination_by cs.length
decreasing_by
  have first : (skip cs).length ≤ cs.length := (List.dropWhile_sublist _).length_le
  have second := length_skipComment_le (skip cs)
  have third := length_lt_of_newline? (by assumption)
  omega

/-! ## Strings -/

/-- The character of a code point given by hexadecimal digits. -/
def codePoint? (digits : List Char) : Option Char := do
  let n ← Json.hexNumber? digits
  if n.isValidChar then some (Char.ofNat n) else none

/-- A character that may stand for itself in a string. -/
def isPlain (c : Char) : Bool :=
  isCommentChar c

/-- What a backslash and the input after it stand for. -/
def escape? : List Char → Option (Char × List Char)
  | 'u' :: a :: b :: c :: d :: rest => (codePoint? [a, b, c, d]).map (·, rest)
  | 'U' :: a :: b :: c :: d :: e :: f :: g :: h :: rest =>
    (codePoint? [a, b, c, d, e, f, g, h]).map (·, rest)
  | 'b' :: rest => some ('\x08', rest)
  | 't' :: rest => some ('\t', rest)
  | 'n' :: rest => some ('\n', rest)
  | 'f' :: rest => some ('\x0c', rest)
  | 'r' :: rest => some ('\r', rest)
  | '"' :: rest => some ('"', rest)
  | '\\' :: rest => some ('\\', rest)
  | _ => none

/-- Puts a character in front of what was read. -/
def push (c : Char) (body : List Char × List Char) : List Char × List Char :=
  (c :: body.1, body.2)

/-- The rest of a string between double quotation marks.  The number bounds its
length. -/
def basicBody : Nat → List Char → Option (List Char × List Char)
  | 0, _ => none
  | fuel + 1, cs =>
    match cs with
    | '"' :: rest => some ([], rest)
    | '\\' :: rest => do
      let (c, rest) ← escape? rest
      (basicBody fuel rest).map (push c)
    | c :: rest => if isPlain c then (basicBody fuel rest).map (push c) else none
    | [] => none

/-- The rest of a string between single quotation marks. -/
def literalBody : List Char → Option (List Char × List Char)
  | [] => none
  | '\'' :: rest => some ([], rest)
  | c :: rest => if isPlain c then (literalBody rest).map (push c) else none

/-- The rest of a string between three quotation marks of the given kind.  Up to
two marks may stand before the closing three.  After a backslash at the end of a
line, white space is passed over as long as `trimming` holds.  The number bounds
the string's length. -/
def longBody (mark : Char) : Nat → Bool → List Char → Option (List Char × List Char)
  | 0, _, _ => none
  | fuel + 1, trimming, cs =>
    match newline? cs with
    | some rest =>
      if trimming then longBody mark fuel true rest
      else (longBody mark fuel false rest).map (push '\n')
    | none =>
      match cs with
      | [] => none
      | c :: rest =>
        if trimming && isBlank c then longBody mark fuel true rest
        else if c == mark then
          match rest with
          | d :: e :: after =>
            if d == mark && e == mark then
              match after with
              | f :: g :: more =>
                if f == mark then
                  if g == mark then some ([mark, mark], more) else some ([mark], g :: more)
                else some ([], after)
              | [f] => if f == mark then some ([mark], []) else some ([], [f])
              | [] => some ([], [])
            else (longBody mark fuel false rest).map (push c)
          | _ => none
        else if mark == '"' && c == '\\' then
          match newline? (skip rest) with
          | some after => longBody mark fuel true after
          | none => do
            let (c, rest) ← escape? rest
            (longBody mark fuel false rest).map (push c)
        else if isPlain c then (longBody mark fuel false rest).map (push c)
        else none

/-- A string written on one line. -/
def shortString? : List Char → Option (String × List Char)
  | '"' :: rest => (basicBody (rest.length + 1) rest).map fun p => (String.ofList p.1, p.2)
  | '\'' :: rest => (literalBody rest).map fun p => (String.ofList p.1, p.2)
  | _ => none

/-- A string over several lines; a line break right after the opening marks does
not belong to it. -/
def longString? (mark : Char) (cs : List Char) : Option (String × List Char) :=
  let cs := (newline? cs).getD cs
  (longBody mark (cs.length + 1) false cs).map fun p => (String.ofList p.1, p.2)

/-- A string. -/
def string? : List Char → Option (String × List Char)
  | '"' :: '"' :: '"' :: rest => longString? '"' rest
  | '\'' :: '\'' :: '\'' :: rest => longString? '\'' rest
  | cs => shortString? cs

/-! ## Numbers, truth values and dates -/

/-- Digits, with single underscores between them. -/
def digits? (isDigit : Char → Bool) : List Char → Option (List Char)
  | [] => none
  | [c] => if isDigit c then some [c] else none
  | c :: '_' :: rest => if isDigit c then (digits? isDigit rest).map (c :: ·) else none
  | c :: rest => if isDigit c then (digits? isDigit rest).map (c :: ·) else none

/-- A sign, if there is one. -/
def sign : List Char → Bool × List Char
  | '-' :: rest => (true, rest)
  | '+' :: rest => (false, rest)
  | cs => (false, cs)

/-- The digits of a whole number: no zero before another digit. -/
def wholeDigits? (cs : List Char) : Option (List Char) :=
  match cs with
  | ['0'] => some ['0']
  | '0' :: _ => none
  | cs => digits? Char.isDigit cs

/-- An integer of 64 bits. -/
def signed64? (negative : Bool) (n : Nat) : Option Int :=
  if negative then
    if n ≤ Nat.pow 2 63 then some (-(n : Int)) else none
  else if n < Nat.pow 2 63 then some n else none

/-- The value of digits in a base. -/
def inBase? (base : Nat) (digits : List Char) : Option Nat :=
  digits.foldlM (fun n c => do
    let d ← Json.hexValue? c
    if d < base then some (base * n + d) else none) 0

/-- Whether a character is a digit in a base. -/
def isDigitIn (base : Nat) (c : Char) : Bool :=
  (Json.hexValue? c).any (· < base)

/-- An integer. -/
def integer? (token : List Char) : Option Int :=
  match token with
  | '0' :: 'x' :: rest => based 16 rest
  | '0' :: 'o' :: rest => based 8 rest
  | '0' :: 'b' :: rest => based 2 rest
  | token => do
    let (negative, rest) := sign token
    let digits ← wholeDigits? rest
    signed64? negative (Text.decimalValue digits)
where
  based (base : Nat) (rest : List Char) : Option Int := do
    let digits ← digits? (isDigitIn base) rest
    let n ← inBase? base digits
    signed64? false n

/-- Splits at the first character of a class, which is left out. -/
def cut (isMark : Char → Bool) (cs : List Char) : List Char × Option (List Char) :=
  match cs.dropWhile (fun c => !isMark c) with
  | [] => (cs, none)
  | _ :: rest => (cs.takeWhile (fun c => !isMark c), some rest)

/-- Whether `n * 10 ^ power` rounds to a finite binary number of 64 bits. -/
def isFinite (n : Nat) (power : Int) : Bool :=
  let size := (Nat.toDigits 10 n).length
  let limit := Nat.pow 2 1024 - Nat.pow 2 970
  if n = 0 || size + power < 300 then true
  else if 310 < size + power then false
  else
    match power with
    | .ofNat p => n * Nat.pow 10 p < limit
    | .negSucc p => n < limit * Nat.pow 10 (p + 1)

/-- A number with a fraction or an exponent. -/
def isFloat (token : List Char) : Bool :=
  let (negative, rest) := sign token
  if rest == "inf".toList || rest == "nan".toList then true
  else
    let (mantissa, exponent) := cut (fun c => c == 'e' || c == 'E') rest
    let (whole, decimals) := cut (· == '.') mantissa
    let power : Option (Option Int) := match exponent with
      | none => some none
      | some e =>
        let (below, ds) := sign e
        (digits? Char.isDigit ds).map fun ds =>
          let n : Int := Text.decimalValue ds
          some (if below then -n else n)
    let places : Option (Option (List Char)) := match decimals with
      | none => some none
      | some ds => (digits? Char.isDigit ds).map some
    match wholeDigits? whole, places, power with
    | some _, some none, some none => false
    | some ds, some places, some power =>
      let fraction := places.getD []
      let scale : Int := power.getD 0 - fraction.length
      negative || isFinite (Text.decimalValue (ds ++ fraction)) scale
    | _, _, _ => false

/-- The value of exactly `n` digits at the start, and the rest. -/
def fixed? (n : Nat) (cs : List Char) : Option (Nat × List Char) :=
  let ds := cs.take n
  if ds.length = n ∧ ds.all Char.isDigit then some (Text.decimalValue ds, cs.drop n) else none

/-- The input after a day.  Every month may have 31 of them. -/
def date? (cs : List Char) : Option (List Char) := do
  let (_, cs) ← fixed? 4 cs
  let '-' :: cs := cs | none
  let (month, cs) ← fixed? 2 cs
  let '-' :: cs := cs | none
  let (day, cs) ← fixed? 2 cs
  if 1 ≤ month ∧ month ≤ 12 ∧ 1 ≤ day ∧ day ≤ 31 then some cs else none

/-- The input after an hour and a minute. -/
def hourMinute? (cs : List Char) : Option (List Char) := do
  let (hour, cs) ← fixed? 2 cs
  let ':' :: cs := cs | none
  let (minute, cs) ← fixed? 2 cs
  if hour ≤ 23 ∧ minute ≤ 59 then some cs else none

/-- The input after a time of day. -/
def time? (cs : List Char) : Option (List Char) := do
  let cs ← hourMinute? cs
  let ':' :: cs := cs | none
  let (second, cs) ← fixed? 2 cs
  if 60 < second then none
  else
    match cs with
    | '.' :: cs =>
      match cs.takeWhile Char.isDigit with
      | [] => none
      | _ => some (cs.dropWhile Char.isDigit)
    | cs => some cs

/-- The input after the distance to universal time, if one follows. -/
def offset? : List Char → Option (List Char)
  | 'Z' :: rest => some rest
  | 'z' :: rest => some rest
  | '+' :: rest => hourMinute? rest
  | '-' :: rest => hourMinute? rest
  | cs => some cs

/-- A day, a time of day, or both with or without a distance to universal time. -/
def isDate (token : List Char) : Bool :=
  match date? token with
  | some [] => true
  | some (c :: rest) =>
    (c == 'T' || c == 't' || c == ' ') && ((time? rest).bind offset?) == some []
  | none => time? token == some []

/-- The characters of numbers, truth values and dates. -/
def isTokenChar (c : Char) : Bool :=
  c.isAlphanum || c == '_' || c == '+' || c == '-' || c == '.' || c == ':'

/-- A number, a truth value or a date that is written without a blank. -/
def scalar? (token : List Char) : Option Datum :=
  if token == "true".toList then some (.bool true)
  else if token == "false".toList then some (.bool false)
  else
    match integer? token with
    | some n => some (.integer n)
    | none =>
      if isFloat token then some (.other (String.ofList token))
      else if isDate token then some (.date (String.ofList token))
      else none

/-- A number, a truth value or a date.  A day and a time may be parted by one
blank. -/
def scalar (cs : List Char) : Option (Datum × List Char) :=
  let token := cs.takeWhile isTokenChar
  let rest := cs.dropWhile isTokenChar
  match date? token, rest with
  | some [], ' ' :: after =>
    let time := after.takeWhile isTokenChar
    if isDate (token ++ ' ' :: time) then
      some (.date (String.ofList (token ++ ' ' :: time)), after.dropWhile isTokenChar)
    else (scalar? token).map (·, rest)
  | _, _ => (scalar? token).map (·, rest)

/-! ## Keys -/

/-- Keys have fewer parts than this, and fewer brackets are open at a time. -/
def depthLimit : Nat := 128

/-- A character of a key without quotation marks. -/
def isKeyChar (c : Char) : Bool :=
  c.isAlphanum || c == '_' || c == '-'

/-- One part of a key. -/
def keyPart? (cs : List Char) : Option (String × List Char) :=
  match cs with
  | '"' :: _ => shortString? cs
  | '\'' :: _ => shortString? cs
  | cs =>
    match cs.takeWhile isKeyChar with
    | [] => none
    | part => some (String.ofList part, cs.dropWhile isKeyChar)

/-- The parts of a key, with dots between them and blanks around each, when there
are no more than the given number. -/
def keyParts? : Nat → List Char → Option (List String × List Char)
  | 0, _ => none
  | room + 1, cs => do
    let (part, rest) ← keyPart? (skip cs)
    match skip rest with
    | '.' :: rest =>
      let (parts, rest) ← keyParts? room rest
      pure (part :: parts, rest)
    | rest => pure ([part], rest)

/-- A key. -/
def key? : List Char → Option (List String × List Char) :=
  keyParts? (depthLimit - 1)

/-! ## Trees of tables -/

/-- How a table came to be: by its own header, as a step on the way to another
header, or as a step of a dotted key. -/
inductive Origin where
  | header
  | implied
  | dotted
  deriving DecidableEq

/-- A tree of tables.  An array of tables is never empty. -/
inductive Node where
  | value (d : Datum)
  | table (origin : Origin) (fields : List (String × Node))
  | tables (elements : List (List (String × Node)))

/-- The fields of a table in the order they were first written. -/
abbrev Fields := List (String × Node)

/-- What a name stands for. -/
def find {α : Type} (fields : List (String × α)) (name : String) : Option α :=
  (fields.find? (·.1 = name)).map (·.2)

/-- Changes what a name stands for, or adds the name at the end. -/
def put {α : Type} : List (String × α) → String → α → List (String × α)
  | [], name, a => [(name, a)]
  | f :: rest, name, a => if f.1 = name then (name, a) :: rest else f :: put rest name a

/-- Changes the last table of an array. -/
def onLast (f : Fields → Option Fields) : List Fields → Option (List Fields)
  | [] => none
  | [t] => (f t).map ([·])
  | t :: rest => (onLast f rest).map (t :: ·)

/-- Puts a value below a key of several parts, making the tables on the way.  A
table with a header of its own cannot be entered, and a value goes only into a
table that dotted keys made, or into the table the key starts from: `open?` says
whether the present table is one of these. -/
def putDotted (value : Datum) : (open? : Bool) → Fields → List String → Option Fields
  | _, _, [] => none
  | open?, fields, [name] =>
    match find fields name with
    | none => if open? then some (put fields name (.value value)) else none
    | some _ => none
  | _, fields, name :: rest =>
    match find fields name with
    | none => (putDotted value true [] rest).map fun sub => put fields name (.table .dotted sub)
    | some (.table .dotted sub) =>
      (putDotted value true sub rest).map fun sub => put fields name (.table .dotted sub)
    | some (.table .implied sub) =>
      (putDotted value false sub rest).map fun sub => put fields name (.table .implied sub)
    | some (.tables ts) =>
      (onLast (fun sub => putDotted value false sub rest) ts).map fun ts =>
        put fields name (.tables ts)
    | some _ => none

/-- Puts a value below a key of several parts into an inline table, making the
inline tables on the way.  All that are there can be entered. -/
def putInline (value : Datum) :
    List (String × Datum) → List String → Option (List (String × Datum))
  | _, [] => none
  | fields, [name] =>
    match find fields name with
    | none => some (put fields name value)
    | some _ => none
  | fields, name :: rest =>
    match find fields name with
    | none => (putInline value [] rest).map fun sub => put fields name (.record sub)
    | some (.record sub) =>
      (putInline value sub rest).map fun sub => put fields name (.record sub)
    | some _ => none

/-- Acts on the last part of a header's path, making the tables on the way. -/
def below (act : Fields → String → Option Fields) : Fields → List String → Option Fields
  | _, [] => none
  | fields, [name] => act fields name
  | fields, name :: rest =>
    match find fields name with
    | none => (below act [] rest).map fun sub => put fields name (.table .implied sub)
    | some (.table origin sub) =>
      (below act sub rest).map fun sub => put fields name (.table origin sub)
    | some (.tables ts) =>
      (onLast (fun sub => below act sub rest) ts).map fun ts => put fields name (.tables ts)
    | some (.value _) => none

/-- Opens a table under its own header: a new one, or one that so far was only a
step on the way to others. -/
def openTable (fields : Fields) (name : String) : Option Fields :=
  match find fields name with
  | none => some (put fields name (.table .header []))
  | some (.table .implied sub) => some (put fields name (.table .header sub))
  | some _ => none

/-- Opens a further table of an array of tables. -/
def openElement (fields : Fields) (name : String) : Option Fields :=
  match find fields name with
  | none => some (put fields name (.tables [[]]))
  | some (.tables ts) => some (put fields name (.tables (ts ++ [[]])))
  | some _ => none

/-- Acts on the table that the last header opened. -/
def within (act : Fields → Option Fields) : Fields → List String → Option Fields
  | fields, [] => act fields
  | fields, name :: rest =>
    match find fields name with
    | some (.table origin sub) =>
      (within act sub rest).map fun sub => put fields name (.table origin sub)
    | some (.tables ts) =>
      (onLast (fun sub => within act sub rest) ts).map fun ts => put fields name (.tables ts)
    | _ => none

mutual
/-- The data of a node. -/
def Node.datum : Node → Datum
  | .value d => d
  | .table _ fields => .record (fieldData fields)
  | .tables elements => .array (elementData elements)

/-- The data of the fields of a table. -/
def fieldData : List (String × Node) → List (String × Datum)
  | [] => []
  | (name, node) :: rest => (name, node.datum) :: fieldData rest

/-- The data of the tables of an array. -/
def elementData : List (List (String × Node)) → List Datum
  | [] => []
  | fields :: rest => .record (fieldData fields) :: elementData rest
end

/-! ## Values and documents -/

mutual
/-- One value, and the input after it.  The first number bounds the nesting of
calls, the second says how many more brackets may be opened. -/
def value? : Nat → Nat → List Char → Option (Datum × List Char)
  | 0, _, _ => none
  | fuel + 1, room, cs =>
    match cs, room with
    | '"' :: _, _ => (string? cs).map fun p => (.string p.1, p.2)
    | '\'' :: _, _ => (string? cs).map fun p => (.string p.1, p.2)
    | '[' :: _, 0 => none
    | '[' :: rest, room + 1 =>
      (items? fuel room (skipLines rest)).map fun p => (.array p.1, p.2)
    | '\x7b' :: _, 0 => none
    | '\x7b' :: rest, room + 1 =>
      match skip rest with
      | '\x7d' :: rest => some (.record [], rest)
      | rest => (pairs? fuel room [] rest).map fun p => (.record p.1, p.2)
    | cs, _ => scalar cs

/-- The items of an array up to its closing bracket; a comma may follow the last. -/
def items? : Nat → Nat → List Char → Option (List Datum × List Char)
  | 0, _, _ => none
  | fuel + 1, room, cs =>
    match cs with
    | ']' :: rest => some ([], rest)
    | cs => do
      let (d, rest) ← value? fuel room cs
      match skipLines rest with
      | ']' :: rest => pure ([d], rest)
      | ',' :: rest =>
        let (ds, rest) ← items? fuel room (skipLines rest)
        pure (d :: ds, rest)
      | _ => none

/-- The pairs of an inline table up to its closing brace, added to fields already
read; no comma may follow the last. -/
def pairs? : Nat → Nat → List (String × Datum) → List Char →
    Option (List (String × Datum) × List Char)
  | 0, _, _, _ => none
  | fuel + 1, room, fields, cs => do
    let (key, rest) ← key? cs
    let '=' :: rest := rest | none
    let (d, rest) ← value? fuel room (skip rest)
    let fields ← putInline d fields key
    match skip rest with
    | '\x7d' :: rest => pure (fields, rest)
    | ',' :: rest => pairs? fuel room fields rest
    | _ => none
end

/-- One statement of a document, begun after its blanks: the tables and the path
of the open table after it, and the input after it. -/
def statement? (root : Fields) (path : List String) (cs : List Char) :
    Option (Fields × List String × List Char) :=
  match cs with
  | '[' :: '[' :: rest => do
    let (key, rest) ← key? rest
    let ']' :: ']' :: rest := rest | none
    let rest ← lineEnd? rest
    let root ← below openElement root key
    pure (root, key, rest)
  | '[' :: rest => do
    let (key, rest) ← key? rest
    let ']' :: rest := rest | none
    let rest ← lineEnd? rest
    let root ← below openTable root key
    pure (root, key, rest)
  | cs => do
    let (key, rest) ← key? cs
    let '=' :: rest := rest | none
    let (d, rest) ← value? (2 * rest.length + 2) (depthLimit - 1) (skip rest)
    let rest ← lineEnd? rest
    let root ← within (fun fields => putDotted d true fields key) root path
    pure (root, path, rest)

/-- The statements of a document.  The number bounds the statements and lines. -/
def statements? : Nat → Fields → List String → List Char → Option Fields
  | 0, _, _, _ => none
  | fuel + 1, root, path, cs =>
    match skip cs with
    | [] => some root
    | '#' :: rest => (lineEnd? ('#' :: rest)).bind (statements? fuel root path)
    | cs =>
      match newline? cs with
      | some rest => statements? fuel root path rest
      | none => do
        let (root, path, rest) ← statement? root path cs
        statements? fuel root path rest

end Toml

/-- The record that a TOML document denotes.  A byte order mark at its start is
passed over. -/
def ofToml? (text : String) : Option Datum :=
  let cs := match text.toList with
    | '\uFEFF' :: rest => rest
    | cs => cs
  (Toml.statements? (cs.length + 1) [] [] cs).map fun fields => .record (Toml.fieldData fields)

end Provisioning.Datum
