/-!
# Trees of data

What a JSON or TOML text denotes: scalars, arrays and records.  A record keeps its
fields in the order in which they were written, repetitions included; what a
repetition means is up to whoever reads the record.
-/

namespace Provisioning

set_option autoImplicit false

/-- A tree of data.  `date` is a day, a time of day, or both; `other` is a scalar
that no reader in this library accepts, such as a number with a fraction or a
string that is not Unicode text.  Both keep the text they were written as. -/
inductive Datum where
  | null
  | bool (value : Bool)
  | integer (value : Int)
  | date (text : String)
  | other (text : String)
  | string (value : String)
  | array (items : List Datum)
  | record (fields : List (String × Datum))
  deriving Repr, Inhabited

namespace Datum

/-- A natural number as data. -/
def natural (n : Nat) : Datum :=
  .integer (.ofNat n)

/-- A list of texts as data. -/
def strings (texts : List String) : Datum :=
  .array (texts.map .string)

/-- A text or nothing. -/
def optionalString : Option String → Datum
  | none => .null
  | some s => .string s

/-- A number or nothing. -/
def optionalNatural : Option Nat → Datum
  | none => .null
  | some n => .natural n

/-- The last value written for a field of a record. -/
def field? (d : Datum) (name : String) : Option Datum :=
  match d with
  | .record fields => (fields.reverse.find? (·.1 = name)).map (·.2)
  | _ => none

end Datum

end Provisioning
