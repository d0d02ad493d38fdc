import Provisioning.Datum

/-!
# Reading values out of data

A reader gives the value that a tree of data stands for, or nothing when the tree
has another shape.  A record type lists the names of its fields; its values may
be written as a record, where unknown fields are passed over and a known field
may be written once, or as an array of the fields in that order, where fields at
the end may be left out.  A date counts as a record whose fields are unknown.
-/

namespace Provisioning.Datum

set_option autoImplicit false

/-- A text. -/
def toString? : Datum → Option String
  | .string s => some s
  | _ => none

/-- A truth value. -/
def toBool? : Datum → Option Bool
  | .bool b => some b
  | _ => none

/-- A natural number below a bound. -/
def toNatural? (bound : Nat) : Datum → Option Nat
  | .integer (.ofNat n) => if n < bound then some n else none
  | _ => none

/-- A number of 32 bits. -/
def toNatural32? : Datum → Option Nat :=
  toNatural? (Nat.pow 2 32)

/-- A number of 64 bits. -/
def toNatural64? : Datum → Option Nat :=
  toNatural? (Nat.pow 2 64)

/-- A list. -/
def toList? {α : Type} (item : Datum → Option α) : Datum → Option (List α)
  | .array items => items.mapM item
  | _ => none

/-- A value that may be absent. -/
def toOptional? {α : Type} (value : Datum → Option α) : Datum → Option (Option α)
  | .null => some none
  | d => (value d).map some

/-- A value of an enumeration, by its name; a record that gives the name no
content says the same. -/
def toName? {α : Type} (ofName? : String → Option α) : Datum → Option α
  | .string name => ofName? name
  | .record [(name, .null)] => ofName? name
  | _ => none

/-- What is written for a field of a record: nothing, or one value. -/
def single? (fields : List (String × Datum)) (name : String) : Option (Option Datum) :=
  match fields.filter (·.1 = name) with
  | [] => some none
  | [field] => some (some field.2)
  | _ => none

/-- The text format that data come from. -/
inductive Format where
  | json
  | toml
  deriving DecidableEq

/-- Whether an array that stands for a record may hold more items than the record
has fields.  Such items are passed over. -/
def Format.allowsSurplus : Format → Bool
  | json => false
  | toml => true

/-- What is written for each of the named fields. -/
def fields? (format : Format) (names : List String) : Datum → Option (List (Option Datum))
  | .record fields => names.mapM (single? fields)
  | .array items =>
    if items.length ≤ names.length || format.allowsSurplus then
      some ((items.take names.length).map some ++
        List.replicate (names.length - items.length) none)
    else none
  | .date _ => some (names.map fun _ => none)
  | _ => none

/-- The value of a field that must be written. -/
def required {α : Type} (value : Datum → Option α) (field : Option Datum) : Option α :=
  field.bind value

/-- The value of a field that may be left out. -/
def withDefault {α : Type} (fallback : α) (value : Datum → Option α) :
    Option Datum → Option α
  | none => some fallback
  | some d => value d

end Provisioning.Datum
