import Provisioning.Error
import Provisioning.Text.DecimalDigit

/-!
# References to secrets

A secret is named by seven fields with colons between them: the partition, the
service, the region, the account and the name are free within their alphabets,
the rest is fixed.  Only the reference ever appears in generated commands; the
value is fetched on the instance.  None of the alphabets holds a character that a
shell treats in a special way.
-/

namespace Provisioning

set_option autoImplicit false

/-- A reference read from the front; the rest of the text is read next. -/
abbrev SecretScanner := List Char → Option (List Char)

namespace SecretScanner

/-- Passes over a fixed text. -/
def expect (expected : List Char) : SecretScanner := fun cs =>
  if expected.isPrefixOf cs then some (cs.drop expected.length) else none

/-- Passes over exactly `n` digits of any script. -/
def digits (n : Nat) : SecretScanner := fun cs =>
  if (cs.take n).length = n ∧ (cs.take n).all Text.isDecimalDigit then some (cs.drop n) else none

/-- A lowercase ASCII letter. -/
def isLower (c : Char) : Bool :=
  'a' ≤ c && c ≤ 'z'

/-- A character of a partition after its first letters. -/
def isPartitionChar (c : Char) : Bool :=
  c.isAlpha || c == '-'

/-- A character of the name of a secret. -/
def isNameChar (c : Char) : Bool :=
  c.isAlphanum || c == '_' || c == '/' || c == '+' || c == '=' || c == '.' || c == '@' || c == '-'

/-- Passes over a partition: nothing, or `aws` and further letters and hyphens. -/
def partition : SecretScanner := fun cs =>
  match expect "aws".toList cs with
  | some rest => some (rest.dropWhile isPartitionChar)
  | none => some cs

end SecretScanner

/-- Whether a text is a region: two lowercase letters, possibly the word for an
isolated area, lowercase letters, and a digit, with hyphens between them. -/
def isRegion (region : List Char) : Bool :=
  match region.splitOn '-' with
  | [country, area, number] => ends country area number
  | [country, isolated, area, number] =>
    ends country area number
      && (isolated == "gov".toList || isolated == "iso".toList || isolated == "isob".toList)
  | _ => false
where
  ends (country area number : List Char) : Bool :=
    country.length == 2 && country.all SecretScanner.isLower
      && !area.isEmpty && area.all SecretScanner.isLower
      && number.length == 1 && number.all Text.isDecimalDigit

/-- The region that a reference names, if the text is a reference to a secret. -/
def secretRegion? (text : List Char) : Option (List Char) := do
  let rest ← SecretScanner.expect "arn:".toList text
  let rest ← SecretScanner.partition rest
  let rest ← SecretScanner.expect ":secretsmanager:".toList rest
  let region := rest.takeWhile (· != ':')
  let rest ← SecretScanner.expect [':'] (rest.dropWhile (· != ':'))
  let rest ← SecretScanner.digits 12 rest
  let name ← SecretScanner.expect ":secret:".toList rest
  if isRegion region && !name.isEmpty && name.all SecretScanner.isNameChar then some region else none

/-- A reference to a secret. -/
structure SecretReference where
  arn : String
  region : String
  isReference : secretRegion? arn.toList = some region.toList
  deriving DecidableEq

namespace SecretReference

/-- The reference that a text is. -/
def ofText? (text : String) : Option SecretReference :=
  match h : secretRegion? text.toList with
  | some region => some ⟨text, String.ofList region, by simpa using h⟩
  | none => none

/-- Reads a reference. -/
def read (text : String) : Result SecretReference :=
  match ofText? text with
  | some secret => .ok secret
  | none => .error (.config (.notSecret text))

/-- A reference that is read is the text it was read from. -/
theorem arn_of_ofText? {text : String} {secret : SecretReference} (h : ofText? text = some secret) :
    secret.arn = text := by
  unfold ofText? at h
  split at h
  · cases h; rfl
  · cases h

end SecretReference

end Provisioning
