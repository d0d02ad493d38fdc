import Provisioning.Error
import Provisioning.Text.Decimal

/-!
# Files

Options and stored settings may come from a file.  A file is what was found under
its path: a text, or the reason why there is none.
-/

namespace Provisioning

set_option autoImplicit false

/-- A file as it was found. -/
structure TextFile where
  path : String
  /-- The text, or why it could not be read. -/
  contents : Except String String

namespace TextFile

/-- The reason that a system gives under a number. -/
def systemReason (details : String) (code : Nat) : String :=
  details ++ " (os error " ++ Text.decimal code ++ ")"

/-- The text of the file. -/
def read (f : TextFile) : Result String :=
  match f.contents with
  | .ok text => .ok text
  | .error reason => .error (.config (.unreadableFile f.path reason))

/-! ## Paths without files -/

/-- The names in a path, without those that stay where they are or go up. -/
def namesOn (path : String) : List String :=
  (path.splitOn "/").filter fun name => name ≠ "" ∧ name ≠ "." ∧ name ≠ ".."

/-- The bytes that a path may take up. -/
def maxPathSize : Nat := 4095

/-- The bytes that a name on a path may take up. -/
def maxNameSize : Nat := 255

/-- Why there is no text under a path when there are no files at all.  A path
without names leads to a directory. -/
def absence (path : String) : String :=
  if '\x00' ∈ path.toList then "file name contained an unexpected NUL byte"
  else if maxPathSize < path.utf8ByteSize then systemReason "File name too long" 36
  else
    match namesOn path with
    | [] => systemReason "Is a directory" 21
    | name :: _ =>
      if maxNameSize < name.utf8ByteSize then systemReason "File name too long" 36
      else systemReason "No such file or directory" 2

/-- What is found under a path when there are no files at all. -/
def absent (path : String) : TextFile where
  path := path
  contents := .error (absence path)

end TextFile

end Provisioning
