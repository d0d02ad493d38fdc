import Provisioning.Sha256
import Provisioning.Text.Base64

/-!
# Identities of resources

A resource is known within its deployment by a path of components.  Outside, it
is known by an identifier made of ASCII letters and digits only, so that the
identifier can stand in a command without quotation marks.  The identifier keeps
the letters and digits of the path, for readers, and eight digits of the path's
digest, to tell apart paths whose letters and digits agree.
-/

namespace Provisioning

set_option autoImplicit false

/-- The path of a resource within its deployment. -/
structure ResourceId where
  path : String
  deriving DecidableEq

namespace ResourceId

/-! ## Order by path -/

instance : LT ResourceId := ⟨fun a b => a.path < b.path⟩
instance : LE ResourceId := ⟨fun a b => a.path ≤ b.path⟩
instance : DecidableLT ResourceId := fun a b => inferInstanceAs (Decidable (a.path < b.path))
instance : DecidableLE ResourceId := fun a b => inferInstanceAs (Decidable (a.path ≤ b.path))

/-- Identities with one path are one identity. -/
@[ext] theorem ext {a b : ResourceId} (h : a.path = b.path) : a = b := by
  cases a; cases b; cases h; rfl

theorem le_def {a b : ResourceId} : a ≤ b ↔ a.path ≤ b.path := Iff.rfl

instance : Std.IsLinearOrder ResourceId where
  le_refl a := le_def.mpr (Std.le_refl a.path)
  le_trans _ _ _ first second := le_def.mpr (Std.le_trans (le_def.mp first) (le_def.mp second))
  le_antisymm _ _ first second := ext (Std.le_antisymm (le_def.mp first) (le_def.mp second))
  le_total a b := Std.le_total (a := a.path) (b := b.path)

instance : Std.LawfulOrderLT ResourceId where
  lt_iff a b := Std.LawfulOrderLT.lt_iff a.path b.path

/-! ## Derived identities -/

/-- The character between the components of a path. -/
def separator : Char := '/'

/-- The components of a path. -/
def components (path : String) : List (List Char) :=
  path.toList.splitOn separator

/-- A path names a resource when none of its components is empty. -/
def isValidPath (path : String) : Bool :=
  (components path).all (!·.isEmpty)

/-- The identity with a path.  A resource inside another may have any name, but the
path always begins with the name of a resource that can stand by itself, so its
first component is not empty. -/
def ofPath? (path : String) : Option ResourceId :=
  match components path with
  | [] :: _ => none
  | _ => some ⟨path⟩

/-- The identity of a resource inside this one. -/
def child (id : ResourceId) (name : String) : ResourceId :=
  ⟨id.path ++ String.singleton separator ++ name⟩

/-- An uppercase hexadecimal digit. -/
def hexDigit (n : Nat) : Char :=
  "0123456789ABCDEF".toList.getD n '0'

/-- Two hexadecimal digits of a byte. -/
def hexByte (b : UInt8) : List Char :=
  [hexDigit (b.toNat / 16), hexDigit (b.toNat % 16)]

/-- The ASCII letters and digits of the path, in order. -/
def readable (id : ResourceId) : List Char :=
  id.path.toList.filter Char.isAlphanum

/-- The first eight hexadecimal digits of the path's digest. -/
def digestDigits (id : ResourceId) : List Char :=
  ((Sha256.digest (Text.bytes id.path)).flatMap hexByte).take 8

/-- The identifier of the resource outside its deployment. -/
def uniqueId (id : ResourceId) : String :=
  String.ofList (id.readable ++ id.digestDigits)

end ResourceId

end Provisioning
