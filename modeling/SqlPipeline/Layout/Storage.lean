/-
How the values of a column are stored.

* `Layout.Storage` — the storage types, with their widths in bytes and their names in the
  generated program;
* `Layout.Storage.integer?`, `Layout.Storage.floating?` — the type of a given width.
-/

set_option autoImplicit false

namespace SqlPipeline.Layout

/-- How the values of a column are stored. -/
inductive Storage where
  | int32
  | uint32
  | int64
  | uint64
  | float
  | double
  deriving DecidableEq, Repr, Inhabited

namespace Storage

/-- The name of the type in the generated program. -/
def name : Storage → String
  | int32 => "int32_t"
  | uint32 => "uint32_t"
  | int64 => "int64_t"
  | uint64 => "uint64_t"
  | float => "float"
  | double => "double"

/-- The number of bytes a value takes. -/
def width : Storage → Nat
  | int32 => 4
  | uint32 => 4
  | int64 => 8
  | uint64 => 8
  | float => 4
  | double => 8

def isFloat : Storage → Bool
  | float => true
  | double => true
  | _ => false

def isSigned : Storage → Bool
  | uint32 => false
  | uint64 => false
  | _ => true

/-- The conversion that prints a value. -/
def conversion (t : Storage) : String :=
  if t.isFloat then "%f" else "%d"

/-- The integer type of a width in bytes, if there is one. -/
def integer? (width : Nat) (signed : Bool) : Option Storage :=
  match width, signed with
  | 4, true => some int32
  | 4, false => some uint32
  | 8, true => some int64
  | 8, false => some uint64
  | _, _ => none

def floating? (width : Nat) : Option Storage :=
  match width with
  | 4 => some float
  | 8 => some double
  | _ => none

/-! ### Widths -/

@[simp] theorem floating?_width (t : Storage) : (floating? t.width).isSome = true := by
  cases t <;> rfl

end Storage

end SqlPipeline.Layout
