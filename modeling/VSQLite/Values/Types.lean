import VSQLite.Command.Keyword
import VSQLite.Lib.Duration

/-!
# The types a program exchanges with SQLite

The C++ types `bind_value` and `result::get` dispatch on, and their values, for a database with
UTF-8 encoding.  Floating-point types are left out.
-/

set_option autoImplicit false

namespace VSQLite
open Lib

/-- What a `std::string_view` or a `std::span` refers to; a null pointer has no bytes. -/
structure View where
  null : Bool
  bytes : List UInt8
  empty_of_null : null = true → bytes = []
deriving DecidableEq

namespace View

def ofString (text : Text) : View := ⟨false, text, fun impossible => by cases impossible⟩

/-- `data()` and `size()` of a vector; of an empty one `data()` may be the null pointer. -/
def ofVector (emptyNull : Bool) (bytes : List UInt8) : View where
  null := emptyNull && bytes.isEmpty
  bytes := bytes
  empty_of_null := by
    intro isNull
    exact List.isEmpty_iff.mp (Bool.and_eq_true_iff.mp isNull).2

end View

abbrev CppInt : Type := { type : IntType // type.bits ≤ 64 }

inductive BaseType where
  | integer (type : CppInt)
  | bool
  | enumeration (underlying : CppInt)
  | string
  | stringView
  | byteVector
  | unsignedCharSpan
  | byteSpan
  | duration (rep : CppInt) (period : Ratio)
  | timePoint (rep : CppInt) (period : Ratio)
deriving DecidableEq

/-- A duration or a time point is its number of ticks. -/
def BaseType.Val : BaseType → Type
  | .integer type => type.val.Val
  | .bool => Bool
  | .enumeration underlying => underlying.val.Val
  | .string => Text
  | .stringView => View
  | .byteVector => List UInt8
  | .unsignedCharSpan => View
  | .byteSpan => View
  | .duration rep _ => rep.val.Val
  | .timePoint rep _ => rep.val.Val

inductive CppType where
  | base (type : BaseType)
  | optional (type : BaseType)
deriving DecidableEq

def CppType.Val : CppType → Type
  | .base type => type.Val
  | .optional type => Option type.Val

/-- The type that owns what a view refers to. -/
def BaseType.owning : BaseType → BaseType
  | .stringView => .string
  | .unsignedCharSpan => .byteVector
  | .byteSpan => .byteVector
  | type => type

def CppType.owning : CppType → CppType
  | .base type => .base type.owning
  | .optional type => .optional type.owning

end VSQLite
