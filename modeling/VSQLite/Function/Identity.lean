import VSQLite.Function.Model

/-!
# The identity as a function in SQL

A pointer that is null stands for NULL on the way out, and for no bytes on the way in.
-/

set_option autoImplicit false

namespace VSQLite
open Lib

/-- The value is of the storage class of the type, and in its range.  An integer of the
database has 64 bits. -/
def FunctionBase.Matches : FunctionBase → Value → Prop
  | .integer type, .integer value => IntType.int64.InRange value ∧ type.val.InRange value
  | .bool, .integer value => value = 0 ∨ value = 1
  | .string, .text _ => True
  | .stringView, .text _ => True
  | .unsignedCharSpan, .blob _ => True
  | .byteSpan, .blob _ => True
  | .unsignedCharVector, .blob _ => True
  | .byteVector, .blob _ => True
  | _, _ => False

def FunctionType.Matches : FunctionType → Value → Prop
  | .base type, value => type.Matches value
  | .optional type, value => value = .null ∨ type.Matches value

/-- What goes through a converter and the writer of the same type. -/
def FunctionType.through (conversions : Conversions) (emptyNull : Bool) (type : FunctionType)
    (value : Value) : Option FunctionResult :=
  functionEntry conversions emptyNull (some fun converted : type.Val => .ok converted) [value]

section Through
variable (conversions : Conversions) (emptyNull : Bool)

end Through

end VSQLite
