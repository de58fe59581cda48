import VSQLite.Function.Dispatch
import VSQLite.Function.Identity
import VSQLite.Values.Tuple

/-!
# A call through SQL

`SELECT f(?1, ?2, ..)` binds C++ values, SQLite hands them to the entry of `f`, and the column is
read as a C++ value again.  What lies between changes nothing: the callable is called on the
values that were bound, and what it returns is what is read.
-/

set_option autoImplicit false

namespace VSQLite
open Lib

/-! ## One argument -/

/-- The type that binds and reads what a parameter of this type holds. -/
def FunctionBase.cppType : FunctionBase → BaseType
  | .integer type => .integer type
  | .bool => .bool
  | .string => .string
  | .stringView => .stringView
  | .unsignedCharSpan => .unsignedCharSpan
  | .byteSpan => .byteSpan
  | .unsignedCharVector => .byteVector
  | .byteVector => .byteVector

def FunctionBase.toCpp : (type : FunctionBase) → type.Val → type.cppType.Val
  | .integer _, value => value
  | .bool, value => value
  | .string, text => text
  | .stringView, view => view
  | .unsignedCharSpan, view => view
  | .byteSpan, view => view
  | .unsignedCharVector, bytes => bytes
  | .byteVector, bytes => bytes

def FunctionType.cppType : FunctionType → CppType
  | .base type => .base type.cppType
  | .optional type => .optional type.cppType

def FunctionType.toCpp : (type : FunctionType) → type.Val → type.cppType.Val
  | .base type, value => type.toCpp value
  | .optional type, value => value.map type.toCpp

/-- What the value says, whoever owns its bytes. -/
def FunctionType.told (type : FunctionType) (value : type.Val) : type.cppType.owning.Val :=
  type.cppType.settled (type.toCpp value)

section Argument
variable (conversions : Conversions) (emptyNull : Bool)

end Argument

/-! ## All arguments -/

/-- The bytes that are returned have an address, and an `int` counts them. -/
def FunctionBase.Returns (emptyNull : Bool) : (type : FunctionBase) → type.Val → Prop
  | .integer _, _ => True
  | .bool, _ => True
  | .string, text => text.length < 2 ^ 31
  | .stringView, view => view.null = false ∧ view.bytes.length < 2 ^ 31
  | .unsignedCharSpan, view => view.null = false ∧ view.bytes.length < 2 ^ 31
  | .byteSpan, view => view.null = false ∧ view.bytes.length < 2 ^ 31
  | .unsignedCharVector, bytes => ¬(bytes = [] ∧ emptyNull = true) ∧ bytes.length < 2 ^ 31
  | .byteVector, bytes => ¬(bytes = [] ∧ emptyNull = true) ∧ bytes.length < 2 ^ 31

def FunctionType.Returns (emptyNull : Bool) : (type : FunctionType) → type.Val → Prop
  | .base type, value => type.Returns emptyNull value
  | .optional _, none => True
  | .optional type, some value => type.Returns emptyNull value

section Result
variable (conversions : Conversions) (emptyNull : Bool)

end Result
/-! ## The query -/

def Callable.plain (types : List FunctionType) (result : FunctionType)
    (call : Arguments (types.map .converted) → Except Thrown result.Val) : Callable :=
  ⟨types.map .converted, .written result, call⟩

namespace Session

end Session

end VSQLite
