import VSQLite.Values.Bind
import VSQLite.Values.Get

/-!
# Functions called from SQL

`create_function` registers a callable whose arguments `argument_converter` makes of SQL
values, and whose result `result_writer` hands back, each by a specialisation for the type.
Floating-point types, and the types that only hold NULL, are left out.
-/

set_option autoImplicit false

namespace VSQLite
open Lib

inductive FunctionBase where
  | integer (type : CppInt)
  | bool
  | string
  | stringView
  | unsignedCharSpan
  | byteSpan
  | unsignedCharVector
  | byteVector
deriving DecidableEq

def FunctionBase.Val : FunctionBase → Type
  | .integer type => type.val.Val
  | .bool => Bool
  | .string => Text
  | .stringView => View
  | .unsignedCharSpan => View
  | .byteSpan => View
  | .unsignedCharVector => List UInt8
  | .byteVector => List UInt8

inductive FunctionType where
  | base (type : FunctionBase)
  | optional (type : FunctionBase)
deriving DecidableEq

def FunctionType.Val : FunctionType → Type
  | .base type => type.Val
  | .optional type => Option type.Val

/-- What a callable or a converter may throw: a `std::exception` with its `what()`, or
anything else. -/
inductive Thrown where
  | exception (what : Text)
  | other
deriving DecidableEq, Repr

def nullArgumentError : Thrown :=
  .exception
    (ascii "NULL passed to SQL function argument but callable parameter is not nullable.")

section Converters
variable (conversions : Conversions)

/-- `argument_converter<std::string_view>`; the pointer to the text of a value that is not
NULL is not null. -/
def convertText (value : Value) : Except Thrown View :=
  if value = .null then .error nullArgumentError
  else .ok (View.ofString (sqlite3ColumnText conversions value))

def convertSpan (value : Value) : Except Thrown View :=
  if value = .null then .error nullArgumentError
  else .ok (sqlite3ColumnBlob conversions value)

def FunctionBase.convert : (type : FunctionBase) → Value → Except Thrown type.Val
  | .integer type, value =>
      if value = .null then .error nullArgumentError
      else .ok (type.val.convert (sqlite3ColumnInt64 conversions value))
  | .bool, value =>
      if value = .null then .error nullArgumentError
      else .ok (sqlite3ColumnInt conversions value ≠ 0 : Bool)
  | .string, value => (convertText conversions value).map View.bytes
  | .stringView, value => convertText conversions value
  | .unsignedCharSpan, value => convertSpan conversions value
  | .byteSpan, value => convertSpan conversions value
  | .unsignedCharVector, value => (convertSpan conversions value).map View.bytes
  | .byteVector, value => (convertSpan conversions value).map View.bytes

def FunctionType.convert : (type : FunctionType) → Value → Except Thrown type.Val
  | .base type, value => type.convert conversions value
  | .optional type, value =>
      if value = .null then .ok none else (type.convert conversions value).map some

end Converters

section Writers
variable (emptyNull : Bool)

/-- `sqlite3_result_text` and `sqlite3_result_blob` take a pointer and a length as the bind
functions do. -/
def resultText (view : View) : Option Value := sqlite3BindText view (sizeArgument view)

def resultBlob (view : View) : Option Value := sqlite3BindBlob view (sizeArgument view)

/-- `result_writer`, up to the value SQLite takes as the result. -/
def FunctionBase.apply : (type : FunctionBase) → type.Val → Option Value
  | .integer _, value => some (.integer (IntType.int64.cast value.val))
  | .bool, value => some (.integer (ofBool value))
  | .string, text => resultText (View.ofString text)
  | .stringView, view => resultText view
  | .unsignedCharSpan, view => resultBlob view
  | .byteSpan, view => resultBlob view
  | .unsignedCharVector, bytes => resultBlob (View.ofVector emptyNull bytes)
  | .byteVector, bytes => resultBlob (View.ofVector emptyNull bytes)

def FunctionType.apply : (type : FunctionType) → type.Val → Option Value
  | .base type, value => type.apply emptyNull value
  | .optional _, none => some .null
  | .optional type, some value => type.apply emptyNull value

end Writers

/-- What a call from SQL comes to. -/
inductive FunctionResult where
  | value (value : Value)
  | error (message : Text)
deriving DecidableEq, Repr

def Thrown.message : Thrown → Text
  | .exception what => what
  | .other => ascii "Unhandled exception in SQL function."

/-- `function_entry` for a callable with one parameter.  There is no result where SQLite does
not say what it takes. -/
def functionEntry (conversions : Conversions) (emptyNull : Bool) {argument result : FunctionType}
    (holder : Option (argument.Val → Except Thrown result.Val)) (argv : List Value) :
    Option FunctionResult :=
  match holder, argv with
  | none, _ => some (.error (ascii "SQL function metadata missing."))
  | some callable, [value] =>
      match argument.convert conversions value with
      | .error thrown => some (.error thrown.message)
      | .ok converted =>
          match callable converted with
          | .error thrown => some (.error thrown.message)
          | .ok returned => (result.apply emptyNull returned).map .value
  | some _, _ => some (.error (ascii "Unexpected number of arguments for SQL function."))

end VSQLite
