import VSQLite.Values.Types

/-!
# Values on their way back

`result::get` on the value of a column.  There is no result where C++ does not say what
happens.
-/

set_option autoImplicit false

namespace VSQLite
open Lib

/-- What SQLite makes of a value that is asked for as another storage class. -/
structure Conversions where
  toInt64 : Value → Int
  toText : Value → Text

section Columns
variable (conversions : Conversions)

def sqlite3ColumnInt64 : Value → Int
  | .integer value => value
  | value => conversions.toInt64 value

def sqlite3ColumnInt (value : Value) : Int :=
  IntType.int32.cast (sqlite3ColumnInt64 conversions value)

/-- The bytes as they were stored, the encoding of the database being UTF-8. -/
def sqlite3ColumnText : Value → Text
  | .text bytes => bytes
  | .blob bytes => bytes
  | value => conversions.toText value

/-- The null pointer for no bytes. -/
def sqlite3ColumnBlob (value : Value) : View :=
  View.ofVector true (sqlite3ColumnText conversions value)

def getInt64 (value : Value) : Int :=
  if value = .null then 0 else sqlite3ColumnInt64 conversions value

def getInt (value : Value) : Int :=
  if value = .null then 0 else sqlite3ColumnInt conversions value

def getStringView (value : Value) : View :=
  if value = .null then View.ofString (ascii "NULL")
  else View.ofString (sqlite3ColumnText conversions value)

def getString (value : Value) : Text := (getStringView conversions value).bytes

def getBinarySpan (value : Value) : View :=
  if value = .null then View.ofVector true [] else sqlite3ColumnBlob conversions value

def getBinary (value : Value) : List UInt8 := (getBinarySpan conversions value).bytes

def BaseType.get : (type : BaseType) → Value → Option type.Val
  | .integer type, value => some (type.val.convert (getInt64 conversions value))
  | .bool, value => some (getInt conversions value ≠ 0 : Bool)
  | .enumeration underlying, value => some (underlying.val.convert (getInt64 conversions value))
  | .string, value => some (getString conversions value)
  | .stringView, value => some (getStringView conversions value)
  | .byteVector, value => some (getBinary conversions value)
  | .unsignedCharSpan, value => some (getBinarySpan conversions value)
  | .byteSpan, value => some (getBinarySpan conversions value)
  | .duration rep period, value =>
      durationCast IntType.int64 rep.val (Ratio.micro.divide period) (getInt64 conversions value)
  | .timePoint rep period, value =>
      durationCast IntType.int64 rep.val (Ratio.micro.divide period) (getInt64 conversions value)

def CppType.get : (type : CppType) → Value → Option type.Val
  | .base type, value => type.get conversions value
  | .optional type, value =>
      if value = .null then some none else (type.get conversions value).map some

end Columns
end VSQLite
