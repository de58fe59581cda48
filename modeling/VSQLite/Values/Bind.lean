import VSQLite.Values.Types

/-!
# Values on their way to SQLite

The overloads of `bind`, `bind_value` and `operator%`, up to the value that the SQLite
function they call takes.  There is none where C++ or SQLite does not say what happens.
-/

set_option autoImplicit false

namespace VSQLite
open Lib

/-- What SQLite takes from a pointer and a length: NULL from the null pointer, and as many
bytes as the length says.  A negative length of a text reads on to the first NUL byte.  The
encoding of the database is UTF-8; SQLite would make another text of the bytes for UTF-16. -/
def sqlite3BindText (view : View) (length : Int) : Option Value :=
  if view.null then some .null
  else if 0 ≤ length then some (.text (view.bytes.take length.toNat))
  else if (0 : UInt8) ∈ view.bytes then some (.text (cString view.bytes))
  else none

def sqlite3BindBlob (view : View) (length : Int) : Option Value :=
  if view.null then some .null
  else if 0 ≤ length then some (.blob (view.bytes.take length.toNat))
  else none

def textOrDummy (view : View) : View :=
  if view.bytes.isEmpty then View.ofString [] else view

def blobOrDummy (view : View) : View :=
  if view.bytes.isEmpty then View.ofString [] else view

/-- `static_cast<int>(view.size())`. -/
def sizeArgument (view : View) : Int := IntType.int32.cast view.bytes.length

def bindTextImpl (view : View) : Option Value :=
  sqlite3BindText (textOrDummy view) (sizeArgument view)

/-- `bind(int, std::span<const unsigned char>)`; the overload for `std::byte` calls it with the
same bytes. -/
def bindSpan (view : View) : Option Value :=
  sqlite3BindBlob (blobOrDummy view) (sizeArgument view)

theorem sizeArgument_eq (view : View) (short : view.bytes.length < 2 ^ 31) :
    sizeArgument view = view.bytes.length := by
  apply IntType.cast_eq_self
  simp only [IntType.InRange, IntType.int32, if_true]
  omega

theorem null_of_cons (view : View) (first : UInt8) (rest : List UInt8)
    (bytes : view.bytes = first :: rest) : view.null = false := by
  cases null : view.null with
  | false => rfl
  | true =>
      rw [view.empty_of_null null] at bytes
      cases bytes

theorem sqlite3BindText_whole (view : View) (pointed : view.null = false)
    (short : view.bytes.length < 2 ^ 31) :
    sqlite3BindText view (sizeArgument view) = some (.text view.bytes) := by
  have natural := Int.natCast_nonneg view.bytes.length
  have whole : view.bytes.take (view.bytes.length : Int).toNat = view.bytes := by simp
  rw [sizeArgument_eq view short, sqlite3BindText, pointed, if_neg Bool.false_ne_true,
    if_pos natural, whole]

theorem sqlite3BindBlob_whole (view : View) (short : view.bytes.length < 2 ^ 31) :
    sqlite3BindBlob view (sizeArgument view) =
      some (if view.null then .null else .blob view.bytes) := by
  have natural := Int.natCast_nonneg view.bytes.length
  have whole : view.bytes.take (view.bytes.length : Int).toNat = view.bytes := by simp
  rw [sizeArgument_eq view short, sqlite3BindBlob, if_pos natural, whole]
  split <;> rfl

theorem bindTextImpl_eq (view : View) (short : view.bytes.length < 2 ^ 31) :
    bindTextImpl view = some (.text view.bytes) := by
  cases bytes : view.bytes with
  | nil =>
      rw [bindTextImpl, sizeArgument_eq view short, textOrDummy, bytes]
      rfl
  | cons first rest =>
      have own : textOrDummy view = view := by simp [textOrDummy, bytes]
      rw [bindTextImpl, own, sqlite3BindText_whole view (null_of_cons view first rest bytes) short,
        bytes]

theorem bindSpan_eq (view : View) (short : view.bytes.length < 2 ^ 31) :
    bindSpan view = some (.blob view.bytes) := by
  cases bytes : view.bytes with
  | nil =>
      rw [bindSpan, sizeArgument_eq view short, blobOrDummy, bytes]
      rfl
  | cons first rest =>
      have own : blobOrDummy view = view := by simp [blobOrDummy, bytes]
      rw [bindSpan, own, sqlite3BindBlob_whole view short, bytes,
        null_of_cons view first rest bytes]
      rfl

def bindVector (emptyNull : Bool) (bytes : List UInt8) : Option Value :=
  bindSpan (View.ofVector emptyNull bytes)

def bindInt64 (value : Int) : Option Value := some (.integer (IntType.int64.cast value))

def bindInt (value : Int) : Option Value := some (.integer (IntType.int32.cast value))

def ofBool (value : Bool) : Int := if value then 1 else 0

/-- The microseconds of a duration. -/
def bindDuration (rep : CppInt) (period : Ratio) (count : rep.val.Val) : Option Value :=
  (durationCast rep.val IntType.int64 (period.divide Ratio.micro) count.val).bind fun micros =>
    bindInt64 micros.val

def BaseType.bindValue (emptyNull : Bool) : (type : BaseType) → type.Val → Option Value
  | .integer _, value => bindInt64 value.val
  | .bool, value => bindInt64 (ofBool value)
  | .enumeration _, value => bindInt64 value.val
  | .string, text => bindTextImpl (View.ofString text)
  | .stringView, view => bindTextImpl view
  | .byteVector, bytes => bindVector emptyNull bytes
  | .unsignedCharSpan, view => bindSpan view
  | .byteSpan, view => bindSpan view
  | .duration rep period, count => bindDuration rep period count
  | .timePoint rep period, count => bindDuration rep period count

def CppType.bindValue (emptyNull : Bool) : (type : CppType) → type.Val → Option Value
  | .base type, value => type.bindValue emptyNull value
  | .optional _, none => some .null
  | .optional type, some value => type.bindValue emptyNull value

/-- Overload resolution for an integer: what promotes to `int` is bound as one, `std::int64_t`
as itself, and for any other type the call is ambiguous. -/
def CppInt.promotes (type : CppInt) : Bool :=
  type.val.bits < 32 || type.val = IntType.int32

/-- The types of argument that `bind(int, ..)` and `operator%` compile for. -/
def CppType.bindable : CppType → Bool
  | .base (.integer type) => type.promotes || type.val = IntType.int64
  | _ => true

/-- `bind(int, ..)` and `operator%` on an argument of the type. -/
def CppType.bind (emptyNull : Bool) : (type : CppType) → type.Val → Option Value
  | .base (.integer type), value =>
      if type.promotes then bindInt value.val else bindInt64 value.val
  | .base .bool, value => bindInt (ofBool value)
  | .base .string, text => bindTextImpl (View.ofString text)
  | .base .stringView, view => bindTextImpl view
  | .base .byteVector, bytes => bindVector emptyNull bytes
  | .base .unsignedCharSpan, view => bindSpan view
  | .base .byteSpan, view => bindSpan view
  | type, value => type.bindValue emptyNull value

end VSQLite
