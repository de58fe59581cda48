import VSQLite.Function.Model

/-!
# Reading integers

The routes on which a stored integer reaches a program: `result::get` for integral types,
enumerations and `bool`, `result::get_variant`, and the arguments of a function called from SQL.
-/

set_option autoImplicit false

namespace VSQLite
open Lib

/-- `variant_t`; a `long double` made of a `double` is given by its bits. -/
inductive Variant where
  | null
  | int (value : Int)
  | int64 (value : Int)
  | real (bits : UInt64)
  | text (bytes : Text)
  | blob (bytes : List UInt8)
deriving DecidableEq, Repr

/-- What a read comes to. -/
inductive ReadValue where
  | number (value : Int)
  | truth (value : Bool)
  | variant (value : Variant)
deriving DecidableEq, Repr

section Reads
variable (conversions : Conversions)

def getVariant (value : Value) : Variant :=
  match value with
  | .integer _ =>
      let i := getInt64 conversions value
      if 2147483647 < i ∨ i < -2147483648 then .int64 i else .int (IntType.int32.cast i)
  | .blob _ => .blob (getBinary conversions value)
  | .real bits => .real bits
  | .null => .null
  | .text _ => .text (getString conversions value)

/-- `result::get` for an integral type of any width, or for an enumeration with that type. -/
def getIntegral (type : IntType) (value : Value) : Int := type.cast (getInt64 conversions value)

def getBool (value : Value) : Bool := getInt conversions value ≠ 0

def convertIntegral (type : IntType) (value : Value) : Except Thrown Int :=
  if value = .null then .error nullArgumentError
  else .ok (type.cast (sqlite3ColumnInt64 conversions value))

def convertBool (value : Value) : Except Thrown Bool :=
  if value = .null then .error nullArgumentError
  else .ok (sqlite3ColumnInt conversions value ≠ 0 : Bool)

theorem get_integer (type : CppInt) (value : Value) :
    ((BaseType.integer type).get conversions value).map Subtype.val =
      some (getIntegral conversions type.val value) := rfl

theorem get_enumeration (underlying : CppInt) (value : Value) :
    ((BaseType.enumeration underlying).get conversions value).map Subtype.val =
      some (getIntegral conversions underlying.val value) := rfl

theorem get_bool (value : Value) :
    BaseType.bool.get conversions value = some (getBool conversions value) := rfl

theorem convert_integer (type : CppInt) (value : Value) :
    ((FunctionBase.integer type).convert conversions value).map Subtype.val =
      convertIntegral conversions type.val value := by
  simp only [FunctionBase.convert, convertIntegral]
  split <;> rfl

theorem convert_bool (value : Value) :
    FunctionBase.bool.convert conversions value = convertBool conversions value := rfl

end Reads

/-- A route and the type at its end. -/
inductive IntegerRead where
  | get (type : IntType)
  | getEnum (underlying : IntType)
  | getBool
  | getVariant
  | argument (type : IntType)
  | argumentBool
deriving DecidableEq, Repr

namespace IntegerRead

def run (conversions : Conversions) (value : Value) : IntegerRead → Except Thrown ReadValue
  | .get type => .ok (.number (getIntegral conversions type value))
  | .getEnum underlying => .ok (.number (getIntegral conversions underlying value))
  | .getBool => .ok (.truth (VSQLite.getBool conversions value))
  | .getVariant => .ok (.variant (VSQLite.getVariant conversions value))
  | .argument type => (convertIntegral conversions type value).map .number
  | .argumentBool => (convertBool conversions value).map .truth

end IntegerRead

/-- What was read says the stored integer. -/
def ReadValue.Says (stored : Int) : ReadValue → Prop
  | .number value => value = stored
  | .truth value => value = true ↔ stored ≠ 0
  | .variant (.int value) => value = stored
  | .variant (.int64 value) => value = stored
  | .variant _ => False

namespace IntegerRead

/-- The read says the stored integer, or throws. -/
def Exact (conversions : Conversions) (stored : Int) (read : IntegerRead) : Prop :=
  ∀ value, read.run conversions (.integer stored) = .ok value → value.Says stored

/-- The integer is in the range of the type; for `bool` it is zero, or its lower half is not. -/
def Fits (stored : Int) : IntegerRead → Prop
  | .get type => type.InRange stored
  | .getEnum underlying => underlying.InRange stored
  | .getBool => stored = 0 ∨ ¬(2 ^ 32 : Int) ∣ stored
  | .getVariant => True
  | .argument type => type.InRange stored
  | .argumentBool => stored = 0 ∨ ¬(2 ^ 32 : Int) ∣ stored

end IntegerRead

theorem int32_cast_eq_zero_iff (value : Int) :
    IntType.int32.cast value = 0 ↔ (2 ^ 32 : Int) ∣ value := by
  simp only [IntType.cast, IntType.int32, if_true]
  exact (Int.dvd_iff_bmod_eq_zero).symm

theorem lower_half_says_iff (stored : Int) :
    (decide (IntType.int32.cast stored ≠ 0) = true ↔ stored ≠ 0) ↔
      (stored = 0 ∨ ¬(2 ^ 32 : Int) ∣ stored) := by
  rw [decide_eq_true_iff, ne_eq (IntType.int32.cast stored), int32_cast_eq_zero_iff]
  constructor
  · intro same
    by_cases zero : stored = 0
    · exact Or.inl zero
    · exact Or.inr (same.mpr zero)
  · rintro (rfl | uneven)
    · simp
    · refine ⟨fun _ zero => uneven ?_, fun _ => uneven⟩
      rw [zero]
      exact Int.dvd_zero _

theorem getVariant_says (conversions : Conversions) (stored : Int) :
    (ReadValue.variant (getVariant conversions (.integer stored))).Says stored := by
  have read : getInt64 conversions (.integer stored) = stored := rfl
  simp only [getVariant, read]
  split
  · rfl
  · rename_i narrow
    refine IntType.cast_eq_self _ _ ?_
    simp only [IntType.InRange, IntType.int32, if_true]
    omega

/-- A read yields the stored integer or throws exactly when the integer fits the type it is
read as; the variant always holds it. -/
theorem integer_read_exact_iff (conversions : Conversions) (read : IntegerRead) (stored : Int) :
    read.Exact conversions stored ↔ read.Fits stored := by
  have number : ∀ type : IntType,
      (∀ value, (Except.ok (ReadValue.number (type.cast stored)) : Except Thrown ReadValue) =
        .ok value → value.Says stored) ↔ type.InRange stored := by
    intro type
    rw [← IntType.cast_eq_self_iff]
    exact ⟨fun exact_ => exact_ _ rfl, fun same value read => by cases read; exact same⟩
  have truth : (∀ value, (Except.ok (ReadValue.truth (decide (IntType.int32.cast stored ≠ 0))) :
      Except Thrown ReadValue) = .ok value → value.Says stored) ↔
        (stored = 0 ∨ ¬(2 ^ 32 : Int) ∣ stored) := by
    rw [← lower_half_says_iff]
    exact ⟨fun exact_ => exact_ _ rfl, fun same value read => by cases read; exact same⟩
  cases read with
  | get type => exact number type
  | getEnum underlying => exact number underlying
  | getBool => exact truth
  | getVariant =>
      refine ⟨fun _ => trivial, fun _ value read => ?_⟩
      cases read
      exact getVariant_says conversions stored
  | argument type => exact number type
  | argumentBool => exact truth

/-- SQLite makes nothing of a value of another storage class. -/
def noConversions : Conversions := ⟨fun _ => 0, fun _ => []⟩

/-- 2^32 read as an `int` is 0, and read as a `bool` it is false; -1 read as a `std::uint64_t` is
the largest value of that type. -/
theorem wide_integer_read_as_zero :
    (IntegerRead.get .int32).run noConversions (.integer 4294967296) = .ok (.number 0) ∧
      IntegerRead.getBool.run noConversions (.integer 4294967296) = .ok (.truth false) ∧
      (IntegerRead.argument .uint64).run noConversions (.integer (-1)) =
        .ok (.number 18446744073709551615) ∧
      ¬(IntegerRead.get .int32).Exact noConversions 4294967296 := by
  refine ⟨rfl, rfl, rfl, fun exact_ => ?_⟩
  have same : (0 : Int) = 4294967296 := exact_ _ rfl
  cases same

end VSQLite
