import Mathlib.Algebra.Group.Nat.Defs
import Mathlib.Algebra.Ring.Int.Defs
import Mathlib.Data.Int.Order.Basic

/-!
# Fixed-width integer types

An integer type is a width and a sign.  Converting to it keeps the value modulo two to the
width, so that a value survives the way through any type that is at least as wide.
-/

set_option autoImplicit false

namespace VSQLite.Lib

structure IntType where
  signed : Bool
  bits : Nat
deriving DecidableEq, Repr

namespace IntType

def int32 : IntType := ⟨true, 32⟩
def int64 : IntType := ⟨true, 64⟩
def uint64 : IntType := ⟨false, 64⟩

theorem int64_bits : int64.bits ≤ 64 := Nat.le_refl 64

def InRange (type : IntType) (value : Int) : Prop :=
  if type.signed then -2 ^ type.bits ≤ value * 2 ∧ value * 2 < 2 ^ type.bits
  else 0 ≤ value ∧ value < 2 ^ type.bits

instance (type : IntType) (value : Int) : Decidable (type.InRange value) := by
  unfold InRange
  infer_instance

/-- Conversion to the type. -/
def cast (type : IntType) (value : Int) : Int :=
  if type.signed then value.bmod (2 ^ type.bits) else value % 2 ^ type.bits

theorem cast_eq_self (type : IntType) (value : Int) (fits : type.InRange value) :
    type.cast value = value := by
  unfold InRange at fits
  unfold cast
  split at fits
  · rename_i signed
    rw [if_pos signed]
    apply Int.bmod_eq_of_le_mul_two
    · exact_mod_cast fits.1
    · exact_mod_cast fits.2
  · rename_i unsigned
    rw [if_neg unsigned]
    exact Int.emod_eq_of_lt fits.1 fits.2

theorem cast_inRange (type : IntType) (value : Int) : type.InRange (type.cast value) := by
  have positive : 0 < 2 ^ type.bits := Nat.two_pow_pos _
  have power : ((2 ^ type.bits : Nat) : Int) = 2 ^ type.bits := by push_cast; rfl
  unfold InRange cast
  split
  · have low := Int.le_bmod (x := value) positive
    have high := Int.bmod_lt (x := value) positive
    rw [← power]
    generalize 2 ^ type.bits = size at low high
    constructor
    · omega
    · omega
  · rw [← power]
    exact ⟨Int.emod_nonneg _ (by omega), Int.emod_lt_of_pos _ (by omega)⟩

theorem cast_eq_self_iff (type : IntType) (value : Int) :
    type.cast value = value ↔ type.InRange value := by
  constructor
  · intro same
    rw [← same]
    exact type.cast_inRange value
  · exact type.cast_eq_self value

/-- On its way to a type a value may go through any that is as wide. -/
theorem cast_cast (type wide : IntType) (value : Int) (narrower : type.bits ≤ wide.bits) :
    type.cast (wide.cast value) = type.cast value := by
  have divides : (2 ^ type.bits : Nat) ∣ 2 ^ wide.bits := Nat.pow_dvd_pow 2 narrower
  have power : ((2 ^ type.bits : Nat) : Int) ∣ 2 ^ wide.bits := by exact_mod_cast divides
  unfold cast
  cases wide.signed with
  | true =>
      cases type.signed with
      | true => exact Int.bmod_bmod_of_dvd divides
      | false =>
          have wideResidue : value.bmod (2 ^ wide.bits) % ((2 ^ wide.bits : Nat) : Int) =
              value % ((2 ^ wide.bits : Nat) : Int) := Int.bmod_emod
          simp only [if_true, Bool.false_eq_true, if_false]
          push_cast at wideResidue power ⊢
          rw [← Int.emod_emod_of_dvd _ power, wideResidue, Int.emod_emod_of_dvd _ power]
  | false =>
      cases type.signed with
      | true =>
          simp only [if_true, Bool.false_eq_true, if_false]
          rw [← Int.emod_bmod, ← Int.emod_bmod value, Int.emod_emod_of_dvd value power]
      | false => exact Int.emod_emod_of_dvd value (by exact_mod_cast divides)

/-- The values of the type. -/
abbrev Val (type : IntType) : Type := { value : Int // type.InRange value }

/-- The value of the type that a conversion makes. -/
def convert (type : IntType) (value : Int) : type.Val :=
  ⟨type.cast value, type.cast_inRange value⟩

theorem convert_eq (type : IntType) (value : type.Val) : type.convert value.val = value :=
  Subtype.ext (type.cast_eq_self value.val value.property)

end IntType
end VSQLite.Lib
