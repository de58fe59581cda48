import Mathlib.Tactic.NormNum
import VSQLite.Lib.FixedWidth

/-!
# Durations

A duration is a number of ticks of a period, which is a ratio of seconds.  A cast to
another period multiplies and divides by the ratio of the two, in an integer type that is
at least 64 bits wide, and drops what is left over.
-/

set_option autoImplicit false

namespace VSQLite.Lib

structure Ratio where
  num : Nat
  den : Nat
  num_pos : 0 < num
  den_pos : 0 < den
deriving DecidableEq

namespace Ratio

def micro : Ratio := ⟨1, 1000000, by decide, by decide⟩

/-- The quotient in lowest terms. -/
def divide (first second : Ratio) : Ratio where
  num := first.num * second.den / Nat.gcd (first.num * second.den) (first.den * second.num)
  den := first.den * second.num / Nat.gcd (first.num * second.den) (first.den * second.num)
  num_pos := Nat.div_pos (Nat.gcd_le_left _ (Nat.mul_pos first.num_pos second.den_pos))
    (Nat.gcd_pos_of_pos_left _ (Nat.mul_pos first.num_pos second.den_pos))
  den_pos := Nat.div_pos (Nat.gcd_le_right _ (Nat.mul_pos first.den_pos second.num_pos))
    (Nat.gcd_pos_of_pos_left _ (Nat.mul_pos first.num_pos second.den_pos))

theorem divide_num (first second : Ratio) :
    (second.divide first).num = (first.divide second).den := by
  simp only [divide]
  rw [Nat.gcd_comm, Nat.mul_comm second.num, Nat.mul_comm second.den]

theorem divide_den (first second : Ratio) :
    (second.divide first).den = (first.divide second).num :=
  (divide_num second first).symm

end Ratio

namespace IntType

/-- The common type of the two and `intmax_t`. -/
def common (first second : IntType) : IntType :=
  if (first.signed = false ∧ 64 ≤ first.bits) ∨ (second.signed = false ∧ 64 ≤ second.bits) then
    uint64
  else int64

/-- A product in the type; there is none where a signed type overflows. -/
def mul (type : IntType) (first second : Int) : Option Int :=
  if type.signed then
    if type.InRange (first * second) then some (first * second) else none
  else some (type.cast (first * second))

theorem mul_eq (type : IntType) (first second : Int) (fits : type.InRange (first * second)) :
    type.mul first second = some (first * second) := by
  unfold mul
  rw [if_pos fits, cast_eq_self type _ fits]
  exact ite_self _

theorem common_comm (first second : IntType) : common first second = common second first := by
  unfold common
  by_cases one : (first.signed = false ∧ 64 ≤ first.bits) ∨
      (second.signed = false ∧ 64 ≤ second.bits)
  · rw [if_pos one, if_pos one.symm]
  · rw [if_neg one, if_neg fun other => one other.symm]

theorem inRange_int64 (value : Int) :
    int64.InRange value ↔ -9223372036854775808 ≤ value ∧ value ≤ 9223372036854775807 := by
  simp only [InRange, int64, if_true]
  norm_num
  omega

theorem inRange_uint64 (value : Int) :
    uint64.InRange value ↔ 0 ≤ value ∧ value ≤ 18446744073709551615 := by
  simp only [InRange, uint64, Bool.false_eq_true, if_false]
  norm_num
  omega

theorem nonneg_of_inRange (type : IntType) (value : Int) (unsigned : type.signed = false)
    (fits : type.InRange value) : 0 ≤ value := by
  simp only [InRange, unsigned, Bool.false_eq_true, if_false] at fits
  exact fits.1

theorem common_inRange (type : IntType) (value : Int) (fits : int64.InRange value)
    (sign : type.signed = false → 0 ≤ value) : (common type int64).InRange value := by
  unfold common
  split
  · rename_i unsigned
    rcases unsigned with ⟨unsigned, _⟩ | ⟨impossible, _⟩
    · rw [inRange_int64] at fits
      rw [inRange_uint64]
      have := sign unsigned
      omega
    · cases impossible
  · exact fits

theorem common_inRange_self (type : IntType) (value : Int) (narrow : type.bits ≤ 64)
    (fits : type.InRange value) : (common type int64).InRange value := by
  unfold common
  by_cases unsigned : type.signed = false
  · have bound : value < 2 ^ type.bits := by
      simp only [InRange, unsigned, Bool.false_eq_true, if_false] at fits
      exact fits.2
    have positive := nonneg_of_inRange type value unsigned fits
    by_cases wide : 64 ≤ type.bits
    · rw [if_pos (Or.inl ⟨unsigned, wide⟩), inRange_uint64]
      have same : type.bits = 64 := by omega
      rw [same] at bound
      omega
    · rw [if_neg (by rintro (⟨_, big⟩ | ⟨impossible, _⟩) <;> [exact wide big; cases impossible]),
        inRange_int64]
      have smaller : (2 : Int) ^ type.bits ≤ 2 ^ 63 := by
        exact_mod_cast Nat.pow_le_pow_right (by decide) (by omega)
      omega
  · have signed : type.signed = true := by simpa using unsigned
    rw [if_neg (by rintro (⟨impossible, _⟩ | ⟨impossible, _⟩) <;> simp_all [int64]), inRange_int64]
    simp only [InRange, signed, if_true] at fits
    have smaller : (2 : Int) ^ type.bits ≤ 2 ^ 64 := by
      exact_mod_cast Nat.pow_le_pow_right (by decide) narrow
    omega

end IntType

/-- The ticks of the target, of which `factor` make one of the source. -/
def durationCast (source target : IntType) (factor : Ratio) (count : Int) :
    Option target.Val :=
  let wide := IntType.common source target
  (wide.mul (wide.cast count) factor.num).map fun product =>
    target.convert (product.tdiv factor.den)

theorem durationCast_eq (source target : IntType) (factor : Ratio) (count : Int)
    (fits : (IntType.common source target).InRange count)
    (product : (IntType.common source target).InRange (count * factor.num)) :
    durationCast source target factor count =
      some (target.convert ((count * factor.num).tdiv factor.den)) := by
  unfold durationCast
  simp only
  rw [IntType.cast_eq_self _ count fits, IntType.mul_eq _ _ _ product, Option.map_some]

theorem inRange_toward_zero (type : IntType) (value cut : Int) (fits : type.InRange value)
    (toward : (0 ≤ cut ∧ cut ≤ value) ∨ (value ≤ cut ∧ cut ≤ 0)) : type.InRange cut := by
  unfold IntType.InRange at fits ⊢
  split at fits
  · rename_i signed
    rw [if_pos signed]
    omega
  · rename_i unsigned
    rw [if_neg unsigned]
    omega

theorem tdiv_mul_toward_zero (unit : Nat) (count : Int) :
    (0 ≤ count.tdiv unit * unit ∧ count.tdiv unit * unit ≤ count) ∨
      (count ≤ count.tdiv unit * unit ∧ count.tdiv unit * unit ≤ 0) := by
  have natural : ∀ positive : Int, 0 ≤ positive →
      0 ≤ positive.tdiv unit * unit ∧ positive.tdiv unit * unit ≤ positive := by
    intro positive nonneg
    have parts := Int.mul_tdiv_add_tmod positive unit
    have rest := Int.tmod_nonneg (unit : Int) nonneg
    have low := Int.mul_nonneg (Int.tdiv_nonneg nonneg (Int.natCast_nonneg unit))
      (Int.natCast_nonneg unit)
    rw [Int.mul_comm] at parts
    exact ⟨low, by omega⟩
  rcases Int.le_total 0 count with positive | negative
  · exact Or.inl (natural count positive)
  · have opposite := natural (-count) (by omega)
    rw [Int.neg_tdiv, Int.neg_mul] at opposite
    right
    omega

section Microseconds
variable (rep : IntType) (narrow : rep.bits ≤ 64) (factor : Ratio) (count : rep.Val)

def microseconds : Int := (count.val * factor.num).tdiv factor.den

/-- The microseconds fit 64 bits, and so does the product they are computed from. -/
structure Countable : Prop where
  product : (IntType.common rep .int64).InRange (count.val * factor.num)
  micros : IntType.int64.InRange (microseconds rep factor count)

theorem microseconds_sign (unsigned : rep.signed = false) : 0 ≤ microseconds rep factor count := by
  have positive := IntType.nonneg_of_inRange rep count.val unsigned count.property
  exact Int.tdiv_nonneg (Int.mul_nonneg positive (Int.natCast_nonneg _)) (Int.natCast_nonneg _)

theorem ticks_toward_zero :
    let ticks := (microseconds rep factor count * factor.den).tdiv factor.num
    (0 ≤ ticks ∧ ticks ≤ count.val) ∨ (count.val ≤ ticks ∧ ticks ≤ 0) := by
  have positive : 0 < (factor.num : Int) := Int.natCast_pos.mpr factor.num_pos
  have zero : (0 : Int).tdiv factor.num = 0 := Int.zero_tdiv _
  have whole : (count.val * factor.num).tdiv factor.num = count.val :=
    Int.mul_tdiv_cancel _ (Int.ne_of_gt positive)
  rcases tdiv_mul_toward_zero factor.den (count.val * factor.num) with
    ⟨nonneg, below⟩ | ⟨above, nonpos⟩
  · exact Or.inl ⟨zero ▸ Int.tdiv_le_tdiv positive nonneg, whole ▸ Int.tdiv_le_tdiv positive below⟩
  · exact Or.inr ⟨whole ▸ Int.tdiv_le_tdiv positive above, zero ▸ Int.tdiv_le_tdiv positive nonpos⟩

/-- The value cut toward zero to microseconds, and these to ticks. -/
def truncate : rep.Val :=
  ⟨(microseconds rep factor count * factor.den).tdiv factor.num,
    inRange_toward_zero rep count.val _ count.property (ticks_toward_zero rep factor count)⟩

/-- Nothing is cut off a whole number of microseconds. -/
theorem truncate_of_dvd (whole : (factor.den : Int) ∣ count.val) :
    truncate rep factor count = count := by
  have positive : (factor.num : Int) ≠ 0 := Int.natCast_ne_zero.mpr (Nat.ne_of_gt factor.num_pos)
  have ticks : microseconds rep factor count * factor.den = count.val * factor.num :=
    Int.tdiv_mul_cancel (Dvd.dvd.mul_right whole _)
  apply Subtype.ext
  change (microseconds rep factor count * factor.den).tdiv factor.num = count.val
  rw [ticks, Int.mul_tdiv_cancel _ positive]

include narrow in
theorem durationCast_microseconds (countable : Countable rep factor count) :
    durationCast rep .int64 factor count.val =
      some ⟨microseconds rep factor count, countable.micros⟩ := by
  have wide := IntType.common_inRange_self rep count.val narrow count.property
  rw [durationCast_eq rep .int64 factor count.val wide countable.product]
  exact congrArg some (IntType.int64.convert_eq ⟨_, countable.micros⟩)

/-- The way back loses what is not a whole number of microseconds. -/
theorem durationCast_back (back : Ratio) (countable : Countable rep factor count)
    (num : back.num = factor.den) (den : back.den = factor.num) :
    durationCast .int64 rep back (microseconds rep factor count) =
      some (truncate rep factor count) := by
  have wide : (IntType.common .int64 rep).InRange (microseconds rep factor count) := by
    rw [IntType.common_comm]
    exact IntType.common_inRange rep _ countable.micros (microseconds_sign rep factor count)
  have product : (IntType.common .int64 rep).InRange
      (microseconds rep factor count * back.num) := by
    rw [IntType.common_comm, num]
    exact inRange_toward_zero _ _ _ countable.product
      (tdiv_mul_toward_zero factor.den (count.val * factor.num))
  rw [durationCast_eq .int64 rep back _ wide product, num, den]
  exact congrArg some (IntType.convert_eq rep (truncate rep factor count))

end Microseconds
end VSQLite.Lib
