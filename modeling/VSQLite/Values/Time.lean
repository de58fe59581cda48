import VSQLite.Values.Bind
import VSQLite.Values.Get

/-!
# Time in microseconds

Durations and time points are stored in microseconds.  `std::chrono::duration_cast` multiplies
in 64 bits and does not look whether the product fits.
-/

set_option autoImplicit false

namespace VSQLite
open Lib

def nanoseconds : Ratio := ⟨1, 1000000000, Nat.one_pos, by decide⟩
def milliseconds : Ratio := ⟨1, 1000, Nat.one_pos, by decide⟩
def seconds : Ratio := ⟨1, 1, Nat.one_pos, Nat.one_pos⟩
def minutes : Ratio := ⟨60, 1, by decide, Nat.one_pos⟩
def hours : Ratio := ⟨3600, 1, by decide, Nat.one_pos⟩

inductive TimeKind where
  | duration
  | timePoint
deriving DecidableEq, Repr

def TimeKind.type (period : Ratio) : TimeKind → BaseType
  | .duration => .duration ⟨.int64, IntType.int64_bits⟩ period
  | .timePoint => .timePoint ⟨.int64, IntType.int64_bits⟩ period

def TimeKind.ofTicks (period : Ratio) (count : IntType.int64.Val) :
    (kind : TimeKind) → (kind.type period).Val
  | .duration => count
  | .timePoint => count

/-- The value in microseconds, rounded toward zero. -/
def exactMicros (period : Ratio) (count : Int) : Int :=
  (count * (period.num * 1000000 : Nat)).tdiv period.den

/-- The microseconds in ticks of the period, rounded toward zero. -/
def exactTicks (period : Ratio) (micros : Int) : Int :=
  (micros * period.den).tdiv (period.num * 1000000 : Nat)

section Conversion
variable (emptyNull : Bool) (conversions : Conversions) (kind : TimeKind) (period : Ratio)

def BindsExactly (count : IntType.int64.Val) : Prop :=
  (kind.type period).bindValue emptyNull (kind.ofTicks period count) =
    some (.integer (exactMicros period count.val))

def ReadsExactly (micros : Int) : Prop :=
  ∃ fits, (kind.type period).get conversions (.integer micros) =
    some (kind.ofTicks period ⟨exactTicks period micros, fits⟩)

end Conversion

/-! ## When the product fits -/

theorem tdiv_toward_zero (unit : Nat) (count : Int) :
    (0 ≤ count.tdiv unit ∧ count.tdiv unit ≤ count) ∨
      (count ≤ count.tdiv unit ∧ count.tdiv unit ≤ 0) := by
  rcases Int.le_total 0 count with positive | negative
  · exact Or.inl ⟨Int.tdiv_nonneg positive (Int.natCast_nonneg unit),
      Int.tdiv_le_self _ positive⟩
  · have low : 0 ≤ (-count).tdiv unit :=
      Int.tdiv_nonneg (by omega) (Int.natCast_nonneg unit)
    have high : (-count).tdiv unit ≤ -count := Int.tdiv_le_self _ (by omega)
    rw [Int.neg_tdiv] at low high
    right
    omega

theorem tdiv_divide (first second : Ratio) (count : Int) :
    (count * (first.divide second).num).tdiv (first.divide second).den =
      (count * (first.num * second.den : Nat)).tdiv (first.den * second.num : Nat) := by
  let divisor := Nat.gcd (first.num * second.den) (first.den * second.num)
  have positive : 0 < divisor :=
    Nat.gcd_pos_of_pos_left _ (Nat.mul_pos first.num_pos second.den_pos)
  have num : (first.num * second.den : Nat) = (first.divide second).num * divisor :=
    (Nat.div_mul_cancel (Nat.gcd_dvd_left _ _)).symm
  have den : (first.den * second.num : Nat) = (first.divide second).den * divisor :=
    (Nat.div_mul_cancel (Nat.gcd_dvd_right _ _)).symm
  rw [num, den]
  push_cast
  rw [← Int.mul_assoc, Int.mul_tdiv_mul_of_pos_left _ _ (by omega)]

/-- A cast between counts of 64 bits has a result, and that the exact one, as long as its product
fits; otherwise C++ does not say what happens. -/
theorem durationCast_int64 (factor : Ratio) (count : Int) (wide : IntType.int64.InRange count) :
    (∀ product : IntType.int64.InRange (count * factor.num),
      durationCast .int64 .int64 factor count =
        some ⟨(count * factor.num).tdiv factor.den,
          inRange_toward_zero _ _ _ product (tdiv_toward_zero _ _)⟩) ∧
    (¬IntType.int64.InRange (count * factor.num) →
      durationCast .int64 .int64 factor count = none) := by
  have common : IntType.common .int64 .int64 = .int64 := rfl
  constructor
  · intro product
    rw [durationCast_eq .int64 .int64 factor count wide product]
    exact congrArg some (IntType.convert_eq .int64
      ⟨_, inRange_toward_zero _ _ _ product (tdiv_toward_zero _ _)⟩)
  · intro product
    unfold durationCast
    simp only [common, IntType.cast_eq_self _ count wide]
    have signed : IntType.int64.signed = true := rfl
    rw [IntType.mul, if_pos signed, if_neg product, Option.map_none]

section Conversion
variable (emptyNull : Bool) (conversions : Conversions) (kind : TimeKind) (period : Ratio)

theorem exactMicros_eq (count : Int) :
    (count * (period.divide Ratio.micro).num).tdiv (period.divide Ratio.micro).den =
      exactMicros period count := by
  rw [tdiv_divide]
  simp [exactMicros, Ratio.micro]

theorem exactTicks_eq (micros : Int) :
    (micros * (Ratio.micro.divide period).num).tdiv (Ratio.micro.divide period).den =
      exactTicks period micros := by
  rw [tdiv_divide]
  simp [exactTicks, Ratio.micro, Int.mul_comm]

theorem bindsExactly_iff (count : IntType.int64.Val) :
    BindsExactly emptyNull kind period count ↔
      IntType.int64.InRange (count.val * (period.divide Ratio.micro).num) := by
  have bound : BindsExactly emptyNull kind period count ↔
      (durationCast .int64 .int64 (period.divide Ratio.micro) count.val).bind
        (fun micros => bindInt64 micros.val) =
        some (.integer (exactMicros period count.val)) := by
    cases kind <;> rfl
  rw [bound]
  obtain ⟨fitting, overflowing⟩ :=
    durationCast_int64 (period.divide Ratio.micro) count.val count.property
  constructor
  · intro stored
    by_contra product
    rw [overflowing product] at stored
    cases stored
  · intro product
    have toward := tdiv_toward_zero (period.divide Ratio.micro).den
      (count.val * (period.divide Ratio.micro).num)
    have fits := inRange_toward_zero _ _ _ product toward
    rw [fitting product, Option.bind_some, bindInt64, IntType.cast_eq_self _ _ fits,
      exactMicros_eq]

theorem readsExactly_iff (micros : IntType.int64.Val) :
    ReadsExactly conversions kind period micros.val ↔
      IntType.int64.InRange (micros.val * (Ratio.micro.divide period).num) := by
  have read : ReadsExactly conversions kind period micros.val ↔
      ∃ fits, durationCast .int64 .int64 (Ratio.micro.divide period) micros.val =
        some ⟨exactTicks period micros.val, fits⟩ := by
    cases kind <;> rfl
  rw [read]
  obtain ⟨fitting, overflowing⟩ :=
    durationCast_int64 (Ratio.micro.divide period) micros.val micros.property
  constructor
  · rintro ⟨fits, yielded⟩
    by_contra product
    rw [overflowing product] at yielded
    cases yielded
  · intro product
    have toward := tdiv_toward_zero (Ratio.micro.divide period).den
      (micros.val * (Ratio.micro.divide period).num)
    have fits := inRange_toward_zero _ _ _ product toward
    rw [exactTicks_eq] at fits
    refine ⟨fits, ?_⟩
    rw [fitting product]
    exact congrArg some (Subtype.ext (exactTicks_eq period micros.val))

/-- In either direction the conversion is exact, up to rounding toward zero, exactly when the
number of ticks times the numerator of the factor fits 64 bits. -/
theorem time_converted_exactly_iff (count : IntType.int64.Val) :
    (BindsExactly emptyNull kind period count ↔
      IntType.int64.InRange (count.val * (period.divide Ratio.micro).num)) ∧
    (ReadsExactly conversions kind period count.val ↔
      IntType.int64.InRange (count.val * (Ratio.micro.divide period).num)) :=
  ⟨bindsExactly_iff emptyNull kind period count, readsExactly_iff conversions kind period count⟩

end Conversion

/-- The numerators for the periods of the standard library, to microseconds and back. -/
theorem period_numerators :
    [nanoseconds, Ratio.micro, milliseconds, seconds, minutes, hours].map (fun period =>
      ((period.divide Ratio.micro).num, (Ratio.micro.divide period).num)) =
    [(1, 1000), (1, 1), (1000, 1), (1000000, 1), (60000000, 1), (3600000000, 1)] := by
  decide

/-- `seconds::max()` is not stored, and the year 2300 is not read as nanoseconds. -/
theorem seconds_max_overflows :
    ¬BindsExactly false .duration seconds ⟨9223372036854775807, by decide⟩ ∧
      (TimeKind.duration.type seconds).bindValue false
        (TimeKind.duration.ofTicks seconds ⟨9223372036854775807, by decide⟩) = none ∧
      (TimeKind.timePoint.type nanoseconds).get ⟨fun _ => 0, fun _ => []⟩
        (.integer 10413792000000000) = none := by
  have nothing : (TimeKind.duration.type seconds).bindValue false
      (TimeKind.duration.ofTicks seconds ⟨9223372036854775807, by decide⟩) = none := by decide
  refine ⟨fun stored => ?_, nothing, by decide⟩
  rw [BindsExactly, nothing] at stored
  cases stored

end VSQLite
