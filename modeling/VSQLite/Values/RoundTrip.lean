import VSQLite.Command.Enumeration
import VSQLite.Values.Bind
import VSQLite.Values.Get

/-!
# Binding and reading back

`bind_value` and `result::get` dispatch on the type each for itself.  For every type they
agree on what is stored, up to the microseconds that time is counted in.
-/

set_option autoImplicit false

namespace VSQLite
open Lib

/-- The factor of a cast to microseconds. -/
def ticks (period : Ratio) : Ratio := period.divide Ratio.micro

/-- A duration is a whole number of microseconds. -/
def BaseType.Exact : (type : BaseType) → type.Val → Prop
  | .duration _ period, count => ((ticks period).den : Int) ∣ count.val
  | _, _ => True

def CppType.Exact : (type : CppType) → type.Val → Prop
  | .base type, value => type.Exact value
  | .optional _, none => True
  | .optional type, some value => type.Exact value

def BaseType.size : (type : BaseType) → type.Val → Nat
  | .string, text => text.length
  | .stringView, view => view.bytes.length
  | .byteVector, bytes => bytes.length
  | .unsignedCharSpan, view => view.bytes.length
  | .byteSpan, view => view.bytes.length
  | _, _ => 0

/-- Lengths that fit an `int`, times that can be counted in microseconds. -/
def BaseType.Fits : (type : BaseType) → type.Val → Prop
  | .duration rep period, count => Countable rep.val (ticks period) count
  | .timePoint rep period, count => Countable rep.val (ticks period) count
  | type, value => type.size value < 2 ^ 31

/-- The value of the owning type that says the same; of a time point what its microseconds keep. -/
def BaseType.settled : (type : BaseType) → type.Val → type.owning.Val
  | .integer _, value => value
  | .bool, value => value
  | .enumeration _, value => value
  | .string, text => text
  | .stringView, view => view.bytes
  | .byteVector, bytes => bytes
  | .unsignedCharSpan, view => view.bytes
  | .byteSpan, view => view.bytes
  | .duration _ _, count => count
  | .timePoint rep period, count => truncate rep.val (ticks period) count

def CppType.size : (type : CppType) → type.Val → Nat
  | .base type, value => type.size value
  | .optional _, none => 0
  | .optional type, some value => type.size value

def CppType.Fits : (type : CppType) → type.Val → Prop
  | .base type, value => type.Fits value
  | .optional _, none => True
  | .optional type, some value => type.Fits value

def CppType.settled : (type : CppType) → type.Val → type.owning.Val
  | .base type, value => type.settled value
  | .optional type, value => value.map type.settled

theorem Value.integer_ne_null (value : Int) : Value.integer value ≠ .null :=
  fun same => by cases same

theorem Value.text_ne_null (bytes : Text) : Value.text bytes ≠ .null := fun same => by cases same

theorem Value.blob_ne_null (bytes : List UInt8) : Value.blob bytes ≠ .null :=
  fun same => by cases same

section Stored
variable (conversions : Conversions) (emptyNull : Bool)

/-- What `bind_value` hands to SQLite is not NULL, as long as the value, and `get` makes the
value of it. -/
def Stored (type : BaseType) (value : type.Val) (stored : Value) : Prop :=
  type.bindValue emptyNull value = some stored ∧ stored ≠ .null ∧
    stored.size = type.size value ∧
    type.owning.get conversions stored = some (type.settled value)

theorem stored_integer (type : CppInt) (value : type.val.Val) :
    bindInt64 value.val = some (.integer (IntType.int64.cast value.val)) ∧
      type.val.convert (getInt64 conversions (.integer (IntType.int64.cast value.val))) =
        value := by
  refine ⟨rfl, Subtype.ext ?_⟩
  have through := IntType.cast_cast type.val .int64 value.val type.property
  exact through.trans (IntType.cast_eq_self type.val value.val value.property)

theorem stored_duration (rep : CppInt) (period : Ratio) (count : rep.val.Val)
    (countable : Countable rep.val (ticks period) count) :
    bindDuration rep period count =
        some (.integer (microseconds rep.val (ticks period) count)) ∧
      durationCast IntType.int64 rep.val (Ratio.micro.divide period)
        (microseconds rep.val (ticks period) count) =
          some (truncate rep.val (ticks period) count) := by
  have there := durationCast_microseconds rep.val rep.property (ticks period) count countable
  refine ⟨?_, ?_⟩
  · unfold ticks at there countable
    rw [bindDuration, there, Option.bind_some, bindInt64, IntType.cast_eq_self _ _ countable.micros]
    rfl
  · exact durationCast_back rep.val (ticks period) count (Ratio.micro.divide period) countable
      (Ratio.divide_num _ _) (Ratio.divide_den _ _)

theorem base_stored (type : BaseType) (value : type.Val) (exactly : type.Exact value)
    (fits : type.Fits value) :
    ∃ stored, Stored conversions emptyNull type value stored := by
  cases type with
  | integer type =>
      obtain ⟨bound, read⟩ := stored_integer conversions type value
      exact ⟨_, bound, Value.integer_ne_null _, rfl, congrArg some read⟩
  | bool =>
      cases value with
      | false => exact ⟨.integer 0, rfl, Value.integer_ne_null 0, rfl, rfl⟩
      | true => exact ⟨.integer 1, rfl, Value.integer_ne_null 1, rfl, rfl⟩
  | enumeration underlying =>
      obtain ⟨bound, read⟩ := stored_integer conversions underlying value
      exact ⟨_, bound, Value.integer_ne_null _, rfl, congrArg some read⟩
  | string => exact ⟨_, bindTextImpl_eq (View.ofString value) fits, Value.text_ne_null _, rfl, rfl⟩
  | stringView => exact ⟨_, bindTextImpl_eq value fits, Value.text_ne_null _, rfl, rfl⟩
  | byteVector =>
      exact ⟨_, bindSpan_eq (View.ofVector emptyNull value) fits, Value.blob_ne_null _, rfl, rfl⟩
  | unsignedCharSpan => exact ⟨_, bindSpan_eq value fits, Value.blob_ne_null _, rfl, rfl⟩
  | byteSpan => exact ⟨_, bindSpan_eq value fits, Value.blob_ne_null _, rfl, rfl⟩
  | duration rep period =>
      obtain ⟨bound, read⟩ := stored_duration rep period value fits
      rw [truncate_of_dvd rep.val _ value exactly] at read
      exact ⟨_, bound, Value.integer_ne_null _, rfl, read⟩
  | timePoint rep period =>
      obtain ⟨bound, read⟩ := stored_duration rep period value fits
      exact ⟨_, bound, Value.integer_ne_null _, rfl, read⟩

end Stored
/-! ## The ways to bind -/

inductive Route where
  | bindValue
  | bind
  | percent
deriving DecidableEq, Repr

def Route.accepts (type : CppType) : Route → Bool
  | .bindValue => true
  | _ => type.bindable

/-- The value that SQLite is handed, if the call compiles. -/
def Route.value (emptyNull : Bool) (type : CppType) (value : type.Val) : Route → Option Value
  | .bindValue => type.bindValue emptyNull value
  | _ => if type.bindable then type.bind emptyNull value else none

def Session.pass (route : Route) (value : Value) (session : Session) :
    Session × Except Exception Unit :=
  match route with
  | .percent => session.percent (.positional value)
  | _ => session.bind 1 value

theorem int32_of_promotes (type : CppInt) (value : type.val.Val)
    (promotes : type.promotes = true) : IntType.int32.InRange value.val := by
  obtain ⟨⟨signed, bits⟩, narrow⟩ := type
  have fits := value.property
  rcases Bool.or_eq_true_iff.mp promotes with small | same
  · have bound : (2 : Int) ^ bits ≤ 2 ^ 31 := by
      have below : bits < 32 := by simpa using small
      exact_mod_cast Nat.pow_le_pow_right (by decide) (by omega)
    simp only [IntType.InRange, IntType.int32, if_true] at fits ⊢
    cases signed with
    | true =>
        simp only [if_true] at fits
        omega
    | false =>
        simp only [Bool.false_eq_true, if_false] at fits
        omega
  · have equal : (⟨signed, bits⟩ : IntType) = IntType.int32 := by simpa using same
    rw [← equal]
    exact fits

/-- Where an overload of `bind` takes the argument, it hands on what `bind_value` does. -/
theorem bind_eq_bindValue (emptyNull : Bool) (type : CppType) (value : type.Val) :
    type.bind emptyNull value = type.bindValue emptyNull value := by
  cases type with
  | optional type => rfl
  | base type =>
      cases type with
      | integer type =>
          by_cases promotes : type.promotes = true
          · have narrow := int32_of_promotes type value promotes
            have wide : IntType.int64.InRange value.val := by
              rw [IntType.inRange_int64]
              simp only [IntType.InRange, IntType.int32, if_true] at narrow
              omega
            simp only [CppType.bind, if_pos promotes, CppType.bindValue, BaseType.bindValue,
              bindInt, bindInt64, IntType.cast_eq_self _ _ narrow, IntType.cast_eq_self _ _ wide]
          · simp only [CppType.bind, if_neg promotes, CppType.bindValue, BaseType.bindValue]
      | bool => cases value <;> rfl
      | enumeration underlying => rfl
      | string => rfl
      | stringView => rfl
      | byteVector => rfl
      | unsignedCharSpan => rfl
      | byteSpan => rfl
      | duration rep period => rfl
      | timePoint rep period => rfl

theorem route_value (emptyNull : Bool) (type : CppType) (value : type.Val) (route : Route)
    (accepted : route.accepts type = true) :
    route.value emptyNull type value = type.bindValue emptyNull value := by
  cases route with
  | bindValue => rfl
  | bind => exact (if_pos accepted).trans (bind_eq_bindValue emptyNull type value)
  | percent => exact (if_pos accepted).trans (bind_eq_bindValue emptyNull type value)

/-! ## `SELECT ?` -/

/-- The value has no value. -/
def CppType.isNull : (type : CppType) → type.Val → Bool
  | .base _, _ => false
  | .optional _, value => value.isNone

theorem type_stored (conversions : Conversions) (emptyNull : Bool) (type : CppType)
    (value : type.Val) (exactly : type.Exact value) (fits : type.Fits value) :
    ∃ stored, type.bindValue emptyNull value = some stored ∧
      (stored = .null ↔ type.isNull value = true) ∧ stored.size = type.size value ∧
      type.owning.get conversions stored = some (type.settled value) := by
  cases type with
  | base type =>
      obtain ⟨stored, bound, notNull, size, read⟩ :=
        base_stored conversions emptyNull type value exactly fits
      exact ⟨stored, bound, ⟨fun null => absurd null notNull, nofun⟩, size, read⟩
  | optional type =>
      cases value with
      | none => exact ⟨.null, rfl, ⟨fun _ => rfl, fun _ => rfl⟩, rfl, rfl⟩
      | some value =>
          obtain ⟨stored, bound, notNull, size, read⟩ :=
            base_stored conversions emptyNull type value exactly fits
          refine ⟨stored, bound, ⟨fun null => absurd null notNull, nofun⟩, size, ?_⟩
          exact (if_neg notNull).trans (congrArg (Option.map some) read)

namespace Session

/-- The value of the column of `SELECT ?` in the current row. -/
def selected (session : Session) : Option Value :=
  session.currentRow.bind fun row => row.bindings[0]?

theorem Owns.bind_only {session : Session} {id : StmtId} {stmt : Stmt}
    (owns : session.Owns id stmt) (value : Value) (ready : stmt.position = .ready)
    (parameters : stmt.parameters.length = 1) (bindings : stmt.bindings.length = 1)
    (short : value.size ≤ session.sqlite.lengthLimit) :
    ∃ bound, session.bind 1 value = (bound, .ok ()) ∧
      bound.Owns id { stmt with bindings := [value] } := by
  have accepted := bind_in_range session.sqlite.lengthLimit 0 value stmt ready (by omega)
  rw [if_neg (Nat.not_lt.mpr short)] at accepted
  have one : stmt.bindings.set 0 value = [value] := by
    obtain ⟨old, only⟩ := List.length_eq_one_iff.mp bindings
    rw [only]
    rfl
  have after := owns.modify (fun stmt => (stmt.bind session.sqlite.lengthLimit 1 value).2)
    (.bound id 1 value)
  have place : stmt.bind session.sqlite.lengthLimit 1 value =
    (.ok, { stmt with bindings := stmt.bindings.set 0 value }) := accepted
  rw [place, one] at after
  refine ⟨_, ?_, after⟩
  rw [owns.bind, place]
  rfl

theorem pass_binds (session : Session) (id : StmtId) (stmt : Stmt) (owns : session.Owns id stmt)
    (forgotten : session.command.lastArgIdx = 0) (route : Route) (value : Value)
    (ready : stmt.position = .ready) (parameters : stmt.parameters.length = 1)
    (bindings : stmt.bindings.length = 1) (short : value.size ≤ session.sqlite.lengthLimit) :
    ∃ bound, session.pass route value = (bound, .ok ()) ∧
      bound.Owns id { stmt with bindings := [value] } := by
  cases route with
  | bindValue => exact owns.bind_only value ready parameters bindings short
  | bind => exact owns.bind_only value ready parameters bindings short
  | percent =>
      rw [pass, percent, forgotten]
      exact (owns.setLastArgIdx 1).bind_only value ready parameters bindings short

/-- Whatever is bound to the parameter of `SELECT ?`, and in whichever way, is stored, and
what is read back of the owning type is what was bound; of a time point what is cut off to whole
microseconds.  It is NULL just when it was an empty optional. -/
theorem bind_then_get (conversions : Conversions) (emptyNull : Bool) (session : Session)
    (waiting : session.Waiting 1 (· = .ready)) (route : Route) (type : CppType)
    (value : type.Val) (accepted : route.accepts type = true) (exactly : type.Exact value)
    (fits : type.Fits value) (short : type.size value ≤ session.sqlite.lengthLimit) :
    ∃ stored bound read column, route.value emptyNull type value = some stored ∧
      session.pass route stored = (bound, .ok ()) ∧
      bound.nextRow (rowAnswer fun _ => 1) false = (read, .ok (true, false)) ∧
      read.selected = some column ∧
      type.owning.get conversions column = some (type.settled value) ∧
      (column = .null ↔ type.isNull value = true) := by
  obtain ⟨forgotten, id, stmt, owns, parameters, bindings, ready⟩ := waiting
  obtain ⟨stored, handed, null, size, back⟩ :=
    type_stored conversions emptyNull type value exactly fits
  obtain ⟨bound, passed, own⟩ := pass_binds session id stmt owns forgotten route stored ready
    parameters bindings (size ▸ short)
  obtain ⟨read, stepped, _, _, reads⟩ := own.nextRow fun _ => 1
  have fresh : stmt.position.yielded = 0 := by
    rw [ready]
    rfl
  refine ⟨stored, bound, read, stored, (route_value emptyNull type value route accepted).trans
    handed, passed, ?_, ?_, back, null⟩
  · simpa [fresh] using stepped
  · rw [selected, reads.currentRow]
    simp [Stmt.currentRow, fresh]

/-- `SELECT ?` on a connection whose strings are limited to 30 bytes. -/
def selecting : Session :=
  ⟨some 0, ⟨[⟨0, ascii "SELECT ?", [none], [.null], .ready, false⟩], 30, []⟩,
    ⟨ascii "SELECT ?", some 0, 0⟩⟩

theorem selecting_fresh : selecting.Waiting 1 (· = .ready) :=
  ⟨rfl, 0, _, ⟨rfl, rfl, rfl⟩, rfl, rfl, rfl⟩

def frames : BaseType := .duration ⟨.int64, IntType.int64_bits⟩ ⟨1, 30, Nat.one_pos, by decide⟩

def noFrame : frames.Val := ⟨0, by decide⟩
def oneFrame : frames.Val := ⟨1, by decide⟩
def thirtyFrames : frames.Val := ⟨30, by decide⟩
def manyFrames : frames.Val := ⟨99999999999999, by decide⟩

/-- A text with a NUL byte in it, and thirty frames, which are a second. -/
theorem bind_then_get_text_and_frames :
    (∃ stored bound read column,
      Route.percent.value false (.optional .stringView) (some (View.ofString [97, 0, 98])) =
        some stored ∧
      selecting.pass .percent stored = (bound, .ok ()) ∧
      bound.nextRow (rowAnswer fun _ => 1) false = (read, .ok (true, false)) ∧
      read.selected = some column ∧
      (CppType.optional .string).get ⟨fun _ => 0, fun _ => []⟩ column =
        some (some [97, 0, 98]) ∧
      (column = .null ↔ false = true)) ∧
    ∃ stored bound read column,
      Route.bindValue.value false (.base frames) thirtyFrames = some stored ∧
      selecting.pass .bindValue stored = (bound, .ok ()) ∧
      bound.nextRow (rowAnswer fun _ => 1) false = (read, .ok (true, false)) ∧
      read.selected = some column ∧
      (CppType.base frames).get ⟨fun _ => 0, fun _ => []⟩ column = some thirtyFrames ∧
      (column = .null ↔ false = true) :=
  ⟨bind_then_get ⟨fun _ => 0, fun _ => []⟩ false selecting selecting_fresh .percent
    (.optional .stringView) (some (View.ofString [97, 0, 98])) rfl trivial
    (show 3 < 2 ^ 31 by decide) (show 3 ≤ 30 by decide),
    bind_then_get ⟨fun _ => 0, fun _ => []⟩ false selecting selecting_fresh .bindValue
    (.base frames) thirtyFrames rfl ⟨10, rfl⟩ ⟨by decide, by decide⟩ (Nat.zero_le _)⟩

/-- One frame is stored as 33333 microseconds, which are no whole frame; very many are not stored,
though their microseconds fit; and a text over the connection's limit is not bound. -/
theorem frame_reads_back_as_none :
    (∃ stored bound read column,
      Route.bindValue.value false (.base frames) oneFrame = some stored ∧
      selecting.pass .bindValue stored = (bound, .ok ()) ∧
      bound.nextRow (rowAnswer fun _ => 1) false = (read, .ok (true, false)) ∧
      read.selected = some column ∧
      (CppType.base frames).get ⟨fun _ => 0, fun _ => []⟩ column = some noFrame ∧
      noFrame ≠ oneFrame) ∧
    (IntType.int64.InRange
        (microseconds .int64 (ticks ⟨1, 30, Nat.one_pos, by decide⟩) manyFrames) ∧
      Route.bindValue.value false (.base frames) manyFrames = none) ∧
    ∃ stored, Route.bindValue.value false (.base .string) (List.replicate 31 97) = some stored ∧
      (selecting.pass .bindValue stored).2 =
        .error (.databaseExceptionCode .tooBig (ascii "SELECT ?")) := by
  refine ⟨⟨.integer 33333, _, _, .integer 33333, rfl, rfl, rfl, rfl, rfl, fun same => ?_⟩,
    ⟨by decide, by decide⟩,
    .text (List.replicate 31 97), rfl, rfl⟩
  cases congrArg Subtype.val same

end Session
end VSQLite
