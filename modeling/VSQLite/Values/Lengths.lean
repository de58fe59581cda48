import VSQLite.Command.Model
import VSQLite.Values.Bind

/-!
# The lengths SQLite is handed

A byte sequence has a `size_t` length; the functions of SQLite that take one ask for an `int`.
Wherever the wrapper hands bytes over it converts the length by a cast.
-/

set_option autoImplicit false

namespace VSQLite
open Lib

/-- The length SQLite is handed, if it is called, and what the wrapper throws. -/
structure ByteCall where
  handed : Option Int
  thrown : Option Exception
deriving DecidableEq, Repr

namespace ByteCall

def refused (thrown : Exception) : ByteCall := ⟨none, some thrown⟩

/-- SQLite is called, and what it returns is thrown unless it is `SQLITE_OK`. -/
def called (length : Int) (err : ResultCode) (sql : Text) : ByteCall :=
  ⟨some length, if err = .ok then none else some (.databaseExceptionCode err sql)⟩

/-- The length that is handed over is the whole length; nothing is handed over without an
exception but a sequence without bytes. -/
def Whole (size : Nat) (call : ByteCall) : Prop :=
  match call.handed with
  | some length => length = size
  | none => call.thrown.isSome = true ∨ size = 0

end ByteCall

/-! ## The calls of the source -/

inductive BytesOverload where
  | text
  | pointer
  | vector
  | unsignedCharSpan
  | byteSpan
deriving DecidableEq, Repr

section Calls
variable (err : ResultCode)

/-- `access_check`, then a call of SQLite with the size cast to `int`. -/
def Session.bindBytes (view : View) (session : Session) : ByteCall :=
  match session.accessCheck with
  | .error thrown => .refused thrown
  | .ok _ => .called (sizeArgument view) err session.command.sql

def Session.bindTextBytes (view : View) (session : Session) : ByteCall :=
  session.bindBytes err view

def Session.bindPointerBytes (view : View) (session : Session) : ByteCall :=
  session.bindBytes err view

def Session.bindSpanBytes (view : View) (session : Session) : ByteCall :=
  session.bindBytes err view

/-- `bind(int, ..)`; the overloads for a vector and for `std::byte` make a span. -/
def BytesOverload.bind (session : Session) (view : View) : BytesOverload → ByteCall
  | .text => session.bindTextBytes err view
  | .pointer => session.bindPointerBytes err view
  | .vector => session.bindSpanBytes err view
  | .unsignedCharSpan => session.bindSpanBytes err view
  | .byteSpan => session.bindSpanBytes err view

def BytesOverload.bindNamed (name : Text) (session : Session) (view : View)
    (overload : BytesOverload) : ByteCall :=
  match session.parameterIndex name with
  | .error thrown => .refused thrown
  | .ok _ => overload.bind err session view

def BytesOverload.percent (session : Session) (view : View) (overload : BytesOverload) :
    ByteCall :=
  overload.bind err (session.setLastArgIdx (session.command.lastArgIdx + 1)) view

/-- `result_text` and the writers of blobs have nobody to report an error to. -/
def resultTextBytes (view : View) : ByteCall := ⟨some (sizeArgument view), none⟩

def resultBlobBytes (view : View) : ByteCall := ⟨some (sizeArgument view), none⟩

def applyChangeset (supported : Bool) (handle : Option DbHandle) (data : View) : ByteCall :=
  if !supported then
    .refused (.databaseException
      (ascii "SQLite session APIs are not available in this build."))
  else if data.bytes.isEmpty then ⟨none, none⟩
  else
    match handle with
    | none => .refused (.databaseException (ascii "Database is not open."))
    | some _ => .called (sizeArgument data) err []

def applyPatchset (supported : Bool) (handle : Option DbHandle) (data : View) : ByteCall :=
  applyChangeset err supported handle data

inductive ByteRoute where
  | bind (overload : BytesOverload)
  | bindNamed (name : Text) (overload : BytesOverload)
  | percent (overload : BytesOverload)
  | resultText
  | resultSpan
  | resultByteSpan
  | resultVector
  | applyChangeset
  | applyPatchset
deriving DecidableEq, Repr

/-- The command or the connection bytes are handed to, and whether SQLite has sessions. -/
structure ByteContext where
  session : Session
  sessionsSupported : Bool

def ByteRoute.call (context : ByteContext) (view : View) : ByteRoute → ByteCall
  | .bind overload => overload.bind err context.session view
  | .bindNamed name overload => overload.bindNamed err name context.session view
  | .percent overload => overload.percent err context.session view
  | .resultText => resultTextBytes view
  | .resultSpan => resultBlobBytes view
  | .resultByteSpan => resultBlobBytes view
  | .resultVector => resultBlobBytes view
  | .applyChangeset =>
      VSQLite.applyChangeset err context.sessionsSupported context.session.handle view
  | .applyPatchset =>
      VSQLite.applyPatchset err context.sessionsSupported context.session.handle view

end Calls

/-- Nothing keeps the wrapper from calling SQLite: the connection is open and the command has a
statement with such a parameter; or SQLite has sessions and there is something to apply. -/
def ByteRoute.Reaches (context : ByteContext) (view : View) : ByteRoute → Prop
  | .bind _ => context.session.handle.isSome = true ∧ context.session.command.stmt.isSome = true
  | .bindNamed name _ => ∃ index, context.session.parameterIndex name = .ok index
  | .percent _ => context.session.handle.isSome = true ∧ context.session.command.stmt.isSome = true
  | .applyChangeset =>
      context.sessionsSupported = true ∧ context.session.handle.isSome = true ∧ view.bytes ≠ []
  | .applyPatchset =>
      context.sessionsSupported = true ∧ context.session.handle.isSome = true ∧ view.bytes ≠ []
  | _ => True

/-! ## Which lengths survive the cast -/

theorem sizeArgument_eq_iff (view : View) :
    sizeArgument view = view.bytes.length ↔ view.bytes.length < 2 ^ 31 := by
  unfold sizeArgument
  rw [IntType.cast_eq_self_iff]
  simp only [IntType.InRange, IntType.int32, if_true]
  omega

section Whole
variable (err : ResultCode) (view : View)

theorem accessCheck_ok_iff (session : Session) :
    (∃ stmt, session.accessCheck = .ok stmt) ↔
      session.handle.isSome = true ∧ session.command.stmt.isSome = true := by
  unfold Session.accessCheck
  cases session.handle with
  | none => simp
  | some db => cases session.command.stmt <;> simp

theorem accessCheck_of_parameterIndex (session : Session) (name : Text) (index : Nat)
    (found : session.parameterIndex name = .ok index) :
    ∃ stmt, session.accessCheck = .ok stmt := by
  unfold Session.parameterIndex at found
  cases checked : session.accessCheck with
  | error thrown =>
      rw [checked] at found
      cases found
  | ok stmt => exact ⟨stmt, rfl⟩

theorem bindBytes_whole_iff (session : Session) :
    (session.bindBytes err view).Whole view.bytes.length ↔
      (session.handle.isSome = true ∧ session.command.stmt.isSome = true →
        view.bytes.length < 2 ^ 31) := by
  rw [← accessCheck_ok_iff, ← sizeArgument_eq_iff]
  unfold Session.bindBytes
  cases checked : session.accessCheck with
  | error thrown =>
      refine ⟨fun _ => ?_, fun _ => Or.inl rfl⟩
      rintro ⟨stmt, impossible⟩
      cases impossible
  | ok stmt => exact ⟨fun whole _ => whole, fun whole => whole ⟨stmt, rfl⟩⟩

theorem applyChangeset_whole_iff (supported : Bool) (handle : Option DbHandle) :
    (applyChangeset err supported handle view).Whole view.bytes.length ↔
      (supported = true ∧ handle.isSome = true ∧ view.bytes ≠ [] → view.bytes.length < 2 ^ 31) := by
  rw [← sizeArgument_eq_iff]
  unfold applyChangeset
  cases supported with
  | false => exact ⟨fun _ impossible => (by cases impossible.1), fun _ => Or.inl rfl⟩
  | true =>
      cases bytes : view.bytes with
      | nil => exact ⟨fun _ impossible => absurd rfl impossible.2.2, fun _ => Or.inr rfl⟩
      | cons first rest =>
          cases handle with
          | none => exact ⟨fun _ impossible => (by cases impossible.2.1), fun _ => Or.inl rfl⟩
          | some db =>
              exact ⟨fun whole _ => whole,
                fun whole => whole ⟨rfl, rfl, List.cons_ne_nil first rest⟩⟩

theorem overload_eq (session : Session) (overload : BytesOverload) :
    overload.bind err session view = session.bindBytes err view := by
  cases overload <;> rfl

end Whole

/-- On every route SQLite is handed the whole length, or an exception is thrown, exactly when
the length is below two to the 31 or SQLite is not called. -/
theorem length_handed_whole_iff (err : ResultCode) (context : ByteContext) (view : View)
    (route : ByteRoute) :
    (route.call err context view).Whole view.bytes.length ↔
      (route.Reaches context view → view.bytes.length < 2 ^ 31) := by
  have result : (⟨some (sizeArgument view), none⟩ : ByteCall).Whole view.bytes.length ↔
      (True → view.bytes.length < 2 ^ 31) := by
    rw [← sizeArgument_eq_iff]
    exact ⟨fun whole _ => whole, fun whole => whole trivial⟩
  cases route with
  | bind overload =>
      simp only [ByteRoute.call, overload_eq]
      exact bindBytes_whole_iff err view context.session
  | bindNamed name overload =>
      simp only [ByteRoute.call, BytesOverload.bindNamed, overload_eq, ByteRoute.Reaches]
      cases found : context.session.parameterIndex name with
      | error thrown =>
          refine ⟨fun _ => ?_, fun _ => Or.inl rfl⟩
          rintro ⟨index, impossible⟩
          cases impossible
      | ok index =>
          have opened := (accessCheck_ok_iff _).mp (accessCheck_of_parameterIndex _ _ _ found)
          have whole := bindBytes_whole_iff err view context.session
          exact ⟨fun handed _ => whole.mp handed opened,
            fun short => whole.mpr fun _ => short ⟨index, rfl⟩⟩
  | percent overload =>
      simp only [ByteRoute.call, BytesOverload.percent, overload_eq]
      exact bindBytes_whole_iff err view _
  | resultText => exact result
  | resultSpan => exact result
  | resultByteSpan => exact result
  | resultVector => exact result
  | applyChangeset => exact applyChangeset_whole_iff err view _ _
  | applyPatchset => exact applyChangeset_whole_iff err view _ _

def insertion : Session := ⟨some 0, ⟨[], 0, []⟩, ⟨ascii "INSERT INTO t VALUES (?)", some 0, 0⟩⟩

theorem sizeArgument_replicate (length : Nat) (byte : UInt8) :
    sizeArgument (View.ofString (List.replicate length byte)) = IntType.int32.cast length := by
  rw [sizeArgument, View.ofString, List.length_replicate]

/-- Of a blob of four gigabytes and a byte SQLite is handed one byte, and of a text of two
gigabytes a negative length; nothing is thrown. -/
theorem long_bytes_cut :
    (ByteRoute.bind .unsignedCharSpan).call .ok ⟨insertion, true⟩
        (View.ofString (List.replicate (2 ^ 32 + 1) 65)) = ⟨some 1, none⟩ ∧
      (ByteRoute.bind .text).call .ok ⟨insertion, true⟩
        (View.ofString (List.replicate (2 ^ 31) 65)) = ⟨some (-2147483648), none⟩ ∧
      ¬((ByteRoute.bind .unsignedCharSpan).call .ok ⟨insertion, true⟩
        (View.ofString (List.replicate (2 ^ 32 + 1) 65))).Whole (2 ^ 32 + 1) := by
  have handed : ∀ (overload : BytesOverload) (view : View),
      (ByteRoute.bind overload).call .ok ⟨insertion, true⟩ view =
        ⟨some (sizeArgument view), none⟩ := by
    intro overload view
    cases overload <;> rfl
  have blob : IntType.int32.cast (2 ^ 32 + 1 : Nat) = 1 := by decide
  have text : IntType.int32.cast (2 ^ 31 : Nat) = -2147483648 := by decide
  rw [handed, handed, sizeArgument_replicate, sizeArgument_replicate, blob, text]
  refine ⟨rfl, rfl, fun whole => ?_⟩
  have same : (1 : Int) = ((2 ^ 32 + 1 : Nat) : Int) := whole
  revert same
  decide

end VSQLite
