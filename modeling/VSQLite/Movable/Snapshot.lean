import VSQLite.Json.Path
import VSQLite.Serialization.Images
import VSQLite.Sqlite.Natives

/-!
# Snapshot objects

`snapshot` owns a `sqlite3_snapshot` or nothing.  The functions of SQLite are looked up once,
and none may be missing where an object owns a handle: without `free` it could not be released.
-/

set_option autoImplicit false

namespace VSQLite
open Lib

/-- Which of the symbols were found. -/
structure SnapshotApi where
  getFn : Bool
  openFn : Bool
  freeFn : Bool
deriving DecidableEq, Repr

/-- `snapshots_supported`. -/
def SnapshotApi.supported (api : SnapshotApi) : Bool := api.getFn && api.openFn && api.freeFn

structure Snapshot (api : SnapshotApi) where
  handle : Option NativeHandle
  equipped : handle.isSome = true → api.supported = true

namespace Snapshot

/-- `db` is not null here. -/
def formatSnapshotError (answer : NativeAnswer) (rc : ResultCode) (schema : Text) : Text :=
  let errmsg := answer.errmsg.getD []
  let msg := if errmsg.isEmpty then ascii "Snapshot operation failed" else errmsg
  msg ++ ascii " (rc=" ++ decimal rc.number ++ ascii ", errstr=" ++
    answer.errstr.getD (ascii "unknown") ++ ascii ", xrc=" ++ decimal answer.extendedErrcode ++
    ascii ") [schema=" ++ schema ++ ascii "]"

/-- `ensure_snapshot_available`. -/
def unavailable : NativeException :=
  .databaseException (ascii "SQLite snapshot APIs are not available in this build.")

section Members
variable {api : SnapshotApi}

/-- The default constructor. -/
def empty : Snapshot api := ⟨none, fun impossible => by cases impossible⟩

/-- `reset`, which is also what the destructor does. -/
def reset (snapshot : Snapshot api) (natives : Natives) : Snapshot api × Natives :=
  match snapshot.handle with
  | none => (snapshot, natives)
  | some handle =>
      (empty, if api.freeFn then natives.record [.snapshotFree handle] else natives)

/-- The move constructor, and what it leaves in the other object. -/
def moveConstruct (other : Snapshot api) : Snapshot api × Snapshot api :=
  (⟨other.handle, other.equipped⟩, empty)

/-- The move assignment; `self` if the other object is the same one. -/
def moveAssign (self : Bool) (this other : Snapshot api) (natives : Natives) :
    Snapshot api × Snapshot api × Natives :=
  if !self then (⟨other.handle, other.equipped⟩, empty, (this.reset natives).2)
  else (this, other, natives)

def take (connections : Connections) (con : Nat) (schema : Text) (answer : NativeAnswer)
    (natives : Natives) : Natives × Except NativeException (Snapshot api) :=
  if supported : api.supported = true then
    let normalized := Images.normalizeSchema schema
    match connections.handle con with
    | .error thrown => (natives, .error thrown)
    | .ok db =>
        let (called, rc, raw) :=
          if api.getFn then natives.make (.snapshotGet db (cString normalized)) answer.rc
          else (natives, sqliteError, none)
        if rc ≠ .ok then
          (called, .error (.databaseExceptionCode (formatSnapshotError answer rc normalized) rc))
        else (called, .ok ⟨raw, fun _ => supported⟩)
  else (natives, .error unavailable)

/-- `open`. -/
def openSnapshot (snapshot : Snapshot api) (connections : Connections) (con : Nat)
    (schema : Text) (answer : NativeAnswer) (natives : Natives) :
    Natives × Except NativeException Unit :=
  if !api.supported then (natives, .error unavailable)
  else
    match snapshot.handle with
    | none => (natives, .error (.databaseException (ascii "Cannot open an empty snapshot.")))
    | some handle =>
        let normalized := Images.normalizeSchema schema
        match connections.handle con with
        | .error thrown => (natives, .error thrown)
        | .ok db =>
            let (called, rc) :=
              if api.openFn then
                (natives.record [.snapshotOpen db (cString normalized) handle], answer.rc)
              else (natives, sqliteError)
            if rc = .busy then
              (called, .error (.databaseException
                (ascii "Snapshot is too old and cannot be opened.")))
            else if rc ≠ .ok then
              (called, .error (.databaseExceptionCode
                (formatSnapshotError answer rc normalized) rc))
            else (called, .ok ())

/-! ## What happens to the handle -/

theorem freeFn_of_handle (snapshot : Snapshot api) {handle : NativeHandle}
    (owned : snapshot.handle = some handle) : api.freeFn = true := by
  have supported := snapshot.equipped (by rw [owned]; rfl)
  simp only [SnapshotApi.supported, Bool.and_eq_true] at supported
  exact supported.2

theorem reset_handle (snapshot : Snapshot api) (natives : Natives) :
    (snapshot.reset natives).1.handle = none := by
  unfold reset
  split
  · assumption
  · rfl

theorem reset_natives (snapshot : Snapshot api) (natives : Natives) :
    (snapshot.reset natives).2 =
      natives.record (snapshot.handle.toList.map NativeCall.snapshotFree) := by
  unfold reset
  split
  · rename_i nothing
    rw [nothing]
    rfl
  · rename_i handle owned
    rw [if_pos (snapshot.freeFn_of_handle owned), owned]
    rfl

theorem moveAssign_other (this other : Snapshot api) (natives : Natives) :
    moveAssign false this other natives = (⟨other.handle, other.equipped⟩, empty,
      natives.record (this.handle.toList.map NativeCall.snapshotFree)) := by
  rw [← this.reset_natives]
  rfl

theorem take_created (connections : Connections) (con : Nat) (schema : Text)
    (answer : NativeAnswer) (natives : Natives) :
    natives.Created Snapshot.handle
      (@take api connections con schema answer natives) := by
  by_cases supported : api.supported = true
  · rw [take, dif_pos supported]
    cases connections.handle con with
    | error thrown => exact .failed [] thrown (Quiet.nil [])
    | ok db =>
        by_cases found : api.getFn = true
        · by_cases ok : answer.rc = .ok
          · simp only [if_pos found, ok, Natives.make_ok]
            exact .made _ _ rfl (Natives.quiet_making _ rfl rfl)
          · simp only [if_pos found, Natives.make_of_ne _ ok, if_pos ok]
            exact .failed [.snapshotGet db _] _ (Natives.quiet_making [] rfl rfl)
        · simp only [if_neg found]
          exact .failed [] _ (Quiet.nil [])
  · rw [take, dif_neg supported]
    exact .failed [] _ (Quiet.nil [])

theorem openSnapshot_asked (snapshot : Snapshot api) (connections : Connections) (con : Nat)
    (schema : Text) (answer : NativeAnswer) (natives : Natives) :
    natives.Asked snapshot.handle
      (snapshot.openSnapshot connections con schema answer natives).1 := by
  have nothing := natives.asked_nothing snapshot.handle
  unfold openSnapshot
  split
  · exact nothing
  · split
    · exact nothing
    · rename_i handle owned
      cases connections.handle con with
      | error thrown => exact nothing
      | ok db =>
          by_cases found : api.openFn = true
          · simp only [if_pos found, apply_ite Prod.fst, ite_self]
            rw [owned]
            exact natives.asked_once rfl rfl
          · simp only [if_neg found, apply_ite Prod.fst, ite_self]
            exact nothing

end Members
end Snapshot
end VSQLite
