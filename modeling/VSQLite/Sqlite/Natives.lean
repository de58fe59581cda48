import VSQLite.Command.Keyword
import VSQLite.Lib.Keepers

/-!
# Snapshots and sessions of SQLite

`sqlite3_snapshot` and `sqlite3_session` objects are numbered in the order SQLite makes them,
and the calls that make, take or release one are recorded, the latest one first.  What SQLite
returns comes from outside.
-/

set_option autoImplicit false

namespace VSQLite
open Lib

/-- A `sqlite3_snapshot *` or `sqlite3_session *` that is not null. -/
abbrev NativeHandle := Nat

inductive NativeCall where
  | snapshotGet (db : DbHandle) (schema : Text)
  | snapshotOpen (db : DbHandle) (schema : Text) (handle : NativeHandle)
  | snapshotFree (handle : NativeHandle)
  | sessionCreate (db : DbHandle) (schema : Text)
  | sessionDelete (handle : NativeHandle)
  | sessionAttach (handle : NativeHandle) (table : Option Text)
  | sessionEnable (handle : NativeHandle) (value : Bool)
  | sessionIndirect (handle : NativeHandle) (value : Bool)
  | sessionChangeset (handle : NativeHandle)
  | sessionPatchset (handle : NativeHandle)
deriving DecidableEq, Repr

namespace NativeCall

def uses : NativeCall → Option NativeHandle
  | .snapshotGet _ _ => none
  | .snapshotOpen _ _ handle => some handle
  | .snapshotFree handle => some handle
  | .sessionCreate _ _ => none
  | .sessionDelete handle => some handle
  | .sessionAttach handle _ => some handle
  | .sessionEnable handle _ => some handle
  | .sessionIndirect handle _ => some handle
  | .sessionChangeset handle => some handle
  | .sessionPatchset handle => some handle

def releases : NativeCall → Option NativeHandle
  | .snapshotFree handle => some handle
  | .sessionDelete handle => some handle
  | _ => none

theorem snapshotFree_frees : Frees uses releases snapshotFree := fun _ => ⟨rfl, rfl⟩

theorem sessionDelete_frees : Frees uses releases sessionDelete := fun _ => ⟨rfl, rfl⟩

end NativeCall

/-- What SQLite answers.  `data` are the bytes of a changeset or patchset. -/
structure NativeAnswer where
  rc : ResultCode
  errmsg : Option Text
  errstr : Option Text
  extendedErrcode : Nat
  data : List UInt8
deriving DecidableEq, Repr

/-- What the wrappers throw: `database_exception`, and `database_exception_code` with its code. -/
inductive NativeException where
  | databaseException (what : Text)
  | databaseExceptionCode (what : Text) (code : ResultCode)
deriving DecidableEq, Repr

def sqliteError : ResultCode := .error 1

/-- `SQLITE_BUSY` and so on as numbers. -/
def ResultCode.number : ResultCode → Nat
  | .ok => 0
  | .row => 100
  | .done => 101
  | .busy => 5
  | .misuse => 21
  | .range => 25
  | .tooBig => 18
  | .error code => code

structure Natives where
  handles : Nat
  calls : List NativeCall
deriving DecidableEq, Repr

namespace Natives

def record (made : List NativeCall) (natives : Natives) : Natives :=
  { natives with calls := made ++ natives.calls }

/-- `sqlite3_snapshot_get` and `sqlite3session_create`: there is a new object if and only if
`SQLITE_OK` is returned. -/
def make (call : NativeCall) (rc : ResultCode) (natives : Natives) :
    Natives × ResultCode × Option NativeHandle :=
  if rc = .ok then
    ({ natives.record [call] with handles := natives.handles + 1 }, rc, some natives.handles)
  else (natives.record [call], rc, none)

theorem make_ok (call : NativeCall) (natives : Natives) :
    natives.make call .ok =
      ({ natives.record [call] with handles := natives.handles + 1 }, .ok, some natives.handles) :=
  rfl

theorem make_of_ne (call : NativeCall) {rc : ResultCode} (failed : rc ≠ .ok) (natives : Natives) :
    natives.make call rc = (natives.record [call], rc, none) := if_neg failed

/-- An object of the program asks SQLite something about the handle it has. -/
def Asked (handle : Option NativeHandle) (natives after : Natives) : Prop :=
  ∃ calls, Quiet NativeCall.uses NativeCall.releases handle.toList calls ∧
    after = natives.record calls

/-- What comes of constructing an object: no handle and no object, or an object with the handle
that SQLite has made for it. -/
inductive Created {Object : Type} (handle : Object → Option NativeHandle) (natives : Natives) :
    Natives × Except NativeException Object → Prop
  | failed (calls : List NativeCall) (thrown : NativeException)
      (quiet : Quiet NativeCall.uses NativeCall.releases [] calls) :
      Created handle natives (natives.record calls, .error thrown)
  | made (calls : List NativeCall) (object : Object)
      (owns : handle object = some natives.handles)
      (quiet : Quiet NativeCall.uses NativeCall.releases [natives.handles] calls) :
      Created handle natives
        ({ natives.record calls with handles := natives.handles + 1 }, .ok object)

theorem asked_nothing (handle : Option NativeHandle) (natives : Natives) :
    Asked handle natives natives := ⟨[], Quiet.nil _, rfl⟩

theorem asked_once {handle : NativeHandle} {call : NativeCall} (natives : Natives)
    (uses : call.uses = some handle) (keeps : call.releases = none) :
    Asked (some handle) natives (natives.record [call]) := by
  refine ⟨[call], (Quiet.nil _).cons keeps ?_, rfl⟩
  intro resource used
  cases uses.symm.trans used
  exact List.mem_singleton_self handle

theorem quiet_making {call : NativeCall} (allowed : List NativeHandle)
    (uses : call.uses = none) (keeps : call.releases = none) :
    Quiet NativeCall.uses NativeCall.releases allowed [call] := by
  refine (Quiet.nil _).cons keeps ?_
  intro resource used
  cases uses.symm.trans used

end Natives

/-- The connections a program has, and the handles of those that are open. -/
abbrev Connections := Nat → Option DbHandle

/-- `to_handle` of snapshots and `handle` of sessions. -/
def Connections.handle (connections : Connections) (con : Nat) :
    Except NativeException DbHandle :=
  match connections con with
  | none => .error (.databaseException (ascii "Database is not open."))
  | some db => .ok db

end VSQLite
