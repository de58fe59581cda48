import VSQLite.Serialization.Images
import VSQLite.Sqlite.Natives

/-!
# Change sessions

`session` owns a `sqlite3_session` and points to the connection it was made for, or has lost
both to another object.
-/

set_option autoImplicit false

namespace VSQLite
open Lib

/-- Which of the symbols were found. -/
structure SessionApi where
  createFn : Bool
  destroyFn : Bool
  attachFn : Bool
  enableFn : Bool
  indirectFn : Bool
  changesetFn : Bool
  patchsetFn : Bool
  applyChangesetFn : Bool
deriving DecidableEq, Repr

/-- `sessions_supported`. -/
def SessionApi.supported (api : SessionApi) : Bool :=
  api.createFn && api.destroyFn && api.attachFn && api.enableFn && api.indirectFn &&
    api.changesetFn && api.patchsetFn && api.applyChangesetFn

/-- `con_` is dereferenced only where there is a handle. -/
structure ChangeSession (api : SessionApi) where
  con : Option Nat
  handle : Option NativeHandle
  equipped : handle.isSome = true → api.supported = true
  attached : handle.isSome = true → con.isSome = true

namespace ChangeSession

/-- `ensure_session_available`. -/
def unavailable : NativeException :=
  .databaseException (ascii "SQLite session APIs are not available in this build.")

/-- What the members throw that need a handle and have none. -/
def uninitialized : NativeException :=
  .databaseException (ascii "Session handle is not initialized.")

/-- `database_exception_code(sqlite3_errmsg(handle(con)), rc)`. -/
def thrown (connections : Connections) (con : Nat) (answer : NativeAnswer) (rc : ResultCode) :
    NativeException :=
  match connections.handle con with
  | .error closed => closed
  -- SQLite has a message for every error of an open connection
  | .ok _ => .databaseExceptionCode (answer.errmsg.getD []) rc

/-- The data of SQLite are freed in any case. -/
def takeBuffer (rc : ResultCode) (answer : NativeAnswer) : Except NativeException (List UInt8) :=
  if rc ≠ .ok then
    .error (.databaseException
      (answer.errmsg.getD (ascii "Failed to collect session changes.")))
  else .ok answer.data

section Members
variable {api : SessionApi}

/-- An object that another one was moved from, or that was destroyed. -/
def empty : ChangeSession api :=
  ⟨none, none, fun impossible => (by cases impossible), fun impossible => (by cases impossible)⟩

/-- `delete` on the handle, if there is one. -/
def destroyHandle (session : ChangeSession api) (natives : Natives) : Natives :=
  match session.handle with
  | none => natives
  | some handle => if api.destroyFn then natives.record [.sessionDelete handle] else natives

/-- The constructor. -/
def construct (connections : Connections) (con : Nat) (schema : Text) (indirect : Bool)
    (answer : NativeAnswer) (natives : Natives) :
    Natives × Except NativeException (ChangeSession api) :=
  if supported : api.supported = true then
    let normalized := Images.normalizeSchema schema
    match connections.handle con with
    | .error closed => (natives, .error closed)
    | .ok db =>
        let (called, rc, raw) :=
          if api.createFn then natives.make (.sessionCreate db (cString normalized)) answer.rc
          else (natives, sqliteError, none)
        if rc ≠ .ok then (called, .error (thrown connections con answer rc))
        else
          (if indirect then called.record (raw.toList.map fun handle =>
              .sessionIndirect handle true) else called,
            .ok ⟨some con, raw, fun _ => supported, fun _ => rfl⟩)
  else (natives, .error unavailable)

/-- The destructor. -/
def destroy (session : ChangeSession api) (natives : Natives) : ChangeSession api × Natives :=
  (empty, session.destroyHandle natives)

/-- The move constructor, and what it leaves in the other object. -/
def moveConstruct (other : ChangeSession api) : ChangeSession api × ChangeSession api :=
  (⟨other.con, other.handle, other.equipped, other.attached⟩, empty)

/-- The move assignment; `self` if the other object is the same one. -/
def moveAssign (self : Bool) (this other : ChangeSession api) (natives : Natives) :
    ChangeSession api × ChangeSession api × Natives :=
  if !self then
    (⟨other.con, other.handle, other.equipped, other.attached⟩, empty,
      this.destroyHandle natives)
  else (this, other, natives)

/-- The tests at the head of the other members: the handle, and what `con_` points to. -/
def ensureHandle (session : ChangeSession api) : Except NativeException (NativeHandle × Nat) :=
  if !api.supported then .error unavailable
  else
    match owned : session.handle with
    | none => .error uninitialized
    | some handle => .ok (handle, session.con.get (session.attached (by rw [owned]; rfl)))

def attach (session : ChangeSession api) (connections : Connections) (table : Text)
    (answer : NativeAnswer) (natives : Natives) : Natives × Except NativeException Unit :=
  match session.ensureHandle with
  | .error missing => (natives, .error missing)
  | .ok (handle, con) =>
      let owned := if table.isEmpty then none else some (cString table)
      let (called, rc) :=
        if api.attachFn then (natives.record [.sessionAttach handle owned], answer.rc)
        else (natives, sqliteError)
      if rc ≠ .ok then (called, .error (thrown connections con answer rc)) else (called, .ok ())

def attachAll (session : ChangeSession api) (connections : Connections) (answer : NativeAnswer)
    (natives : Natives) : Natives × Except NativeException Unit :=
  session.attach connections [] answer natives

/-- `enable` and `set_indirect`. -/
def setFlag (call : NativeHandle → Bool → NativeCall) (session : ChangeSession api)
    (value : Bool) (natives : Natives) : Natives × Except NativeException Unit :=
  match session.ensureHandle with
  | .error missing => (natives, .error missing)
  | .ok (handle, _) => (natives.record [call handle value], .ok ())

def enable (session : ChangeSession api) (value : Bool) (natives : Natives) :
    Natives × Except NativeException Unit := session.setFlag .sessionEnable value natives

def setIndirect (session : ChangeSession api) (value : Bool) (natives : Natives) :
    Natives × Except NativeException Unit := session.setFlag .sessionIndirect value natives

def collect (session : ChangeSession api) (connections : Connections) (patchset : Bool)
    (answer : NativeAnswer) (natives : Natives) :
    Natives × Except NativeException (List UInt8) :=
  match session.ensureHandle with
  | .error missing => (natives, .error missing)
  | .ok (handle, con) =>
      let (called, rc) :=
        if patchset then
          if api.patchsetFn then (natives.record [.sessionPatchset handle], answer.rc)
          else (natives, sqliteError)
        else if api.changesetFn then (natives.record [.sessionChangeset handle], answer.rc)
        else (natives, sqliteError)
      match connections.handle con with
      | .error closed => (called, .error closed)
      | .ok _ => (called, takeBuffer rc answer)

def changeset (session : ChangeSession api) (connections : Connections) (answer : NativeAnswer)
    (natives : Natives) : Natives × Except NativeException (List UInt8) :=
  session.collect connections false answer natives

def patchset (session : ChangeSession api) (connections : Connections) (answer : NativeAnswer)
    (natives : Natives) : Natives × Except NativeException (List UInt8) :=
  session.collect connections true answer natives

/-! ## What happens to the handle -/

theorem destroyFn_of_handle (session : ChangeSession api) {handle : NativeHandle}
    (owned : session.handle = some handle) : api.destroyFn = true := by
  have supported := session.equipped (by rw [owned]; rfl)
  simp only [SessionApi.supported, Bool.and_eq_true] at supported
  exact supported.1.1.1.1.1.1.2

theorem destroyHandle_eq (session : ChangeSession api) (natives : Natives) :
    session.destroyHandle natives =
      natives.record (session.handle.toList.map NativeCall.sessionDelete) := by
  unfold destroyHandle
  split
  · rename_i nothing
    rw [nothing]
    rfl
  · rename_i handle owned
    rw [if_pos (session.destroyFn_of_handle owned), owned]
    rfl

theorem moveAssign_other (this other : ChangeSession api) (natives : Natives) :
    moveAssign false this other natives =
      (⟨other.con, other.handle, other.equipped, other.attached⟩, empty,
        natives.record (this.handle.toList.map NativeCall.sessionDelete)) := by
  rw [← this.destroyHandle_eq]
  rfl

theorem ensureHandle_handle (session : ChangeSession api) (handle : NativeHandle) (con : Nat)
    (ensured : session.ensureHandle = .ok (handle, con)) : session.handle = some handle := by
  unfold ensureHandle at ensured
  split at ensured
  · cases ensured
  · split at ensured
    · cases ensured
    · rename_i found owned
      cases ensured
      exact owned

theorem construct_created (connections : Connections) (con : Nat) (schema : Text)
    (indirect : Bool) (answer : NativeAnswer) (natives : Natives) :
    natives.Created ChangeSession.handle
      (@construct api connections con schema indirect answer natives) := by
  by_cases supported : api.supported = true
  · rw [construct, dif_pos supported]
    cases connections.handle con with
    | error thrown => exact .failed [] thrown (Quiet.nil [])
    | ok db =>
        by_cases found : api.createFn = true
        · by_cases ok : answer.rc = .ok
          · simp only [if_pos found, ok, Natives.make_ok]
            cases indirect with
            | false => exact .made _ _ rfl (Natives.quiet_making _ rfl rfl)
            | true =>
                refine .made [.sessionIndirect natives.handles true, .sessionCreate db _] _ rfl ?_
                refine (Natives.quiet_making _ rfl rfl).cons rfl ?_
                intro resource used
                cases used
                exact List.mem_singleton_self _
          · simp only [if_pos found, Natives.make_of_ne _ ok, if_pos ok]
            exact .failed [.sessionCreate db _] _ (Natives.quiet_making [] rfl rfl)
        · simp only [if_neg found]
          exact .failed [] _ (Quiet.nil [])
  · rw [construct, dif_neg supported]
    exact .failed [] _ (Quiet.nil [])

section Asked
variable (session : ChangeSession api) {handle : NativeHandle} {con : Nat}

theorem ensured_asked (ensured : session.ensureHandle = .ok (handle, con)) {call : NativeCall}
    (natives : Natives) (uses : call.uses = some handle) (keeps : call.releases = none) :
    natives.Asked session.handle (natives.record [call]) := by
  rw [session.ensureHandle_handle handle con ensured]
  exact natives.asked_once uses keeps

theorem attach_asked (connections : Connections) (table : Text) (answer : NativeAnswer)
    (natives : Natives) :
    natives.Asked session.handle (session.attach connections table answer natives).1 := by
  have nothing := natives.asked_nothing session.handle
  unfold attach
  cases ensured : session.ensureHandle with
  | error missing => exact nothing
  | ok found =>
      by_cases there : api.attachFn = true
      · simp only [if_pos there, apply_ite Prod.fst, ite_self]
        exact session.ensured_asked ensured natives rfl rfl
      · simp only [if_neg there, apply_ite Prod.fst, ite_self]
        exact nothing

theorem setFlag_asked (call : NativeHandle → Bool → NativeCall) (value : Bool)
    (uses : ∀ handle, (call handle value).uses = some handle)
    (keeps : ∀ handle, (call handle value).releases = none) (natives : Natives) :
    natives.Asked session.handle (session.setFlag call value natives).1 := by
  unfold setFlag
  cases ensured : session.ensureHandle with
  | error missing => exact natives.asked_nothing session.handle
  | ok found => exact session.ensured_asked ensured natives (uses found.1) (keeps found.1)

theorem collect_asked (connections : Connections) (patchset : Bool) (answer : NativeAnswer)
    (natives : Natives) :
    natives.Asked session.handle (session.collect connections patchset answer natives).1 := by
  have nothing := natives.asked_nothing session.handle
  unfold collect
  cases ensured : session.ensureHandle with
  | error missing => exact nothing
  | ok found =>
      have asked : natives.Asked session.handle
          (if patchset then
            if api.patchsetFn then (natives.record [.sessionPatchset found.1], answer.rc)
            else (natives, sqliteError)
          else if api.changesetFn then (natives.record [.sessionChangeset found.1], answer.rc)
          else (natives, sqliteError)).1 := by
        split
        · split
          · exact session.ensured_asked ensured natives rfl rfl
          · exact nothing
        · split
          · exact session.ensured_asked ensured natives rfl rfl
          · exact nothing
      dsimp only
      cases connections.handle found.2 with
      | error closed => exact asked
      | ok db => exact asked

end Asked

end Members
end ChangeSession
end VSQLite
