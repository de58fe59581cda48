import VSQLite.Lib.Run
import VSQLite.Sqlite.Statement

/-!
# Choosing SQLite's threading mode

`configure_threading` works under a mutex, and stops at each call it makes of SQLite.  Between
two of these other threads read the mode, and open connections, for which SQLite initializes
itself.
-/

set_option autoImplicit false

namespace VSQLite
open Lib

inductive ThreadingMode where
  | singleThread
  | multiThread
  | serialized
deriving DecidableEq, Repr

/-! ## SQLite's global configuration -/

/-- `SQLITE_THREADSAFE`: the mode SQLite starts in, and whether it knows another one. -/
structure Build where
  defaultMode : ThreadingMode
  threadSafe : Bool
deriving DecidableEq, Repr

def threadSafe1 : Build := ⟨.serialized, true⟩

structure Library where
  mode : ThreadingMode
  initialized : Bool
deriving DecidableEq, Repr

def sqlite3Shutdown (library : Library) : Library := { library with initialized := false }

/-- `sqlite3_config` with the flag of a mode. -/
def sqlite3Config (build : Build) (flag : ThreadingMode) (library : Library) :
    ResultCode × Library :=
  if library.initialized then (.misuse, library)
  else if build.threadSafe then (.ok, { library with mode := flag })
  else (.error 1, library)

/-- `rc` is what the initialization comes to, where there is something to initialize. -/
def sqlite3Initialize (rc : ResultCode) (library : Library) : ResultCode × Library :=
  if library.initialized then (.ok, library)
  else (rc, { library with initialized := rc = .ok })

/-! ## `configure_threading` -/

/-- What a call that has the mutex does next. -/
inductive ConfigurePhase where
  | testing
  | shuttingDown
  | configuring
  | recovering
  | initializing
  | storing
  | locking
deriving DecidableEq, Repr

inductive ThreadingEvent where
  | returned (mode : ThreadingMode) (result : Bool)
  | read (mode : ThreadingMode)
deriving DecidableEq, Repr

/-- The variables of `threading.cpp`, the call that has `threading_mutex`, and what calls have
returned and readers have seen, the oldest first. -/
structure Threading where
  library : Library
  configuredMode : ThreadingMode
  threadingLocked : Bool
  inside : Option (ThreadingMode × ConfigurePhase)
  history : List ThreadingEvent
deriving DecidableEq, Repr

inductive ThreadingAction where
  | enter (mode : ThreadingMode)
  | proceed (rc : ResultCode)
  | currentThreadingMode
  | connect (rc : ResultCode)
deriving DecidableEq, Repr

namespace Threading

def initial (build : Build) : Threading :=
  ⟨⟨build.defaultMode, false⟩, .serialized, false, none, []⟩

def go (mode : ThreadingMode) (phase : ConfigurePhase) (threading : Threading) : Threading :=
  { threading with inside := some (mode, phase) }

def finish (mode : ThreadingMode) (result : Bool) (threading : Threading) : Threading :=
  { threading with inside := none, history := threading.history ++ [.returned mode result] }

def currentThreadingMode (threading : Threading) : ThreadingMode := threading.configuredMode

/-- The next piece of `configure_threading(mode)`. -/
def configureThreading (build : Build) (rc : ResultCode) (mode : ThreadingMode)
    (threading : Threading) : ConfigurePhase → Threading
  | .testing =>
      if threading.threadingLocked then threading.finish mode (threading.configuredMode = mode)
      else threading.go mode .shuttingDown
  | .shuttingDown =>
      { threading with library := sqlite3Shutdown threading.library }.go mode .configuring
  | .configuring =>
      let called := sqlite3Config build mode threading.library
      if called.1 = .ok then { threading with library := called.2 }.go mode .initializing
      else { threading with library := called.2 }.go mode .recovering
  | .recovering =>
      { threading with library := (sqlite3Initialize rc threading.library).2 }.finish mode false
  | .initializing =>
      let called := sqlite3Initialize rc threading.library
      if called.1 = .ok then { threading with library := called.2 }.go mode .storing
      else { threading with library := called.2 }.finish mode false
  | .storing => { threading with configuredMode := mode }.go mode .locking
  | .locking => { threading with threadingLocked := true }.finish mode true

def step (build : Build) (threading : Threading) : ThreadingAction → Option Threading
  | .enter mode =>
      match threading.inside with
      | none => some (threading.go mode .testing)
      | some _ => none
  | .proceed rc =>
      match threading.inside with
      | none => none
      | some (mode, phase) => some (threading.configureThreading build rc mode phase)
  | .currentThreadingMode =>
      some { threading with
        history := threading.history ++ [.read threading.currentThreadingMode] }
  | .connect rc =>
      some { threading with library := (sqlite3Initialize rc threading.library).2 }

end Threading

theorem sqlite3Initialize_mode (rc : ResultCode) (library : Library) :
    (sqlite3Initialize rc library).2.mode = library.mode := by
  unfold sqlite3Initialize
  split <;> rfl

theorem sqlite3Initialize_ok (rc : ResultCode) (library : Library)
    (done : (sqlite3Initialize rc library).1 = .ok) :
    (sqlite3Initialize rc library).2 = ⟨library.mode, true⟩ := by
  obtain ⟨mode, initialized⟩ := library
  cases initialized with
  | true => rfl
  | false =>
      have accepted : rc = .ok := done
      subst accepted
      rfl

theorem sqlite3Config_ok (build : Build) (flag : ThreadingMode) (library : Library)
    (done : (sqlite3Config build flag library).1 = .ok) :
    (sqlite3Config build flag library).2.mode = flag := by
  revert done
  unfold sqlite3Config
  split
  · intro done
    cases done
  · split
    · intro _
      rfl
    · intro done
      cases done

end VSQLite
