import VSQLite.Threading.Model

/-!
# The mode that is reported

`configured_mode` is stored after SQLite was told, so that the two can part: SQLite takes the
mode, and then does not initialize.
-/

set_option autoImplicit false

namespace VSQLite
open Lib

namespace Threading

/-- While no call is at work, `current_threading_mode` tells the mode SQLite works in. -/
def Reported (threading : Threading) : Prop :=
  threading.inside = none → threading.currentThreadingMode = threading.library.mode

/-- A call whose initialization fails asked for the mode that is stored. -/
def InitializesNew (threading : Threading) : ThreadingAction → Prop
  | .proceed rc =>
      ∀ mode, threading.inside = some (mode, .initializing) →
        (sqlite3Initialize rc threading.library).1 ≠ .ok → threading.configuredMode = mode
  | _ => True

/-- What a call at the phase leaves to be stored. -/
def ConfigurePhase.Pending (threading : Threading) (mode : ThreadingMode) : ConfigurePhase → Prop
  | .initializing => threading.library.mode = mode
  | .storing => threading.library.mode = mode
  | _ => threading.configuredMode = threading.library.mode

def Pending (threading : Threading) : Prop :=
  match threading.inside with
  | none => threading.configuredMode = threading.library.mode
  | some (mode, phase) => ConfigurePhase.Pending threading mode phase

theorem Pending.reported {threading : Threading} (pending : threading.Pending) :
    threading.Reported := by
  intro free
  rw [Pending, free] at pending
  exact pending

section Steps
variable {build : Build} {threading : Threading}

theorem pending_of_inside {mode : ThreadingMode} {phase : ConfigurePhase}
    (inside : threading.inside = some (mode, phase)) (pending : threading.Pending) :
    ConfigurePhase.Pending threading mode phase := by
  rw [Pending, inside] at pending
  exact pending

/-- A piece of a call, unless it is an initialization that fails. -/
theorem pending_proceed (rc : ResultCode) (mode : ThreadingMode) (phase : ConfigurePhase)
    (pending : ConfigurePhase.Pending threading mode phase)
    (new : phase = .initializing → (sqlite3Initialize rc threading.library).1 ≠ .ok →
      threading.configuredMode = mode) :
    (threading.configureThreading build rc mode phase).Pending := by
  cases phase with
  | testing =>
      simp only [configureThreading]
      split
      · exact pending
      · exact pending
  | shuttingDown => exact pending
  | configuring =>
      simp only [configureThreading]
      split
      · rename_i accepted
        exact sqlite3Config_ok build mode _ accepted
      · rename_i refused
        have same : (sqlite3Config build mode threading.library).2 = threading.library := by
          revert refused
          unfold sqlite3Config
          split
          · intro _
            rfl
          · split
            · intro accepted
              exact absurd rfl accepted
            · intro _
              rfl
        rw [same]
        exact pending
  | recovering => exact pending.trans (sqlite3Initialize_mode rc threading.library).symm
  | initializing =>
      have unchanged := sqlite3Initialize_mode rc threading.library
      simp only [configureThreading]
      split
      · exact unchanged.trans pending
      · rename_i failed
        exact (new rfl failed).trans (unchanged.trans pending).symm
  | storing =>
      have told : threading.library.mode = mode := pending
      exact told.symm
  | locking => exact pending

theorem pending_step (action : ThreadingAction) (next : Threading) (pending : threading.Pending)
    (new : threading.InitializesNew action) (taken : threading.step build action = some next) :
    next.Pending := by
  cases action with
  | enter mode =>
      simp only [step] at taken
      split at taken
      · rename_i free
        rw [Pending, free] at pending
        cases taken
        exact pending
      · cases taken
  | proceed rc =>
      simp only [step] at taken
      split at taken
      · cases taken
      · rename_i mode phase inside
        cases taken
        refine pending_proceed rc mode phase (pending_of_inside inside pending) ?_
        intro initializing
        subst initializing
        exact new mode inside
  | currentThreadingMode =>
      cases taken
      exact pending
  | connect rc =>
      cases taken
      have unchanged := sqlite3Initialize_mode rc threading.library
      unfold Pending at pending ⊢
      cases inside : threading.inside with
      | none =>
          simp only [inside] at pending ⊢
          exact pending.trans unchanged.symm
      | some call =>
          obtain ⟨mode, phase⟩ := call
          simp only [inside] at pending ⊢
          cases phase with
          | initializing => exact unchanged.trans pending
          | storing => exact unchanged.trans pending
          | _ => exact pending.trans unchanged.symm

theorem unreported_step (action : ThreadingAction) (next : Threading)
    (pending : threading.Pending) (old : ¬threading.InitializesNew action)
    (taken : threading.step build action = some next) : ¬next.Reported := by
  intro reported
  cases action with
  | proceed rc =>
      apply old
      intro mode inside failed
      have told : threading.library.mode = mode := pending_of_inside inside pending
      simp only [step, inside, configureThreading, if_neg failed] at taken
      cases taken
      have stored := reported rfl
      rw [← told]
      exact stored.trans (sqlite3Initialize_mode rc threading.library)
  | _ => exact old trivial

end Steps

/-- Between calls `current_threading_mode` always tells the mode SQLite works in exactly when
the build's own mode is the serialized one, and no initialization fails for another mode than
the one that is stored. -/
theorem mode_reported_iff (build : Build) (actions : List ThreadingAction) :
    EveryState (step build) Reported actions (initial build) ↔
      build.defaultMode = .serialized ∧
        EveryStep (step build) InitializesNew actions (initial build) := by
  by_cases serialized : build.defaultMode = .serialized
  · rw [everyState_iff_of_carried (step build) Pending Reported InitializesNew
      (fun _ pending => pending.reported)
      (fun _ action next pending new taken => pending_step action next pending new taken)
      (fun _ action next pending old taken => unreported_step action next pending old taken)
      actions (initial build) serialized.symm]
    exact (and_iff_right serialized).symm
  · constructor
    · intro all
      have reported := everyState_head (step build) Reported actions (initial build) all rfl
      exact absurd reported.symm serialized
    · rintro ⟨same, _⟩
      exact absurd same serialized

/-- SQLite takes the multi-threaded mode but does not initialize, and a connection that is opened
afterwards works in it. -/
theorem failed_initialization_unreported :
    ∃ threading, exec (step threadSafe1) [.enter .multiThread, .proceed .ok, .proceed .ok,
        .proceed .ok, .proceed (.error 7), .connect .ok] (initial threadSafe1) = some threading ∧
      threading.history = [.returned .multiThread false] ∧
      threading.library = ⟨.multiThread, true⟩ ∧
      threading.currentThreadingMode = .serialized :=
  ⟨_, rfl, rfl, rfl, rfl⟩

end Threading
end VSQLite
