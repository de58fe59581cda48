import VSQLite.Command.Model

/-!
# The handle of a backup

`backup` owns an `sqlite3_backup` from its constructor on.  What the SQLite functions return
comes from outside; the calls they receive are recorded, oldest first.
-/

set_option autoImplicit false

namespace VSQLite

abbrev BackupHandle := Nat

inductive BackupCall where
  | step (nPage : Int)
  | finish
deriving DecidableEq, Repr

structure Backup where
  pBackup : Option BackupHandle
  calls : List (BackupHandle × BackupCall)
deriving DecidableEq, Repr

/-- What a program does with a backup it has constructed, and the code SQLite returns if it
is asked. -/
inductive BackupOp where
  | step (nPage : Int) (err : ResultCode)
  | finish (err : ResultCode)
deriving DecidableEq, Repr

namespace Backup

/-- `init` is what `sqlite3_backup_init` returns, and `err` the error of the target where that
is the null pointer. -/
def construct (connTo connFrom : Option DbHandle) (init : Option BackupHandle)
    (err : ResultCode) : Except Exception Backup :=
  if connTo.isNone || connFrom.isNone then
    .error (.databaseException (ascii "Database is not open."))
  else
    match init with
    | none => .error (.databaseExceptionCode err [])
    | some handle => .ok ⟨some handle, []⟩

def call (handle : BackupHandle) (made : BackupCall) (backup : Backup) : Backup :=
  { backup with calls := backup.calls ++ [(handle, made)] }

def step (nPage : Int) (err : ResultCode) (backup : Backup) : Backup × Except Exception Bool :=
  match backup.pBackup with
  | none => (backup, .error (.databaseException (ascii "Backup object is already destroyed")))
  | some handle =>
      (backup.call handle (.step nPage),
        match err with
        | .ok => .ok true
        | .done => .ok false
        | err => .error (.databaseExceptionCode err []))

def finish (err : ResultCode) (backup : Backup) : Backup × Except Exception Unit :=
  match backup.pBackup with
  | none => (backup, .ok ())
  | some handle =>
      let called := backup.call handle .finish
      if err = .ok then ({ called with pBackup := none }, .ok ())
      -- the exception leaves before the member is set to null
      else (called, .error (.databaseExceptionCode err []))

/-- The destructor swallows what `finish` throws. -/
def destroy (err : ResultCode) (backup : Backup) : Backup := (backup.finish err).1

/-- The program catches what an operation throws, and goes on. -/
def run : List BackupOp → Backup → Backup
  | [], backup => backup
  | .step nPage err :: rest, backup => run rest (backup.step nPage err).1
  | .finish err :: rest, backup => run rest (backup.finish err).1

/-- A backup object from its constructor to its destructor, and the calls it made. -/
def lifetime (handle : BackupHandle) (ops : List BackupOp) (last : ResultCode) :
    List (BackupHandle × BackupCall) :=
  ((run ops ⟨some handle, []⟩).destroy last).calls

theorem construct_ok (connTo connFrom : Option DbHandle) (init : Option BackupHandle)
    (err : ResultCode) (backup : Backup)
    (constructed : construct connTo connFrom init err = .ok backup) :
    ∃ handle, init = some handle ∧ backup = ⟨some handle, []⟩ := by
  unfold construct at constructed
  split at constructed
  · cases constructed
  · split at constructed
    · cases constructed
    · rename_i handle
      exact ⟨handle, rfl, (Except.ok.inj constructed).symm⟩

end Backup

/-- The handle is finished once, and that is the last SQLite hears of it. -/
def FinishedOnce (handle : BackupHandle) (calls : List (BackupHandle × BackupCall)) : Prop :=
  calls.count (handle, .finish) = 1 ∧ calls.getLast? = some (handle, .finish)

/-- What `sqlite3_backup_finish` returns to the first call of `finish`, if the program does not
leave that to the destructor. -/
def firstFinish : List BackupOp → Option ResultCode
  | [] => none
  | .step _ _ :: rest => firstFinish rest
  | .finish err :: _ => some err

/-- The codes of the steps before it. -/
def stepsBeforeFinish : List BackupOp → List ResultCode
  | .step _ err :: rest => err :: stepsBeforeFinish rest
  | _ => []

def ResultCode.failsStep (err : ResultCode) : Bool := err ≠ .ok && err ≠ .done

/-- SQLite's promise: `sqlite3_backup_finish` reports that a step has failed. -/
def Reported (ops : List BackupOp) : Prop :=
  (∃ err ∈ stepsBeforeFinish ops, err.failsStep = true) → firstFinish ops ≠ some .ok

namespace Backup

/-! ## What the calls come to -/

theorem run_empty (ops : List BackupOp) (backup : Backup) (empty : backup.pBackup = none) :
    run ops backup = backup := by
  induction ops generalizing backup with
  | nil => rfl
  | cons op rest ih =>
      cases op with
      | step nPage err =>
          have same : (backup.step nPage err).1 = backup := by simp only [step, empty]
          simp only [run, same]
          exact ih backup empty
      | finish err =>
          have same : (backup.finish err).1 = backup := by simp only [finish, empty]
          simp only [run, same]
          exact ih backup empty

theorem count_finish_pos (handle : BackupHandle) (ops : List BackupOp) (last : ResultCode)
    (calls : List (BackupHandle × BackupCall)) :
    calls.count (handle, .finish) + 1 ≤
      ((run ops ⟨some handle, calls⟩).destroy last).calls.count (handle, .finish) := by
  induction ops generalizing calls with
  | nil =>
      by_cases clean : last = .ok
      · simp [run, destroy, finish, call, clean]
      · simp [run, destroy, finish, call, clean]
  | cons op rest ih =>
      cases op with
      | step nPage err =>
          have later := ih (calls ++ [(handle, .step nPage)])
          simpa [run, step, call] using later
      | finish err =>
          by_cases clean : err = .ok
          · have stays := run_empty rest ⟨none, calls ++ [(handle, .finish)]⟩ rfl
            simp [run, finish, call, clean, stays, destroy]
          · have later := ih (calls ++ [(handle, .finish)])
            rw [List.count_append] at later
            have one : [(handle, BackupCall.finish)].count (handle, .finish) = 1 := by simp
            simp only [run, finish, call, if_neg clean]
            omega

theorem count_finish_failed (handle : BackupHandle) (ops : List BackupOp) (last : ResultCode)
    (calls : List (BackupHandle × BackupCall)) (err : ResultCode)
    (finishes : firstFinish ops = some err) (failed : err ≠ .ok) :
    calls.count (handle, .finish) + 2 ≤
      ((run ops ⟨some handle, calls⟩).destroy last).calls.count (handle, .finish) := by
  induction ops generalizing calls with
  | nil => cases finishes
  | cons op rest ih =>
      cases op with
      | step nPage code =>
          have later := ih (calls ++ [(handle, .step nPage)]) finishes
          simpa [run, step, call] using later
      | finish code =>
          cases Option.some.inj finishes
          have again := count_finish_pos handle rest last (calls ++ [(handle, .finish)])
          rw [List.count_append] at again
          have one : [(handle, BackupCall.finish)].count (handle, .finish) = 1 := by simp
          simp only [run, finish, call, if_neg failed]
          omega

theorem calls_finish_clean (handle : BackupHandle) (ops : List BackupOp) (last : ResultCode)
    (calls : List (BackupHandle × BackupCall))
    (clean : ∀ err, firstFinish ops = some err → err = .ok) :
    ∃ steps, ((run ops ⟨some handle, calls⟩).destroy last).calls =
      calls ++ steps ++ [(handle, .finish)] ∧ steps.count (handle, .finish) = 0 := by
  induction ops generalizing calls with
  | nil =>
      refine ⟨[], ?_, rfl⟩
      by_cases ended : last = .ok
      · simp [run, destroy, finish, call, ended]
      · simp [run, destroy, finish, call, ended]
  | cons op rest ih =>
      cases op with
      | step nPage err =>
          obtain ⟨steps, made, none⟩ := ih (calls ++ [(handle, .step nPage)]) clean
          refine ⟨(handle, .step nPage) :: steps, ?_, ?_⟩
          · simpa [run, step, call] using made
          · rw [List.count_cons, none]
            simp
      | finish err =>
          have ended : err = .ok := clean err rfl
          have stays := run_empty rest ⟨none, calls ++ [(handle, .finish)]⟩ rfl
          refine ⟨[], ?_, rfl⟩
          simp [run, finish, call, ended, stays, destroy]

/-- The handle is finished exactly once, and not touched again, exactly when the first call of
`finish`, if there is one, does not fail. -/
theorem finished_once_iff (handle : BackupHandle) (ops : List BackupOp) (last : ResultCode) :
    FinishedOnce handle (lifetime handle ops last) ↔
      ∀ err, firstFinish ops = some err → err = .ok := by
  constructor
  · rintro ⟨once, _⟩ err finishes
    by_contra failed
    have twice := count_finish_failed handle ops last [] err finishes failed
    rw [lifetime] at once
    simp only [List.count_nil] at twice
    omega
  · intro clean
    obtain ⟨steps, made, none⟩ := calls_finish_clean handle ops last [] clean
    rw [FinishedOnce, lifetime, made]
    refine ⟨?_, List.getLast?_concat ..⟩
    rw [List.count_append, List.count_append, none]
    simp

/-- Where SQLite keeps its promise, a step that fails makes the first `finish` fail. -/
theorem firstFinish_of_failed_step (ops : List BackupOp) (reported : Reported ops)
    (failing : ∃ err ∈ stepsBeforeFinish ops, err.failsStep = true) (err : ResultCode)
    (finishes : firstFinish ops = some err) : err ≠ .ok := by
  intro clean
  rw [clean] at finishes
  exact reported failing finishes

/-- The disk is full in the middle of the copy: a step fails, and `finish` reports it. -/
def fullDisk : List BackupOp := [.step 5 .ok, .step 5 (.error 13), .finish (.error 13)]

/-- The destructor finishes the handle again. -/
theorem full_disk_finishes_twice :
    Reported fullDisk ∧
      lifetime 0 fullDisk .ok = [(0, .step 5), (0, .step 5), (0, .finish), (0, .finish)] ∧
      ¬FinishedOnce 0 (lifetime 0 fullDisk .ok) := by
  refine ⟨fun _ same => (by cases same), by decide, ?_⟩
  rintro ⟨once, _⟩
  revert once
  decide

end Backup
end VSQLite
