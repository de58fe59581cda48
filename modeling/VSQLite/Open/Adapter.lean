import VSQLite.Open.Validation

/-!
# What opening a database reveals of the real file system

`connection::open` is given an adapter through which it looks at the file system.  Two runs
with the same adapter are compared: whether the path exists is asked without the adapter.
-/

set_option autoImplicit false

namespace VSQLite
open Lib

/-- `filesystem_adapter`: its answers, which may depend on its calls so far. -/
structure Adapter where
  status : List (Program.Exchange OsRequest.Answer) → Text → Entry
  remove : List (Program.Exchange OsRequest.Answer) → Text → Bool × Option ErrorCode

def OsRequest.ofAdapter : OsRequest → Bool
  | .status _ => true
  | .remove _ => true
  | _ => false

/-- The real file system, and whether it refuses to be asked. -/
structure Disk where
  files : FileSystem
  refused : Option Refusal

namespace Disk

def empty : Disk := ⟨⟨fun _ => .absent, 0, by simp⟩, none⟩

def holding (db : Text) : Disk := ⟨empty.files.createFile db, none⟩

def unreadable : Disk := ⟨empty.files, some ⟨13, by decide⟩⟩

theorem empty_isPresent (db : Text) : empty.files.isPresent db empty.refused = (false, none) :=
  rfl

theorem holding_isPresent (db : Text) :
    (holding db).files.isPresent db (holding db).refused = (true, none) := by
  simp [holding, FileSystem.isPresent, FileSystem.follow, FileSystem.createFile, FileSystem.place]

end Disk

/-- The answer of SQLite to `sqlite3_open_v2`. -/
abbrev OpenAnswer : Type := Text → OpenFlags → Except ResultCode (Option Nat)

def environment (adapter : Adapter) (sqlite : OpenAnswer) (disk : Disk) : Environment
  | past, .status target => adapter.status (past.filter fun exchange => exchange.1.ofAdapter) target
  | past, .remove target => adapter.remove (past.filter fun exchange => exchange.1.ofAdapter) target
  | _, .isPresent target => disk.files.isPresent target disk.refused
  | _, .openV2 db flags => sqlite db flags

def removedTarget : Program.Exchange OsRequest.Answer → Option Text
  | ⟨.remove target, _⟩ => some target
  | _ => none

def openedFlags : Program.Exchange OsRequest.Answer → Option OpenFlags
  | ⟨.openV2 _ flags, _⟩ => some flags
  | _ => none

structure Observation where
  outcome : Except Exception (Option Nat)
  removed : List Text
  flags : List OpenFlags

section Observe
variable (followSymlinks : Bool) (db : Text) (mode : OpenMode) (adapter : Adapter)
  (sqlite : OpenAnswer)

/-- How a call of `open` ends, what it has the adapter remove, and the flags it hands to
SQLite. -/
def observeOpen (disk : Disk) : Observation :=
  let run := (connectionOpen followSymlinks db mode).exec (environment adapter sqlite disk) []
  ⟨run.1, run.2.filterMap removedTarget, run.2.filterMap openedFlags⟩

/-- What the adapter is asked about the directory of the database. -/
def Adapter.parentSeen : List (Program.Exchange OsRequest.Answer) :=
  if parentPath db = [] then []
  else [⟨.status (parentPath db), adapter.status [] (parentPath db)⟩]

/-- The answers of the adapter make `validate_db_path` throw. -/
def Adapter.Refuses (requireExists : Bool) : Prop :=
  db = [] ∨ (parentPath db ≠ [] ∧ (adapter.status [] (parentPath db)).noDirectory) ∨
    (adapter.status (adapter.parentSeen db) db).noDatabase requireExists

theorem parentSeen_environment (disk : Disk) :
    VSQLite.parentSeen (environment adapter sqlite disk) db = adapter.parentSeen db := rfl

theorem databaseEntry_environment (disk : Disk) :
    databaseEntry (environment adapter sqlite disk) db =
      adapter.status (adapter.parentSeen db) db := by
  unfold databaseEntry
  rw [parentSeen_environment]
  change adapter.status ((adapter.parentSeen db).filter _) db = _
  congr 1
  unfold Adapter.parentSeen
  split <;> rfl

theorem refusesPath_environment (disk : Disk) (requireExists : Bool) :
    RefusesPath (environment adapter sqlite disk) db requireExists ↔
      adapter.Refuses db requireExists := by
  unfold RefusesPath Adapter.Refuses
  rw [databaseEntry_environment]
  rfl

/-- The requests that are answered without a look at the real file system. -/
def OsRequest.Virtual : OsRequest → Prop
  | .isPresent _ => False
  | _ => True

theorem environment_virtual (first second : Disk) (past : List (Program.Exchange OsRequest.Answer))
    (request : OsRequest) (asked : request.Virtual) :
    environment adapter sqlite first past request =
      environment adapter sqlite second past request := by
  cases request with
  | status target => rfl
  | isPresent target => exact asked.elim
  | remove target => rfl
  | openV2 name flags => rfl

theorem openInMode_special_virtual :
    (openInMode followSymlinks db true false mode).Asks OsRequest.Virtual := by
  have opens : ∀ flags, (openWithFlags db flags).Asks OsRequest.Virtual := by
    intro flags
    refine ⟨trivial, fun opened => ?_⟩
    cases opened <;> exact trivial
  cases mode with
  | openReadonly => exact opens _
  | openExisting => exact opens _
  | openOrCreate => exact opens _
  | alwaysCreate => exact opens _

theorem validateDbPath_virtual (requireExists : Bool) :
    (validateDbPath db requireExists).Asks OsRequest.Virtual := by
  apply Program.Asks.mono _ _ (validateDbPath_asks db requireExists)
  intro request status
  cases request with
  | isPresent target => exact status.elim
  | status target => exact trivial
  | remove target => exact trivial
  | openV2 name flags => exact trivial

theorem observeOpen_special (special : isSpecialDatabase db = true) (first second : Disk) :
    observeOpen followSymlinks db mode adapter sqlite first =
      observeOpen followSymlinks db mode adapter sqlite second := by
  unfold observeOpen
  rw [connectionOpen_special followSymlinks db mode special,
    Program.exec_congr _ _ OsRequest.Virtual (environment_virtual adapter sqlite first second) _ []
      (openInMode_special_virtual followSymlinks db mode)]

theorem observeOpen_refused (ordinary : isSpecialDatabase db = false)
    (refused : adapter.Refuses db (mode = .openExisting || mode = .openReadonly))
    (first second : Disk) :
    observeOpen followSymlinks db mode adapter sqlite first =
      observeOpen followSymlinks db mode adapter sqlite second := by
  have same := Program.exec_congr _ _ OsRequest.Virtual
    (environment_virtual adapter sqlite first second) _ []
    (validateDbPath_virtual db (mode = .openExisting || mode = .openReadonly))
  obtain ⟨failure, seen, thrown⟩ := validateDbPath_refuses (environment adapter sqlite second) db _
    ordinary ((refusesPath_environment db adapter sqlite second _).mpr refused)
  unfold observeOpen
  rw [connectionOpen_ordinary followSymlinks db mode ordinary, Program.exec_bind,
    Program.exec_bind, same, thrown]

theorem parentSeen_flags : (adapter.parentSeen db).filterMap openedFlags = [] := by
  unfold Adapter.parentSeen
  split <;> rfl

theorem observeOpen_flags (ordinary : isSpecialDatabase db = false)
    (allowed : ¬adapter.Refuses db (mode = .openExisting || mode = .openReadonly)) (disk : Disk) :
    ∃ past, past.filterMap openedFlags = [] ∧
      (observeOpen followSymlinks db mode adapter sqlite disk).flags =
        ((openChecked followSymlinks db mode (disk.files.isPresent db disk.refused)).exec
          (environment adapter sqlite disk) past).2.filterMap openedFlags := by
  have passed := validateDbPath_passes (environment adapter sqlite disk) db _ ordinary
    fun refused => allowed ((refusesPath_environment db adapter sqlite disk _).mp refused)
  rw [parentSeen_environment] at passed
  refine ⟨adapter.parentSeen db ++
    [⟨.status db, databaseEntry (environment adapter sqlite disk) db⟩] ++
    [⟨.isPresent db, disk.files.isPresent db disk.refused⟩], ?_, ?_⟩
  · rw [List.filterMap_append, List.filterMap_append, parentSeen_flags]
    rfl
  · unfold observeOpen
    rw [connectionOpen_ordinary followSymlinks db mode ordinary, Program.exec_bind, passed]
    rfl

theorem openChecked_opens :
    ∃ flags, openChecked followSymlinks db mode (mode ≠ .alwaysCreate, none) =
      openWithFlags db flags := by
  cases mode with
  | openReadonly => exact ⟨_, rfl⟩
  | openExisting => exact ⟨_, rfl⟩
  | openOrCreate => exact ⟨_, rfl⟩
  | alwaysCreate => exact ⟨_, rfl⟩

theorem openWithFlags_asked (oracle : Environment) (flags : OpenFlags)
    (past : List (Program.Exchange OsRequest.Answer)) :
    ((openWithFlags db flags).exec oracle past).2 =
      past ++ [⟨.openV2 db flags, oracle past (.openV2 db flags)⟩] := by
  dsimp only [openWithFlags, Bind.bind, Program.bind, Program.request, Program.exec]
  generalize oracle past (.openV2 db flags) = opened
  cases opened with
  | ok file => rfl
  | error code => rfl

theorem flags_unreadable (ordinary : isSpecialDatabase db = false)
    (allowed : ¬adapter.Refuses db (mode = .openExisting || mode = .openReadonly)) :
    (observeOpen followSymlinks db mode adapter sqlite .unreadable).flags = [] := by
  obtain ⟨past, quiet, flags⟩ :=
    observeOpen_flags followSymlinks db mode adapter sqlite ordinary allowed .unreadable
  rw [flags]
  exact quiet

theorem flags_answered (ordinary : isSpecialDatabase db = false)
    (allowed : ¬adapter.Refuses db (mode = .openExisting || mode = .openReadonly)) (disk : Disk)
    (answered : disk.files.isPresent db disk.refused = (decide (mode ≠ .alwaysCreate), none)) :
    (observeOpen followSymlinks db mode adapter sqlite disk).flags ≠ [] := by
  obtain ⟨past, quiet, flags⟩ :=
    observeOpen_flags followSymlinks db mode adapter sqlite ordinary allowed disk
  obtain ⟨chosen, opens⟩ := openChecked_opens followSymlinks db mode
  rw [flags, answered, opens, openWithFlags_asked, List.filterMap_append, quiet]
  simp [openedFlags]

/-- The adapter alone decides what happens: the name is not looked up, or the check of its
path fails. -/
def Sealed : Prop :=
  isSpecialDatabase db = true ∨
    adapter.Refuses db (mode = .openExisting || mode = .openReadonly)

end Observe

/-- A disk about which `open` asks whether the path exists, and is told what lets it go on. -/
def telling (db : Text) : OpenMode → Disk
  | .alwaysCreate => .empty
  | _ => .holding db

theorem telling_isPresent (db : Text) (mode : OpenMode) :
    (telling db mode).files.isPresent db (telling db mode).refused =
      (decide (mode ≠ .alwaysCreate), none) := by
  cases mode with
  | openReadonly => exact Disk.holding_isPresent db
  | openExisting => exact Disk.holding_isPresent db
  | openOrCreate => exact Disk.holding_isPresent db
  | alwaysCreate => exact Disk.empty_isPresent db

/-- Two runs with one adapter are alike on all real file systems exactly if the adapter
alone decides. -/
theorem open_sees_adapter_iff (followSymlinks : Bool) (db : Text) (mode : OpenMode)
    (adapter : Adapter) (sqlite : OpenAnswer) :
    (∀ first second : Disk,
      observeOpen followSymlinks db mode adapter sqlite first =
        observeOpen followSymlinks db mode adapter sqlite second) ↔
      Sealed db mode adapter := by
  constructor
  · intro alike
    by_contra exposed
    obtain ⟨ordinary, allowed⟩ := not_or.mp exposed
    have plain : isSpecialDatabase db = false := Bool.eq_false_iff.mpr ordinary
    have same := congrArg Observation.flags (alike (telling db mode) .unreadable)
    rw [flags_unreadable followSymlinks db mode adapter sqlite plain allowed] at same
    exact flags_answered followSymlinks db mode adapter sqlite plain allowed (telling db mode)
      (telling_isPresent db mode) same
  · rintro (special | refused) first second
    · exact observeOpen_special followSymlinks db mode adapter sqlite special first second
    · cases special : isSpecialDatabase db with
      | true => exact observeOpen_special followSymlinks db mode adapter sqlite special first second
      | false =>
          exact observeOpen_refused followSymlinks db mode adapter sqlite special refused first
            second

/-- An adapter with a file of its own at every path. -/
def virtualFiles : Adapter := ⟨fun _ _ => ⟨.regular, none⟩, fun _ _ => (true, none)⟩

/-- The virtual file is opened only if there is a real file of that name. -/
theorem virtual_file_needs_real_file :
    ¬∀ first second : Disk,
      observeOpen false (ascii "a.db") .openExisting virtualFiles (fun _ _ => .ok (some 0)) first =
        observeOpen false (ascii "a.db") .openExisting virtualFiles (fun _ _ => .ok (some 0))
          second := by
  intro alike
  have same := congrArg Observation.flags (alike .empty (.holding (ascii "a.db")))
  have missing : (observeOpen false (ascii "a.db") .openExisting virtualFiles
      (fun _ _ => .ok (some 0)) .empty).flags = [] := by rfl
  have found : (observeOpen false (ascii "a.db") .openExisting virtualFiles
      (fun _ _ => .ok (some 0)) (.holding (ascii "a.db"))).flags =
        [makeOpenFlags false false false] := by rfl
  rw [missing, found] at same
  cases same

end VSQLite
