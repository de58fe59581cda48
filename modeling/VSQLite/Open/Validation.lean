import VSQLite.Open.Model

/-!
# What the check of a path asks and when it passes

The check asks for the status of the directory and of the path itself, and nothing else.
What it makes of the answers is said here once.
-/

set_option autoImplicit false

namespace VSQLite
open Lib

/-- What answers the requests of a connection; it knows the exchanges so far. -/
abbrev Environment : Type :=
  List (Program.Exchange OsRequest.Answer) → (request : OsRequest) → request.Answer

def OsRequest.IsStatus : OsRequest → Prop
  | .status _ => True
  | _ => False

/-- `ensure_parent_directory_safe` throws on such an answer. -/
def Entry.noDirectory (entry : Entry) : Prop := entry.error.isSome ∨ entry.type ≠ .directory

/-- `validate_db_path` throws on such an answer about the database. -/
def Entry.noDatabase (requireExists : Bool) (entry : Entry) : Prop :=
  (entry.error.isSome ∧ errorValue entry.error ≠ enoent) ∨
    (entry.type = .notFound ∧ requireExists = true) ∨
    (entry.type ≠ .notFound ∧ entry.type ≠ .regular)

theorem ensureParentDirectorySafe_asks_once (path originalDb : Text)
    (named : parentPath path ≠ []) :
    ∃ next : Entry → Os Unit,
      ensureParentDirectorySafe path originalDb = .call (.status (parentPath path)) next ∧
        (∀ entry, ¬entry.noDirectory → next entry = .returns ()) ∧
        ∀ entry, entry.noDirectory → ∃ failure, next entry = .throws failure := by
  unfold ensureParentDirectorySafe
  dsimp only
  rw [if_neg (by simpa using named)]
  refine ⟨_, rfl, fun entry safe => ?_, fun entry bad => ?_⟩
  · obtain ⟨answered, isDirectory⟩ := not_or.mp safe
    have directory := not_not.mp isDirectory
    simp [Program.bind, answered, directory]
  · simp only [Program.bind]
    split
    · exact ⟨_, rfl⟩
    · rename_i answered
      split
      · exact ⟨_, rfl⟩
      · rw [if_pos (bad.resolve_left answered)]
        exact ⟨_, rfl⟩

theorem validateEntry_passes (db : Text) (requireExists : Bool) (entry : Entry)
    (safe : ¬entry.noDatabase requireExists) :
    validateEntry db requireExists entry = .returns () := by
  obtain ⟨answered, rest⟩ := not_or.mp safe
  obtain ⟨found, plain⟩ := not_or.mp rest
  unfold validateEntry
  rw [if_neg answered]
  split
  · rename_i missing
    exact if_neg fun required => found ⟨missing, required⟩
  · rename_i present
    have regular : entry.type = .regular := not_not.mp fun other => plain ⟨present, other⟩
    rw [if_neg (by rw [regular]; decide), if_neg (by rw [regular]; decide)]

theorem validateEntry_refuses (db : Text) (requireExists : Bool) (entry : Entry)
    (bad : entry.noDatabase requireExists) :
    ∃ failure, validateEntry db requireExists entry = .throws failure := by
  unfold validateEntry
  split
  · exact ⟨_, rfl⟩
  · rename_i answered
    rcases bad.resolve_left answered with ⟨missing, required⟩ | ⟨present, other⟩
    · rw [if_pos missing, if_pos required]
      exact ⟨_, rfl⟩
    · rw [if_neg present, if_pos other]
      split
      · exact ⟨_, rfl⟩
      · exact ⟨_, rfl⟩

theorem ensureParentDirectorySafe_asks (path originalDb : Text) :
    (ensureParentDirectorySafe path originalDb).Asks OsRequest.IsStatus := by
  by_cases named : parentPath path = []
  · unfold ensureParentDirectorySafe
    dsimp only
    rw [named]
    exact trivial
  · obtain ⟨next, shape, passes, throws⟩ :=
      ensureParentDirectorySafe_asks_once path originalDb named
    rw [shape]
    refine ⟨trivial, fun entry => ?_⟩
    by_cases bad : Entry.noDirectory entry
    · obtain ⟨failure, thrown⟩ := throws entry bad
      rw [thrown]
      exact trivial
    · rw [passes entry bad]
      exact trivial

theorem validateDbPath_asks (db : Text) (requireExists : Bool) :
    (validateDbPath db requireExists).Asks OsRequest.IsStatus := by
  unfold validateDbPath
  split
  · trivial
  · split
    · trivial
    · apply Program.asks_bind _ _ _ (ensureParentDirectorySafe_asks db db)
      intro checked
      refine ⟨trivial, fun entry => ?_⟩
      change (validateEntry db requireExists entry).Asks OsRequest.IsStatus
      by_cases bad : Entry.noDatabase requireExists entry
      · obtain ⟨failure, thrown⟩ := validateEntry_refuses db requireExists entry bad
        rw [thrown]
        exact trivial
      · rw [validateEntry_passes db requireExists entry bad]
        exact trivial

section Special
variable (followSymlinks : Bool) (db : Text) (mode : OpenMode)

theorem connectionOpen_special (special : isSpecialDatabase db = true) :
    connectionOpen followSymlinks db mode = openInMode followSymlinks db true false mode := by
  unfold connectionOpen
  dsimp only
  rw [special]
  rfl

/-- What `open` does after the check of the path. -/
def openChecked (found : Bool × Option ErrorCode) : Os (Option Nat) :=
  if found.2.isSome then
    .throws (.databaseSystemError (ascii "Failed to inspect database '" ++ db ++ ascii "'")
      (errorValue found.2))
  else openInMode followSymlinks db false found.1 mode

theorem connectionOpen_ordinary (ordinary : isSpecialDatabase db = false) :
    connectionOpen followSymlinks db mode =
      validateDbPath db (mode = .openExisting || mode = .openReadonly) >>= fun _ =>
        .call (.isPresent db) (openChecked followSymlinks db mode) := by
  unfold connectionOpen openChecked
  dsimp only
  rw [ordinary]
  simp only [Bool.false_eq_true, if_false, Bool.not_false, Bool.and_true]
  rfl

end Special

section Checks
variable (oracle : Environment) (db : Text)

/-- The exchange about the directory of the database. -/
def parentSeen : List (Program.Exchange OsRequest.Answer) :=
  if parentPath db = [] then []
  else [⟨.status (parentPath db), oracle [] (.status (parentPath db))⟩]

def parentEntry : Entry := oracle [] (.status (parentPath db))

def databaseEntry : Entry := oracle (parentSeen oracle db) (.status db)

/-- The answers make `validate_db_path` throw on a path. -/
def RefusesPath (requireExists : Bool) : Prop :=
  db = [] ∨ (parentPath db ≠ [] ∧ (parentEntry oracle db).noDirectory) ∨
    (databaseEntry oracle db).noDatabase requireExists

theorem ensureParentDirectorySafe_passes
    (safe : ¬(parentPath db ≠ [] ∧ (parentEntry oracle db).noDirectory)) :
    (ensureParentDirectorySafe db db).exec oracle [] = (.ok (), parentSeen oracle db) := by
  by_cases named : parentPath db = []
  · unfold ensureParentDirectorySafe parentSeen
    dsimp only
    rw [named]
    rfl
  · obtain ⟨next, shape, passes, -⟩ := ensureParentDirectorySafe_asks_once db db named
    have directory : ¬(parentEntry oracle db).noDirectory := fun bad => safe ⟨named, bad⟩
    have returned := passes _ directory
    rw [shape, parentSeen, if_neg named]
    exact congrArg (fun program => Program.exec oracle program _) returned

theorem validateDbPath_passes (requireExists : Bool) (ordinary : isSpecialDatabase db = false)
    (allowed : ¬RefusesPath oracle db requireExists) :
    (validateDbPath db requireExists).exec oracle [] =
      (.ok (), parentSeen oracle db ++ [⟨.status db, databaseEntry oracle db⟩]) := by
  obtain ⟨named, rest⟩ := not_or.mp allowed
  obtain ⟨directory, database⟩ := not_or.mp rest
  unfold validateDbPath
  rw [ordinary, if_neg Bool.false_ne_true, if_neg (by simpa using named), Program.exec_bind,
    ensureParentDirectorySafe_passes oracle db directory]
  exact congrArg (fun program => Program.exec oracle program _)
    (validateEntry_passes db requireExists _ database)

theorem validateDbPath_refuses (requireExists : Bool) (ordinary : isSpecialDatabase db = false)
    (refused : RefusesPath oracle db requireExists) :
    ∃ failure seen, (validateDbPath db requireExists).exec oracle [] = (.error failure, seen) := by
  unfold validateDbPath
  rw [ordinary, if_neg Bool.false_ne_true]
  split
  · exact ⟨_, _, rfl⟩
  · rename_i named
    rw [Program.exec_bind]
    by_cases bad : parentPath db ≠ [] ∧ (parentEntry oracle db).noDirectory
    · obtain ⟨next, shape, -, throws⟩ := ensureParentDirectorySafe_asks_once db db bad.1
      obtain ⟨failure, thrown⟩ := throws _ bad.2
      have ended : (ensureParentDirectorySafe db db).exec oracle [] =
          (.error failure, [⟨.status (parentPath db), parentEntry oracle db⟩]) := by
        rw [shape]
        exact congrArg (fun program => Program.exec oracle program _) thrown
      rw [ended]
      exact ⟨_, _, rfl⟩
    · have database := (refused.resolve_left (by simpa using named)).resolve_left bad
      obtain ⟨failure, thrown⟩ := validateEntry_refuses db requireExists _ database
      rw [ensureParentDirectorySafe_passes oracle db bad]
      exact ⟨failure, _, congrArg (fun program => Program.exec oracle program _) thrown⟩

end Checks

end VSQLite
