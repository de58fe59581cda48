import VSQLite.Open.FileSystem

/-!
# Opening a database

What `connection::open(db, open_mode)` asks of the file system before it lets SQLite
open the file.  Between two of its requests other threads may make theirs.
-/

set_option autoImplicit false

namespace VSQLite
open Lib

inductive OpenMode where
  | openReadonly
  | openExisting
  | openOrCreate
  | alwaysCreate
deriving DecidableEq, Repr

abbrev Os (Result : Type) := Program OsRequest.Answer Exception Result

/-- `std::string_view::find` finds the text. -/
def containsText (sought : Text) : Text → Bool
  | [] => sought.isEmpty
  | byte :: rest => sought.isPrefixOf (byte :: rest) || containsText sought rest

def isSpecialDatabase (db : Text) : Bool :=
  if db = ascii ":memory:" then true
  else if (ascii "file:").isPrefixOf db then
    match db.dropWhile (· ≠ 63) with
    | [] => false
    | _ :: params => containsText (ascii "mode=memory") params
  else false

/-- `std::filesystem::path::parent_path`, where `/` is the separator. -/
def parentPath (path : Text) : Text :=
  if path.all (· == 47) then path
  else
    let upTo := path.reverse.dropWhile (· != 47)
    let stem := upTo.dropWhile (· == 47)
    if stem.isEmpty && !upTo.isEmpty then [47] else stem.reverse

def describePath (path : Text) : Text := if path.isEmpty then ascii "." else path

def status (target : Text) : Os Entry := .request (OsRequest.status target)

def isPresent (target : Text) : Os (Bool × Option ErrorCode) :=
  .request (OsRequest.isPresent target)

def remove (target : Text) : Os (Bool × Option ErrorCode) := .request (OsRequest.remove target)

def ensureParentDirectorySafe (path originalDb : Text) : Os Unit :=
  let parent := parentPath path
  if parent.isEmpty then .returns ()
  else do
    let entry ← status parent
    if entry.error.isSome then
      .throws (.databaseSystemError (ascii "Failed to inspect directory '" ++
        describePath parent ++ ascii "' for database '" ++ originalDb ++ ascii "'")
        (errorValue entry.error))
    else if entry.type = .notFound then
      .throws (.databaseException (ascii "Directory '" ++ describePath parent ++
        ascii "' for database '" ++ originalDb ++ ascii "' does not exist"))
    else if entry.type ≠ .directory then
      .throws (.databaseException (ascii "Path '" ++ describePath parent ++
        ascii "' is not a directory (required for database '" ++ originalDb ++ ascii "')"))
    else if entry.type = .symlink then
      .throws (.databaseException (ascii "Directory '" ++ describePath parent ++
        ascii "' for database '" ++ originalDb ++ ascii "' must not be a symlink"))
    else .returns ()

/-- The part of `validate_db_path` that looks at the database file itself. -/
def validateEntry (db : Text) (requireExists : Bool) (entry : Entry) : Os Unit :=
  if entry.error.isSome ∧ errorValue entry.error ≠ enoent then
    .throws (.databaseSystemError (ascii "Failed to inspect database '" ++ db ++ ascii "'")
      (errorValue entry.error))
  else if entry.type = .notFound then
    if requireExists then
      .throws (.databaseException (ascii "Database '" ++ db ++ ascii "' does not exist"))
    else .returns ()
  else if entry.type = .symlink then
    .throws (.databaseException (ascii "Database path '" ++ db ++ ascii "' must not be a symlink"))
  else if entry.type ≠ .regular then
    .throws (.databaseException (ascii "Database path '" ++ db ++
      ascii "' must refer to a regular file"))
  else .returns ()

def validateDbPath (db : Text) (requireExists : Bool) : Os Unit :=
  if isSpecialDatabase db then .returns ()
  else if db.isEmpty then .throws (.databaseException (ascii "Database path must not be empty."))
  else do
    ensureParentDirectorySafe db db
    let entry ← status db
    validateEntry db requireExists entry

/-- `followSymlinks` is the build option `VSQLITE_ALLOW_FOLLOW_SYMLINKS`. -/
def makeOpenFlags (followSymlinks readonly allowCreate : Bool) : OpenFlags where
  fullMutex := true
  noFollow := !followSymlinks
  readonly := readonly
  readwrite := !readonly
  create := !readonly && allowCreate

def openWithFlags (db : Text) (flags : OpenFlags) : Os (Option Nat) := do
  let opened : Except ResultCode (Option Nat) ← .request (OsRequest.openV2 db flags)
  match opened with
  | .ok file => .returns file
  | .error code => .throws (.databaseExceptionCode code [])

/-- What the mode `always_create` does about a file that is there. -/
def removeExisting (db : Text) : Os Unit := do
  let entry ← status db
  if entry.error.isSome then
    .throws (.databaseSystemError (ascii "Failed to inspect existing database '" ++ db ++
      ascii "'") (errorValue entry.error))
  else if entry.type = .symlink then
    .throws (.databaseException (ascii "Refusing to remove symlinked database '" ++ db ++
      ascii "'"))
  else if entry.type ≠ .regular then
    .throws (.databaseException (ascii "Refusing to remove non-regular database target '" ++ db ++
      ascii "'"))
  else do
    let removed ← remove db
    if !removed.1 || removed.2.isSome then
      .throws (.databaseSystemError (ascii "Failed to remove existing database '" ++ db ++
        ascii "'") (errorValue removed.2))
    else .returns ()

/-- The `switch` over the mode, which `always_create` falls through to the end. -/
def openInMode (followSymlinks : Bool) (db : Text) (special present : Bool) :
    OpenMode → Os (Option Nat)
  | .openReadonly =>
      if !present && !special then
        .throws (.databaseException (ascii "Read-only database '" ++ db ++
          ascii "' does not exist"))
      else openWithFlags db (makeOpenFlags followSymlinks true false)
  | .openExisting =>
      if !present && !special then
        .throws (.databaseException (ascii "Database '" ++ db ++ ascii "' does not exist"))
      else openWithFlags db (makeOpenFlags followSymlinks false false)
  | .alwaysCreate => do
      if present && !special then removeExisting db else .returns ()
      openWithFlags db (makeOpenFlags followSymlinks false true)
  | .openOrCreate => openWithFlags db (makeOpenFlags followSymlinks false true)

/-- `connection::open(db, open_mode)`; the result is the file the connection has open. -/
def connectionOpen (followSymlinks : Bool) (db : Text) (mode : OpenMode) : Os (Option Nat) := do
  let special := isSpecialDatabase db
  if special then .returns ()
    else validateDbPath db (mode = .openExisting || mode = .openReadonly)
  let found ← if special then .returns (false, none) else isPresent db
  if found.2.isSome && !special then
    .throws (.databaseSystemError (ascii "Failed to inspect database '" ++ db ++ ascii "'")
      (errorValue found.2))
  else openInMode followSymlinks db special found.1 mode

/-- The calls by which a connection has SQLite open a database. -/
inductive OpenCall where
  | openDefault
  | openReadonly (readonly : Bool)
  | openMode (mode : OpenMode)
  | attach (aliasName : Text) (readonly allowCreate : Bool)
deriving DecidableEq, Repr

/-- `connection::open(db)`. -/
def openDefault (followSymlinks : Bool) (db : Text) : Os (Option Nat) := do
  validateDbPath db false
  openWithFlags db (makeOpenFlags followSymlinks false true)

/-- `connection::open(db, readonly)`. -/
def openReadonly (followSymlinks : Bool) (db : Text) (readonly : Bool) : Os (Option Nat) := do
  validateDbPath db readonly
  openWithFlags db (makeOpenFlags followSymlinks readonly !readonly)

/-- `connection::attach`.  The statement has SQLite open the database with the flags that
the connection was opened with. -/
def attach (flags : OpenFlags) (db aliasName : Text) : Os (Option Nat) :=
  if aliasName.isEmpty then
    .throws (.databaseException (ascii "Database alias must not be empty."))
  else do
    validateDbPath db false
    openWithFlags db flags

def OpenCall.program (followSymlinks : Bool) (db : Text) : OpenCall → Os (Option Nat)
  | .openDefault => VSQLite.openDefault followSymlinks db
  | .openReadonly readonly => VSQLite.openReadonly followSymlinks db readonly
  | .openMode mode => connectionOpen followSymlinks db mode
  | .attach aliasName readonly allowCreate =>
      VSQLite.attach (makeOpenFlags followSymlinks readonly allowCreate) db aliasName

end VSQLite
