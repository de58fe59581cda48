import VSQLite.Connection.Execution

/-!
# Journal modes

`set_wal_mode` and `enable_wal` on a connection whose SQLite has no WAL2.  The query of
`set_wal_mode` lives and dies within the function; it is stepped once, for its one row.
-/

set_option autoImplicit false

namespace VSQLite
open Lib

inductive WalMode where
  | rollback
  | truncate
  | persist
  | memory
  | wal
  | wal2
deriving DecidableEq, Repr

def WalMode.toString : WalMode → Text
  | .rollback => ascii "DELETE"
  | .truncate => ascii "TRUNCATE"
  | .persist => ascii "PERSIST"
  | .memory => ascii "MEMORY"
  | .wal => ascii "WAL"
  | .wal2 => ascii "WAL2"

/-! ## SQLite -/

inductive JournalMode where
  | delete
  | truncate
  | persist
  | memory
  | wal
  | off
deriving DecidableEq, Repr

namespace JournalMode

def all : List JournalMode := [.delete, .truncate, .persist, .memory, .wal, .off]

def name : JournalMode → Text
  | .delete => ascii "delete"
  | .truncate => ascii "truncate"
  | .persist => ascii "persist"
  | .memory => ascii "memory"
  | .wal => ascii "wal"
  | .off => ascii "off"

/-- The mode that the pragma's argument names, in any letter case. -/
def read (argument : Text) : Option JournalMode :=
  all.find? fun mode => foldCase mode.name == foldCase argument

end JournalMode

/-- What stands between `= ` and `;`. -/
def pragmaArgument (sql : Text) : Text :=
  ((sql.dropWhile (· ≠ 61)).drop 2).takeWhile (· ≠ 59)

/-- What comes of changing the mode while no other statement executes: the database cannot be in
the new mode and stays as it is, or it is locked, or there is another obstacle, or it changes. -/
inductive ModeChange where
  | kept
  | busy
  | error (code : Nat)
  | made
deriving DecidableEq, Repr

/-- `prepareError` is the error with which a pragma does not compile, if it does not. -/
structure JournalEngine where
  prepareError : Option Nat
  change : JournalMode → JournalMode → ModeChange

/-- The pragma executed: its result, and the mode it leaves and reports.  A name that means
nothing is ignored.  `SQLITE_ERROR` refuses a change into or out of WAL while another statement
is in the middle of its execution. -/
def JournalEngine.execute (engine : JournalEngine) (requested : Option JournalMode) (others : Bool)
    (mode : JournalMode) : ResultCode × JournalMode :=
  match requested with
  | none => (.row, mode)
  | some wanted =>
      if wanted = mode ∨ engine.change mode wanted = .kept then (.row, mode)
      else if (mode = .wal ∨ wanted = .wal) ∧ others then (.error 1, mode)
      else
        match engine.change mode wanted with
        | .busy => (.busy, mode)
        | .error code => (.error code, mode)
        | _ => (.row, wanted)

/-- A statement of the connection other than this one has stopped at a row. -/
def Sqlite.othersMidExecution (own : StmtId) (sqlite : Sqlite) : Bool :=
  (List.range sqlite.stmts.length).any fun id => id ≠ own && sqlite.midExecution id

/-! ## The wrapper -/

def toLower (byte : UInt8) : UInt8 := if 65 ≤ byte && byte ≤ 90 then byte + 32 else byte

def parseJournalMode (value : Text) : Except Exception WalMode :=
  let normalized := value.map toLower
  if normalized = ascii "delete" then .ok .rollback
  else if normalized = ascii "truncate" then .ok .truncate
  else if normalized = ascii "persist" then .ok .persist
  else if normalized = ascii "memory" then .ok .memory
  else if normalized = ascii "wal" then .ok .wal
  else if normalized = ascii "wal2" then .ok .wal2
  else .error (.databaseException (ascii "Unknown journal mode reported by SQLite: " ++ value))

def journalPragma (mode : WalMode) : Text :=
  ascii "PRAGMA journal_mode = " ++ mode.toString ++ ascii ";"

structure Journaled where
  con : Connection
  mode : JournalMode

/-- `command::prepare` for a pragma, which does not change the schema. -/
def Connection.preparePragma (prepareError : Option Nat) (sql : Text) (con : Connection) :
    Connection × Except Exception Command :=
  match con.handle with
  | none => (con, .error (.databaseException (ascii "Database is not open.")))
  | some db =>
      match con.acquireCachedStatement sql with
      | (taken, some stmt) => (taken, .ok ⟨sql, some stmt, 0⟩)
      | (taken, none) =>
          let compiled := match prepareError with
            | some code => .error code
            | none => .statement []
          match sqlite3PrepareV2 db sql compiled taken.sqlite with
          | (.ok, stmt, sqlite) => ({ taken with sqlite := sqlite }, .ok ⟨sql, stmt, 0⟩)
          | (err, _, sqlite) =>
              ({ taken with sqlite := sqlite }, .error (.databaseExceptionCode err sql))

namespace Journaled

/-- `get_result()` and the `next_row()` of its result; both check the command. -/
def nextRow (engine : JournalEngine) (command : Command) (state : Journaled) :
    Journaled × Except Exception Bool :=
  match (state.con.session command).accessCheck with
  | .error thrown => (state, .error thrown)
  | .ok stmt =>
      let execute (call : StepCall) :=
        engine.execute (JournalMode.read (pragmaArgument call.sql))
          (state.con.sqlite.othersMidExecution stmt) state.mode
      let stepped := (state.con.session command).step fun call => (execute call).1
      let mode := match state.con.sqlite.stmts[stmt]? with
        | none => state.mode
        | some found => (execute found.call).2
      (⟨{ state.con with sqlite := stepped.1.sqlite }, mode⟩, stepped.2)

/-- What `set_wal_mode` makes of the row. -/
def checkReported (requested : WalMode) (reported : Text) : Except Exception WalMode :=
  match parseJournalMode reported with
  | .error thrown => .error thrown
  | .ok parsed =>
      if requested = .wal2 ∧ parsed ≠ .wal2 then
        .error (.databaseException
          (ascii "SQLite rejected WAL2 mode (reported '" ++ reported ++ ascii "')."))
      else .ok parsed

def setWalMode (engine : JournalEngine) (requested : WalMode) (state : Journaled) :
    Journaled × Except Exception WalMode :=
  match state.con.preparePragma engine.prepareError (journalPragma requested) with
  | (con, .error thrown) => (⟨con, state.mode⟩, .error thrown)
  | (con, .ok command) =>
      let (ran, row) := nextRow engine command ⟨con, state.mode⟩
      -- the query is destroyed by the return and by an exception alike
      ({ ran with con := ran.con.finalize command },
        match row with
        | .error thrown => .error thrown
        | .ok false => .error (.databaseException (ascii "Failed to set journal_mode."))
        | .ok true => checkReported requested ran.mode.name)

end Journaled

def Exception.isDatabaseException : Exception → Bool
  | .databaseException _ => true
  | .databaseExceptionCode _ _ => true
  | .databaseSystemError _ _ => true
  | _ => false

namespace Journaled

def enableWal (engine : JournalEngine) (preferWal2 : Bool) (state : Journaled) :
    Journaled × Except Exception WalMode :=
  if preferWal2 then
    match setWalMode engine .wal2 state with
    | (after, .ok mode) => (after, .ok mode)
    | (after, .error thrown) =>
        if thrown.isDatabaseException then setWalMode engine .wal after else (after, .error thrown)
  else setWalMode engine .wal state

end Journaled
end VSQLite
