import VSQLite.Command.Model
import VSQLite.Lib.Run
import VSQLite.StatementCache.Checked

/-!
# A connection and its commands

The state of one connection and the atomic pieces that threads take on it.  The
constructor of a command is split where it reaches the cache or the compiler, and
its destructor is the single cache operation it ends with, so a run interleaves the
cache operations of any number of threads.  `query` and `execute` add nothing to
the life of a statement: `execute` is the constructor followed by `step_once`.
-/

set_option autoImplicit false

namespace VSQLite
open Lib

/-- Where a command is in its life: about to clear the cache, to ask it for a
statement, or to compile; constructed; destroyed or never completed. -/
inductive Phase where
  | clearing
  | acquiring
  | preparing
  | live
  | dead
deriving DecidableEq, Repr

structure Slot where
  command : Command
  phase : Phase
deriving DecidableEq, Repr

structure Connection where
  handle : Option DbHandle
  sqlite : Sqlite
  cache : Cache
  slots : List Slot

namespace Connection

def opened (db : DbHandle) (lengthLimit : Nat) (config : StatementCacheConfig) : Connection :=
  ⟨some db, ⟨[], lengthLimit, []⟩, .construct config, []⟩

def acquireCachedStatement (sql : Text) (con : Connection) : Connection × Option StmtId :=
  match con.handle with
  | none => (con, none)
  | some db =>
      let result := con.cache.acquire db sql con.sqlite
      ({ con with cache := result.1, sqlite := result.2.1 }, result.2.2)

def releaseCachedStatement (sql : Text) (stmt : StmtId) (con : Connection) : Connection :=
  match con.handle with
  | none => { con with sqlite := sqlite3Finalize (some stmt) con.sqlite }
  | some _ =>
      let result := con.cache.release sql stmt con.sqlite
      { con with cache := result.1, sqlite := result.2 }

def clearStatementCache (con : Connection) : Connection :=
  let result := con.cache.clear con.sqlite
  { con with cache := result.1, sqlite := result.2 }

def configureStatementCache (config : StatementCacheConfig) (con : Connection) : Connection :=
  let result := con.cache.reset config con.sqlite
  { con with cache := result.1, sqlite := result.2 }

/-- `SQLITE_BUSY` as long as a statement of the connection is not finalized. -/
def sqlite3Close (db : DbHandle) (sqlite : Sqlite) : ResultCode :=
  if sqlite.stmts.any fun stmt => stmt.db == db && !stmt.finalized then .busy else .ok

def close (con : Connection) : Connection × Except Exception Unit :=
  match con.handle with
  | none => (con, .error (.databaseException (ascii "Database is not open.")))
  | some db =>
      let cleared := con.clearStatementCache
      if sqlite3Close db cleared.sqlite = .ok then ({ cleared with handle := none }, .ok ())
      else (cleared, .error (.databaseExceptionCode .busy []))

def setSlot (index : Nat) (command : Command) (phase : Phase) (con : Connection) : Connection :=
  { con with slots := con.slots.set index ⟨command, phase⟩ }

def commandAt (phase : Phase) (index : Nat) (con : Connection) : Option Command :=
  match con.slots[index]? with
  | none => none
  | some slot => if slot.phase = phase then some slot.command else none

def session (command : Command) (con : Connection) : Session :=
  ⟨con.handle, con.sqlite, command⟩

/-- The constructor up to its first cache operation. -/
def construct (sql : Text) (con : Connection) : Connection :=
  { con with
    slots := con.slots ++
      [⟨⟨sql, none, 0⟩, if isSchemaChangingStatement sql then .clearing else .acquiring⟩] }

/-- `command::prepare` where it asks the cache. -/
def acquire (index : Nat) (command : Command) (con : Connection) : Connection :=
  match con.acquireCachedStatement command.sql with
  | (taken, some stmt) => taken.setSlot index { command with stmt := some stmt } .live
  | (taken, none) => taken.setSlot index command .preparing

/-- `command::prepare` where it compiles.  A constructor that throws leaves no object,
and no destructor runs. -/
def prepare (db : DbHandle) (index : Nat) (command : Command) (compiled : Compiled)
    (con : Connection) : Connection :=
  match sqlite3PrepareV2 db command.sql compiled con.sqlite with
  | (.ok, stmt, sqlite) =>
      { con with sqlite := sqlite }.setSlot index { command with stmt := stmt } .live
  | (_, _, sqlite) => { con with sqlite := sqlite }.setSlot index command .dead

def use (answer : StepCall → ResultCode) (index : Nat) (command : Command) (op : CommandOp)
    (con : Connection) : Connection :=
  let after := (op.run answer (con.session command)).1
  { con with sqlite := after.sqlite }.setSlot index after.command .live

/-- `command::finalize`; the destructor swallows what its check throws. -/
def finalize (command : Command) (con : Connection) : Connection :=
  match (con.session command).accessCheck with
  | .error _ => con
  | .ok stmt =>
      if isSchemaChangingStatement command.sql then
        { con with sqlite := sqlite3Finalize (some stmt) con.sqlite }
      else con.releaseCachedStatement command.sql stmt

def destroy (index : Nat) (command : Command) (con : Connection) : Connection :=
  (con.finalize command).setSlot index { command with stmt := none } .dead

end Connection

/-- The atomic pieces.  What comes from outside is part of the action: the compiler's
verdict, and what executing a statement comes to. -/
inductive Action where
  | construct (sql : Text)
  | clearForSchema (index : Nat)
  | acquire (index : Nat)
  | prepare (index : Nat) (compiled : Compiled)
  | use (index : Nat) (op : CommandOp) (answer : StepCall → ResultCode)
  | destroy (index : Nat)
  | configure (config : StatementCacheConfig)
  | clearCache
  | close

namespace Connection

/-- A piece is enabled when its command is at the phase it belongs to and the
connection is open; commands do not outlive their connection. -/
def step (con : Connection) : Action → Option Connection
  | .construct sql => if con.handle.isSome then some (con.construct sql) else none
  | .clearForSchema index =>
      (con.commandAt .clearing index).map fun command =>
        con.clearStatementCache.setSlot index command .preparing
  | .acquire index =>
      (con.commandAt .acquiring index).map fun command => con.acquire index command
  | .prepare index compiled =>
      match con.handle with
      | none => none
      | some db =>
          (con.commandAt .preparing index).map fun command =>
            con.prepare db index command compiled
  | .use index op answer =>
      (con.commandAt .live index).map fun command => con.use answer index command op
  | .destroy index => (con.commandAt .live index).map fun command => con.destroy index command
  | .configure config =>
      if con.handle.isSome then some (con.configureStatementCache config) else none
  | .clearCache => if con.handle.isSome then some con.clearStatementCache else none
  | .close =>
      if con.handle.isSome ∧ ∀ slot ∈ con.slots, slot.phase = .dead then some con.close.1 else none

/-- A state some run of a freshly opened connection leads to. -/
def Reached (db : DbHandle) (con : Connection) : Prop :=
  ∃ lengthLimit config, Reachable step (opened db lengthLimit config) con

end Connection
end VSQLite
