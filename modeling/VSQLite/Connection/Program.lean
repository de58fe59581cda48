import Mathlib.Data.Multiset.Defs
import VSQLite.Command.Isolation
import VSQLite.Connection.Execution

/-!
# Programs on one connection

A program constructs commands, uses them and destroys them.  It is run twice here: by
the connection, with its cache, and by a connection without one, on which every
command owns a statement that was compiled for it.
-/

set_option autoImplicit false

namespace VSQLite
open Lib

/-- Commands are named by the order in which they are constructed. -/
inductive ProgramOp where
  | construct (sql : Text)
  | use (index : Nat) (op : CommandOp)
  | destroy (index : Nat)
deriving DecidableEq, Repr

/-- An operation, what it returned or threw, and the step calls it made. -/
structure Observed where
  op : ProgramOp
  outcome : Except Exception (Option Bool)
  calls : List StepCall

/-- What SQLite makes of a text, the same each time, and what a step call comes to.  That may
depend on all the program has done, and on the other statements of the connection that have
stopped at a row, whoever has them; a statement at rest stands in nobody's way. -/
structure Engine where
  prepare : Text → Compiled
  answer : List Observed → Multiset Stmt → StepCall → ResultCode

def Engine.constructed (engine : Engine) (sql : Text) : Except Exception (Option Bool) :=
  match engine.prepare sql with
  | .error code => .error (.databaseExceptionCode (.error code) sql)
  | _ => .ok none

def Stmt.midExecution (stmt : Stmt) : Bool := !stmt.finalized && stmt.position.midExecution

/-- The statements that have stopped at a row, but for one. -/
def Sqlite.runningBeside (own : Option StmtId) (sqlite : Sqlite) : Multiset Stmt :=
  ((List.range sqlite.stmts.length).filter fun id =>
    decide (own ≠ some id) && sqlite.midExecution id).filterMap fun id => sqlite.stmts[id]?

def Sqlite.callsSince (before after : Sqlite) : List StepCall :=
  after.stepCalls.take (after.stepCalls.length - before.stepCalls.length)

/-! ## With the cache -/

/-- The program's operations, and the changes to the cache in between. -/
inductive ScriptOp where
  | program (op : ProgramOp)
  | configure (config : StatementCacheConfig)
  | clearCache
deriving DecidableEq, Repr

def ScriptOp.program? : ScriptOp → Option ProgramOp
  | .program op => some op
  | _ => none

namespace Connection

def perform (engine : Engine) (history : List Observed) (con : Connection) :
    ProgramOp → Option (Connection × Except Exception (Option Bool))
  | .construct sql =>
      let index := con.slots.length
      (con.step (.construct sql)).bind fun begun =>
        (begun.step (if isSchemaChangingStatement sql then .clearForSchema index
          else .acquire index)).bind fun asked =>
          match asked.commandAt .live index with
          | some _ => some (asked, .ok none)
          | none =>
              (asked.step (.prepare index (engine.prepare sql))).map fun next =>
                (next, engine.constructed sql)
  | .use index op =>
      (con.commandAt .live index).bind fun command =>
        let answer := engine.answer history (con.sqlite.runningBeside command.stmt)
        (con.step (.use index op answer)).map fun next =>
          (next, (op.run answer (con.session command)).2)
  | .destroy index => (con.step (.destroy index)).map fun next => (next, .ok none)

end Connection

/-- A connection and what the program has seen, newest first. -/
structure Execution where
  con : Connection
  history : List Observed

namespace Execution

/-- No statement that has stopped at a row is put into the cache. -/
def StoresAtRest (execution : Execution) : ScriptOp → Prop
  | .program (.destroy index) => Connection.StoresAtRest execution.con (.destroy index)
  | _ => True

def step (engine : Engine) (execution : Execution) : ScriptOp → Option Execution
  | .program op =>
      (execution.con.perform engine execution.history op).map fun (next, outcome) =>
        ⟨next, ⟨op, outcome, execution.con.sqlite.callsSince next.sqlite⟩ :: execution.history⟩
  | .configure config =>
      (execution.con.step (.configure config)).map fun next => ⟨next, execution.history⟩
  | .clearCache => (execution.con.step .clearCache).map fun next => ⟨next, execution.history⟩

end Execution

/-- What the program sees of a whole script; nothing if it uses a command that is not
constructed. -/
def observe (engine : Engine) (con : Connection) (script : List ScriptOp) :
    Option (List Observed) :=
  (exec (Execution.step engine) script ⟨con, []⟩).map Execution.history

/-! ## Without a cache -/

/-- A command and the statement it owns. -/
structure Private where
  sql : Text
  lastArgIdx : Nat
  phase : Phase
  stmt : Option Stmt
deriving DecidableEq, Repr

namespace Private

def session (db : DbHandle) (lengthLimit : Nat) (command : Private) : Session :=
  ⟨some db, ⟨command.stmt.toList, lengthLimit, []⟩,
    ⟨command.sql, command.stmt.map fun _ => 0, command.lastArgIdx⟩⟩

def ofSession (session : Session) : Private :=
  ⟨session.command.sql, session.command.lastArgIdx, .live, session.own⟩

/-- A command that was just compiled: un-stepped, every parameter NULL. -/
def fresh (engine : Engine) (db : DbHandle) (sql : Text) : Private :=
  match engine.prepare sql with
  | .error _ => ⟨sql, 0, .dead, none⟩
  | .empty => ⟨sql, 0, .live, none⟩
  | .statement parameters =>
      ⟨sql, 0, .live,
        some ⟨db, sql, parameters, parameters.map fun _ => .null, .ready, false⟩⟩

end Private

structure Plain where
  commands : List Private
  history : List Observed

namespace Plain

def live (plain : Plain) (index : Nat) : Option Private :=
  match plain.commands[index]? with
  | none => none
  | some command => if command.phase = .live then some command else none

def runningBeside (index : Nat) (plain : Plain) : Multiset Stmt :=
  (plain.commands.eraseIdx index).filterMap fun command => command.stmt.filter Stmt.midExecution

def step (engine : Engine) (db : DbHandle) (lengthLimit : Nat) (plain : Plain) :
    ProgramOp → Option Plain
  | .construct sql =>
      some ⟨plain.commands ++ [.fresh engine db sql],
        ⟨.construct sql, engine.constructed sql, []⟩ :: plain.history⟩
  | .use index op =>
      (plain.live index).map fun command =>
        let answer := engine.answer plain.history (plain.runningBeside index)
        let after := op.run answer (command.session db lengthLimit)
        ⟨plain.commands.set index (.ofSession after.1),
          ⟨.use index op, after.2, after.1.sqlite.stepCalls⟩ :: plain.history⟩
  | .destroy index =>
      (plain.live index).map fun command =>
        ⟨plain.commands.set index { command with phase := .dead, stmt := none },
          ⟨.destroy index, .ok none, []⟩ :: plain.history⟩

end Plain
end VSQLite
