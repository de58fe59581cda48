import VSQLite.Lib.Run
import VSQLite.Sqlite.Transactions

/-!
# Transaction and savepoint objects

The member functions of `transaction` and `savepoint`, and the programs that use any
number of these objects on one connection.  An object knows only its own flags; what is
open on the connection is SQLite's.
-/

set_option autoImplicit false

namespace VSQLite
open Lib

inductive TransactionType where
  | undefined
  | deferred
  | immediate
  | exclusive
deriving DecidableEq, Repr

structure Transaction where
  isActive : Bool
  isEnding : Bool
deriving DecidableEq, Repr

structure Savepoint where
  name : Text
  isActive : Bool
deriving DecidableEq, Repr

section Objects
variable {Data : Type} (readName : Text → Option Text)

namespace Transaction

def beginSql (type : TransactionType) : Text :=
  ascii "BEGIN " ++
    (match type with
      | .deferred => ascii "DEFERRED "
      | .immediate => ascii "IMMEDIATE "
      | .exclusive => ascii "EXCLUSIVE "
      | .undefined => []) ++ ascii "TRANSACTION"

def begin (type : TransactionType) (verdict : Verdict) (db : Database Data)
    (transaction : Transaction) : Database Data × Transaction × Except Exception Unit :=
  match executeSql readName verdict (beginSql type) db with
  | (after, .error thrown) => (after, transaction, .error thrown)
  | (after, .ok ()) => (after, { transaction with isActive := true }, .ok ())

/-- What `end`, `commit` and `rollback` have in common.  The `ending_guard` sets its flag
first, and clears it however the statement comes out. -/
def finish (sql : Text) (verdict : Verdict) (db : Database Data) (transaction : Transaction) :
    Database Data × Transaction × Except Exception Unit :=
  let guarded := { transaction with isEnding := true }
  match executeSql readName verdict sql db with
  | (after, .error thrown) => (after, { guarded with isEnding := false }, .error thrown)
  | (after, .ok ()) => (after, { guarded with isActive := false, isEnding := false }, .ok ())

def endSql : Text := ascii "END TRANSACTION"
def commitSql : Text := ascii "COMMIT TRANSACTION"
def rollbackSql : Text := ascii "ROLLBACK TRANSACTION"

/-- `~transaction`, which swallows what the rollback throws. -/
def destroy (verdict : Verdict) (db : Database Data) (transaction : Transaction) :
    Database Data :=
  if transaction.isEnding then db
  else if transaction.isActive then (transaction.finish readName rollbackSql verdict db).1
  else db

end Transaction

namespace Savepoint

def construct (name : Text) (verdict : Verdict) (db : Database Data) :
    Database Data × Except Exception Savepoint :=
  match executeSql readName verdict (ascii "SAVEPOINT " ++ name) db with
  | (after, .error thrown) => (after, .error thrown)
  | (after, .ok ()) => (after, .ok ⟨name, true⟩)

def release (verdict : Verdict) (db : Database Data) (savepoint : Savepoint) :
    Database Data × Savepoint × Except Exception Unit :=
  match executeSql readName verdict (ascii "RELEASE SAVEPOINT " ++ savepoint.name) db with
  | (after, .error thrown) => (after, savepoint, .error thrown)
  | (after, .ok ()) => (after, { savepoint with isActive := false }, .ok ())

def rollback (verdict : Verdict) (db : Database Data) (savepoint : Savepoint) :
    Database Data × Except Exception Unit :=
  executeSql readName verdict
    (ascii "ROLLBACK TRANSACTION TO SAVEPOINT " ++ savepoint.name) db

/-- `~savepoint`, with what leaves it. -/
def destroy (verdict : Verdict) (db : Database Data) (savepoint : Savepoint) :
    Database Data × Except Exception Unit :=
  if savepoint.isActive then
    ((savepoint.release readName verdict db).1, (savepoint.release readName verdict db).2.2)
  else (db, .ok ())

end Savepoint
end Objects

/-! ## Programs -/

inductive ScopeObject where
  | transaction (transaction : Transaction)
  | savepoint (savepoint : Savepoint)
  | destroyed
deriving DecidableEq, Repr

/-- The connection with the objects that were made on it.  `owner` is the object whose
statement opened the transaction that is open; once an exception leaves a destructor the
program is terminated. -/
structure Scopes (Data : Type) where
  db : Database Data
  objects : List ScopeObject
  owner : Option Nat
  terminated : Bool

inductive TransactionCall where
  | begin (type : TransactionType)
  | endTransaction
  | commit
  | rollback
deriving DecidableEq, Repr

inductive SavepointCall where
  | release
  | rollback
deriving DecidableEq, Repr

section Calls
variable {Data : Type} (readName : Text → Option Text)

def TransactionCall.run (call : TransactionCall) (verdict : Verdict) (db : Database Data)
    (transaction : Transaction) : Database Data × Transaction × Except Exception Unit :=
  match call with
  | .begin type => transaction.begin readName type verdict db
  | .endTransaction => transaction.finish readName Transaction.endSql verdict db
  | .commit => transaction.finish readName Transaction.commitSql verdict db
  | .rollback => transaction.finish readName Transaction.rollbackSql verdict db

def SavepointCall.run (call : SavepointCall) (verdict : Verdict) (db : Database Data)
    (savepoint : Savepoint) : Database Data × Savepoint × Except Exception Unit :=
  match call with
  | .release => savepoint.release readName verdict db
  | .rollback =>
      ((savepoint.rollback readName verdict db).1, savepoint,
        (savepoint.rollback readName verdict db).2)

end Calls

/-- What a program does; the verdict is SQLite's on the statement that is issued. -/
inductive ScopeAction (Data : Type) where
  | transaction (type : TransactionType) (verdict : Verdict)
  | savepoint (name : Text) (verdict : Verdict)
  | call (index : Nat) (call : TransactionCall) (verdict : Verdict)
  | callSavepoint (index : Nat) (call : SavepointCall) (verdict : Verdict)
  | destroy (index : Nat) (verdict : Verdict)
  | write (change : Data → Data)

namespace Scopes
section Runs
variable {Data : Type} (readName : Text → Option Text)

def opened (db : Database Data) : Scopes Data := ⟨db, [], none, false⟩

def settle (index : Nat) (db : Database Data) (objects : List ScopeObject)
    (scopes : Scopes Data) : Scopes Data where
  db := db
  objects := objects
  owner :=
    if db.autocommit then none
    else if scopes.db.autocommit then some index
    else scopes.owner
  terminated := scopes.terminated

def transactionAt (index : Nat) (scopes : Scopes Data) : Option Transaction :=
  match scopes.objects[index]? with
  | some (.transaction transaction) => some transaction
  | _ => none

def savepointAt (index : Nat) (scopes : Scopes Data) : Option Savepoint :=
  match scopes.objects[index]? with
  | some (.savepoint savepoint) => some savepoint
  | _ => none

/-- The state after the action, and what it threw.  A constructor that throws leaves no
object. -/
def run (scopes : Scopes Data) (action : ScopeAction Data) :
    Option (Scopes Data × Except Exception Unit) :=
  if scopes.terminated then none
  else
    match action with
    | .transaction type verdict =>
        match Transaction.begin readName type verdict scopes.db ⟨false, false⟩ with
        | (db, _, .error thrown) =>
            some (scopes.settle scopes.objects.length db scopes.objects, .error thrown)
        | (db, made, .ok ()) =>
            some (scopes.settle scopes.objects.length db (scopes.objects ++ [.transaction made]),
              .ok ())
    | .savepoint name verdict =>
        match Savepoint.construct readName name verdict scopes.db with
        | (db, .error thrown) =>
            some (scopes.settle scopes.objects.length db scopes.objects, .error thrown)
        | (db, .ok made) =>
            some (scopes.settle scopes.objects.length db (scopes.objects ++ [.savepoint made]),
              .ok ())
    | .call index call verdict =>
        (scopes.transactionAt index).map fun transaction =>
          let result := call.run readName verdict scopes.db transaction
          (scopes.settle index result.1
            (scopes.objects.set index (.transaction result.2.1)), result.2.2)
    | .callSavepoint index call verdict =>
        (scopes.savepointAt index).map fun savepoint =>
          let result := call.run readName verdict scopes.db savepoint
          (scopes.settle index result.1
            (scopes.objects.set index (.savepoint result.2.1)), result.2.2)
    | .destroy index verdict =>
        match scopes.objects[index]? with
        | some (.transaction transaction) =>
            some (scopes.settle index (transaction.destroy readName verdict scopes.db)
              (scopes.objects.set index .destroyed), .ok ())
        | some (.savepoint savepoint) =>
            match savepoint.destroy readName verdict scopes.db with
            | (db, .ok ()) =>
                some (scopes.settle index db (scopes.objects.set index .destroyed), .ok ())
            | (db, .error thrown) =>
                some ({ scopes.settle index db (scopes.objects.set index .destroyed) with
                  terminated := true }, .error thrown)
        | _ => none
    | .write change => some ({ scopes with db := scopes.db.write change }, .ok ())

def step (scopes : Scopes Data) (action : ScopeAction Data) : Option (Scopes Data) :=
  (scopes.run readName action).map Prod.fst

end Runs
end Scopes
end VSQLite
