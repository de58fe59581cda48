import VSQLite.Command.Model

/-!
# The transactions of a connection

What SQLite makes of the statements that open and close transactions and savepoints:
which of them it refuses, what they do to the stack of savepoints, and what of the
content of the database is kept.  The content is left abstract.
-/

set_option autoImplicit false

namespace VSQLite

section Database
variable {Data : Type}

/-- A savepoint, with the content a rollback to it restores. -/
structure Mark (Data : Type) where
  name : Text
  content : Data

/-- What the connection sees of the content while a transaction is open, the savepoints,
the innermost first, and if it was a savepoint that opened the transaction. -/
structure OpenTransaction (Data : Type) where
  seen : Data
  savepoints : List (Mark Data)
  bySavepoint : Bool

/-- The content that is kept, the open transaction (none in autocommit mode), and the
statements that were issued, the last one first. -/
structure Database (Data : Type) where
  stored : Data
  current : Option (OpenTransaction Data)
  issued : List Text

inductive TransactionSql where
  | begin
  | commit
  | rollback
  | savepoint (name : Text)
  | release (name : Text)
  | rollbackTo (name : Text)
deriving DecidableEq, Repr

/-- The most recent savepoint of the name, and those it is nested in. -/
def unwind (name : Text) : List (Mark Data) → Option (Mark Data × List (Mark Data))
  | [] => none
  | mark :: outer => if mark.name = name then some (mark, outer) else unwind name outer

namespace Database

def autocommit (db : Database Data) : Bool := db.current.isNone

/-- What any other statement does that changes the content. -/
def write (change : Data → Data) (db : Database Data) : Database Data :=
  match db.current with
  | none => { db with stored := change db.stored }
  | some transaction =>
      { db with current := some { transaction with seen := change transaction.seen } }

/-- The content and the transaction after the statement, unless the rules of the
transaction stack make it fail. -/
def perform (db : Database Data) : TransactionSql → Option (Database Data)
  | .begin =>
      match db.current with
      | none => some { db with current := some ⟨db.stored, [], false⟩ }
      | some _ => none
  | .commit =>
      match db.current with
      | none => none
      | some transaction => some { db with stored := transaction.seen, current := none }
  | .rollback =>
      match db.current with
      | none => none
      | some _ => some { db with current := none }
  | .savepoint name =>
      match db.current with
      | none => some { db with current := some ⟨db.stored, [⟨name, db.stored⟩], true⟩ }
      | some transaction =>
          some { db with
            current := some { transaction with
              savepoints := ⟨name, transaction.seen⟩ :: transaction.savepoints } }
  | .release name =>
      match db.current with
      | none => none
      | some transaction =>
          match unwind name transaction.savepoints with
          | none => none
          | some (_, outer) =>
              -- the savepoint that opened the transaction commits it
              if outer.isEmpty && transaction.bySavepoint then
                some { db with stored := transaction.seen, current := none }
              else some { db with current := some { transaction with savepoints := outer } }
  | .rollbackTo name =>
      match db.current with
      | none => none
      | some transaction =>
          match unwind name transaction.savepoints with
          | none => none
          | some (mark, outer) =>
              some { db with
                current := some { transaction with
                  seen := mark.content
                  savepoints := mark :: outer } }

end Database

/-- What else may become of a statement: SQLite refuses it and leaves the transaction as it
is, or fails it after having rolled the transaction back. -/
inductive Verdict where
  | proceeds
  | refused (code : Nat)
  | rolledBack (code : Nat)
deriving DecidableEq, Repr

def Verdict.rollsBack : Verdict → Bool
  | .rolledBack _ => true
  | _ => false

/-! ## Texts -/

/-- The rest of a text that starts like this. -/
def stripStart (start text : Text) : Option Text :=
  if start.isPrefixOf text then some (text.drop start.length) else none

theorem stripStart_append (start rest : Text) : stripStart start (start ++ rest) = some rest := by
  rw [stripStart, if_pos (List.isPrefixOf_iff_prefix.mpr (List.prefix_append start rest)),
    List.drop_left]

def plainTransactionSql : List (Text × TransactionSql) :=
  [(ascii "BEGIN TRANSACTION", .begin), (ascii "BEGIN DEFERRED TRANSACTION", .begin),
    (ascii "BEGIN IMMEDIATE TRANSACTION", .begin), (ascii "BEGIN EXCLUSIVE TRANSACTION", .begin),
    (ascii "END TRANSACTION", .commit), (ascii "COMMIT TRANSACTION", .commit),
    (ascii "ROLLBACK TRANSACTION", .rollback)]

/-- What SQLite reads in the texts it is given here.  `readName` is the name it reads at
the end of one, folded to one case, if there is one. -/
def readTransactionSql (readName : Text → Option Text) (sql : Text) : Option TransactionSql :=
  match stripStart (ascii "ROLLBACK TRANSACTION TO SAVEPOINT ") sql,
      stripStart (ascii "RELEASE SAVEPOINT ") sql, stripStart (ascii "SAVEPOINT ") sql with
  | some name, _, _ => (readName name).map .rollbackTo
  | none, some name, _ => (readName name).map .release
  | none, none, some name => (readName name).map .savepoint
  | none, none, none => plainTransactionSql.lookup sql

theorem read_savepoint (readName : Text → Option Text) (name : Text) :
    readTransactionSql readName (ascii "SAVEPOINT " ++ name) =
      (readName name).map .savepoint := by
  have rolls : stripStart (ascii "ROLLBACK TRANSACTION TO SAVEPOINT ")
      (ascii "SAVEPOINT " ++ name) = none := rfl
  have releases : stripStart (ascii "RELEASE SAVEPOINT ") (ascii "SAVEPOINT " ++ name) = none :=
    rfl
  rw [readTransactionSql, rolls, releases, stripStart_append]

theorem read_release (readName : Text → Option Text) (name : Text) :
    readTransactionSql readName (ascii "RELEASE SAVEPOINT " ++ name) =
      (readName name).map .release := by
  have rolls : stripStart (ascii "ROLLBACK TRANSACTION TO SAVEPOINT ")
      (ascii "RELEASE SAVEPOINT " ++ name) = none := rfl
  rw [readTransactionSql, rolls, stripStart_append]

theorem read_rollbackTo (readName : Text → Option Text) (name : Text) :
    readTransactionSql readName (ascii "ROLLBACK TRANSACTION TO SAVEPOINT " ++ name) =
      (readName name).map .rollbackTo := by
  rw [readTransactionSql, stripStart_append]

/-! ## Executing a text -/

/-- `execute(con, sql, true)`, which throws what preparing or stepping the text throws. -/
def executeSql (readName : Text → Option Text) (verdict : Verdict) (sql : Text)
    (db : Database Data) : Database Data × Except Exception Unit :=
  let issued := { db with issued := sql :: db.issued }
  match readTransactionSql readName sql, verdict with
  | none, _ => (issued, .error (.databaseExceptionCode (.error 1) sql))
  | some _, .refused code => (issued, .error (.databaseExceptionCode (.error code) sql))
  | some _, .rolledBack code =>
      ({ issued with current := none }, .error (.databaseExceptionCode (.error code) sql))
  | some statement, .proceeds =>
      match issued.perform statement with
      | none => (issued, .error (.databaseExceptionCode (.error 1) sql))
      | some after => (after, .ok ())

theorem executeSql_cases (readName : Text → Option Text) (verdict : Verdict) (sql : Text)
    (statement : TransactionSql) (read : readTransactionSql readName sql = some statement)
    (db : Database Data) :
    (∃ after, verdict = .proceeds ∧
      { db with issued := sql :: db.issued }.perform statement = some after ∧
      executeSql readName verdict sql db = (after, .ok ())) ∨
    ∃ thrown, (verdict = .proceeds →
        { db with issued := sql :: db.issued }.perform statement = none) ∧
      executeSql readName verdict sql db =
        ({ db with
          current := if verdict.rollsBack then none else db.current
          issued := sql :: db.issued }, .error thrown) := by
  unfold executeSql
  rw [read]
  cases verdict with
  | refused code => exact Or.inr ⟨_, fun same => (by cases same), rfl⟩
  | rolledBack code => exact Or.inr ⟨_, fun same => (by cases same), rfl⟩
  | proceeds =>
      dsimp only
      cases performed : { db with issued := sql :: db.issued }.perform statement with
      | none => exact Or.inr ⟨_, fun _ => rfl, rfl⟩
      | some after => exact Or.inl ⟨after, rfl, rfl, rfl⟩

end Database
end VSQLite
