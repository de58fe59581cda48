import VSQLite.Transaction.Model

/-!
# What the objects' functions come to

Each function issues one statement.  What it leaves of the connection and of its object
depends on whether the statement went through, and that on what was open before.
-/

set_option autoImplicit false

namespace VSQLite

section Objects
variable {Data : Type} (readName : Text → Option Text)

def Database.failed (sql : Text) (verdict : Verdict) (db : Database Data) : Database Data :=
  { db with
    current := if verdict.rollsBack then none else db.current
    issued := sql :: db.issued }

theorem Database.failed_current (sql : Text) (verdict : Verdict) (db : Database Data) :
    (db.failed sql verdict).current = none ∨ (db.failed sql verdict).current = db.current := by
  unfold failed
  dsimp only
  split
  · exact Or.inl rfl
  · exact Or.inr rfl

theorem Database.failed_current_cases (sql : Text) (verdict : Verdict) (db : Database Data) :
    (db.failed sql verdict).current = none ∨
      ∃ opened, db.current = some opened ∧ (db.failed sql verdict).current = some opened := by
  rcases db.failed_current sql verdict with free | same
  · exact Or.inl free
  · cases current : db.current with
    | none => exact Or.inl (same.trans current)
    | some opened => exact Or.inr ⟨opened, rfl, same.trans current⟩

namespace Transaction

theorem read_beginSql (type : TransactionType) :
    readTransactionSql readName (beginSql type) = some .begin := by
  cases type <;> rfl

theorem begin_cases (type : TransactionType) (verdict : Verdict) (db : Database Data)
    (transaction : Transaction) :
    (verdict = .proceeds ∧ db.current = none ∧
      transaction.begin readName type verdict db =
        ({ db with
          current := some ⟨db.stored, [], false⟩
          issued := beginSql type :: db.issued },
          { transaction with isActive := true }, .ok ())) ∨
    ∃ thrown, (verdict = .proceeds → db.current ≠ none) ∧
      transaction.begin readName type verdict db =
        (db.failed (beginSql type) verdict, transaction, .error thrown) := by
  unfold begin
  rcases executeSql_cases readName verdict (beginSql type) .begin (read_beginSql readName type) db
    with ⟨after, proceeds, performed, result⟩ | ⟨thrown, refused, result⟩
  · rw [result]
    cases current : db.current with
    | none =>
        simp only [Database.perform, current, Option.some.injEq] at performed
        exact Or.inl ⟨proceeds, rfl, by rw [← performed]⟩
    | some transaction =>
        simp only [Database.perform, current] at performed
        cases performed
  · rw [result]
    refine Or.inr ⟨thrown, fun proceeds none => ?_, rfl⟩
    have stuck := refused proceeds
    simp only [Database.perform, none] at stuck
    cases stuck

/-- The texts that end a transaction, with what they keep of it. -/
def Ends (sql : Text) (keeps : Bool) : Prop :=
  ∀ readName, readTransactionSql readName sql = some (if keeps then .commit else .rollback)

theorem ends_endSql : Ends endSql true := fun _ => rfl
theorem ends_commitSql : Ends commitSql true := fun _ => rfl
theorem ends_rollbackSql : Ends rollbackSql false := fun _ => rfl

theorem finish_cases (sql : Text) (keeps : Bool) (ends : Ends sql keeps) (verdict : Verdict)
    (db : Database Data) (transaction : Transaction) :
    (∃ opened, verdict = .proceeds ∧ db.current = some opened ∧
      transaction.finish readName sql verdict db =
        ({ db with
          stored := if keeps then opened.seen else db.stored
          current := none
          issued := sql :: db.issued }, ⟨false, false⟩, .ok ())) ∨
    ∃ thrown, (verdict = .proceeds → db.current = none) ∧
      transaction.finish readName sql verdict db =
        (db.failed sql verdict, { transaction with isEnding := false }, .error thrown) := by
  unfold finish
  rcases executeSql_cases readName verdict sql _ (ends readName) db
    with ⟨after, proceeds, performed, result⟩ | ⟨thrown, refused, result⟩
  · rw [result]
    cases current : db.current with
    | none =>
        cases keeps with
        | true =>
            simp only [if_true, Database.perform, current] at performed
            cases performed
        | false =>
            simp only [Bool.false_eq_true, if_false, Database.perform, current] at performed
            cases performed
    | some opened =>
        refine Or.inl ⟨opened, proceeds, rfl, ?_⟩
        cases keeps with
        | true =>
            simp only [if_true, Database.perform, current, Option.some.injEq] at performed
            rw [← performed]
            rfl
        | false =>
            simp only [Bool.false_eq_true, if_false, Database.perform, current,
              Option.some.injEq] at performed
            rw [← performed]
            rfl
  · rw [result]
    refine Or.inr ⟨thrown, fun proceeds => ?_, rfl⟩
    have stuck := refused proceeds
    cases current : db.current with
    | none => rfl
    | some opened =>
        cases keeps with
        | true =>
            simp only [if_true, Database.perform, current] at stuck
            cases stuck
        | false =>
            simp only [Bool.false_eq_true, if_false, Database.perform, current] at stuck
            cases stuck

end Transaction

namespace Savepoint

def IsOpen (savepoint : Savepoint) (db : Database Data) : Prop :=
  ∃ name opened, readName savepoint.name = some name ∧ db.current = some opened ∧
    name ∈ opened.savepoints.map Mark.name

end Savepoint

/-! ## Calls on a transaction object -/

/-- If the call ends a transaction, and then if it keeps what was done in it. -/
def TransactionCall.ending : TransactionCall → Option Bool
  | .begin _ => none
  | .endTransaction => some true
  | .commit => some true
  | .rollback => some false

theorem TransactionCall.run_of_ending (call : TransactionCall) (keeps : Bool)
    (ends : call.ending = some keeps) :
    ∃ sql, Transaction.Ends sql keeps ∧ ∀ (verdict : Verdict) (db : Database Data) transaction,
      call.run readName verdict db transaction =
        transaction.finish readName sql verdict db := by
  cases call with
  | begin type => cases ends
  | endTransaction =>
      cases ends
      exact ⟨_, Transaction.ends_endSql, fun _ _ _ => rfl⟩
  | commit =>
      cases ends
      exact ⟨_, Transaction.ends_commitSql, fun _ _ _ => rfl⟩
  | rollback =>
      cases ends
      exact ⟨_, Transaction.ends_rollbackSql, fun _ _ _ => rfl⟩

theorem TransactionCall.run_cases (call : TransactionCall) (verdict : Verdict)
    (db : Database Data) (transaction : Transaction) :
    (∃ type, call.ending = none ∧ verdict = .proceeds ∧ db.current = none ∧
      call.run readName verdict db transaction =
        ({ db with
          current := some ⟨db.stored, [], false⟩
          issued := Transaction.beginSql type :: db.issued },
          { transaction with isActive := true }, .ok ())) ∨
    (∃ keeps opened sql, call.ending = some keeps ∧ verdict = .proceeds ∧
      db.current = some opened ∧
      call.run readName verdict db transaction =
        ({ db with
          stored := if keeps then opened.seen else db.stored
          current := none
          issued := sql :: db.issued }, ⟨false, false⟩, .ok ())) ∨
    ∃ sql thrown after, (verdict = .proceeds → (db.current = none ↔ call.ending.isSome)) ∧
      after.isActive = transaction.isActive ∧
      (transaction.isEnding = false → after.isEnding = false) ∧
      call.run readName verdict db transaction =
        (db.failed sql verdict, after, .error thrown) := by
  cases ends : call.ending with
  | none =>
      cases call with
      | endTransaction => cases ends
      | commit => cases ends
      | rollback => cases ends
      | begin type =>
          rcases transaction.begin_cases readName type verdict db
            with ⟨proceeds, free, result⟩ | ⟨thrown, refused, result⟩
          · exact Or.inl ⟨type, rfl, proceeds, free, result⟩
          · refine Or.inr (Or.inr ⟨_, thrown, transaction, ?_, rfl, id, result⟩)
            intro proceeds
            exact ⟨fun none => absurd none (refused proceeds),
              fun impossible => by cases impossible⟩
  | some keeps =>
      obtain ⟨sql, endsSql, same⟩ := call.run_of_ending readName keeps ends
      rw [same verdict db transaction]
      rcases transaction.finish_cases readName sql keeps endsSql verdict db
        with ⟨opened, proceeds, current, result⟩ | ⟨thrown, refused, result⟩
      · exact Or.inr (Or.inl ⟨keeps, opened, sql, rfl, proceeds, current, result⟩)
      · refine Or.inr (Or.inr
          ⟨sql, thrown, { transaction with isEnding := false }, ?_, rfl, fun _ => rfl, result⟩)
        intro proceeds
        exact ⟨fun _ => rfl, fun _ => refused proceeds⟩

theorem Transaction.destroy_cases (verdict : Verdict) (db : Database Data)
    (transaction : Transaction) :
    ((transaction.isEnding = true ∨ transaction.isActive = false) ∧
      transaction.destroy readName verdict db = db) ∨
    (transaction.isActive = true ∧ transaction.isEnding = false ∧
      ((verdict = .proceeds ∧ db.current ≠ none ∧
        transaction.destroy readName verdict db =
          { db with current := none, issued := rollbackSql :: db.issued }) ∨
      ((verdict = .proceeds → db.current = none) ∧
        transaction.destroy readName verdict db = db.failed rollbackSql verdict))) := by
  unfold destroy
  cases ending : transaction.isEnding with
  | true => exact Or.inl ⟨Or.inl rfl, if_pos rfl⟩
  | false =>
      cases active : transaction.isActive with
      | false => exact Or.inl ⟨Or.inr rfl, rfl⟩
      | true =>
          refine Or.inr ⟨rfl, rfl, ?_⟩
          simp only [Bool.false_eq_true, if_false, if_true]
          rcases transaction.finish_cases readName rollbackSql false ends_rollbackSql verdict db
            with ⟨opened, proceeds, current, result⟩ | ⟨thrown, refused, result⟩
          · refine Or.inl ⟨proceeds, fun none => ?_, by rw [result]; rfl⟩
            rw [current] at none
            cases none
          · exact Or.inr ⟨refused, by rw [result]⟩

end Objects

/-! ## Programs -/

namespace Scopes
section Runs
variable {Data : Type} (readName : Text → Option Text)

theorem transactionAt_eq_some (index : Nat) (scopes : Scopes Data) (transaction : Transaction) :
    scopes.transactionAt index = some transaction ↔
      scopes.objects[index]? = some (.transaction transaction) := by
  unfold transactionAt
  cases scopes.objects[index]? with
  | none => simp
  | some object => cases object <;> simp

theorem savepointAt_eq_some (index : Nat) (scopes : Scopes Data) (savepoint : Savepoint) :
    scopes.savepointAt index = some savepoint ↔
      scopes.objects[index]? = some (.savepoint savepoint) := by
  unfold savepointAt
  cases scopes.objects[index]? with
  | none => simp
  | some object => cases object <;> simp

theorem settle_owner_free (index : Nat) (db : Database Data) (objects : List ScopeObject)
    (scopes : Scopes Data) (free : db.current = none) :
    (scopes.settle index db objects).owner = none := by
  simp [settle, Database.autocommit, free]

theorem settle_owner_begun (index : Nat) (db : Database Data) (objects : List ScopeObject)
    (scopes : Scopes Data) (free : scopes.db.current = none) (taken : db.current ≠ none) :
    (scopes.settle index db objects).owner = some index := by
  simp [settle, Database.autocommit, free, taken]

theorem settle_owner_kept (index : Nat) (db : Database Data) (objects : List ScopeObject)
    (scopes : Scopes Data) (owned : scopes.db.current = none → scopes.owner = none)
    (same : db.current = scopes.db.current) :
    (scopes.settle index db objects).owner = scopes.owner := by
  by_cases free : scopes.db.current = none
  · simp [settle, Database.autocommit, same, free, owned]
  · simp [settle, Database.autocommit, same, free]

theorem run_transaction (scopes next : Scopes Data) (type : TransactionType) (verdict : Verdict)
    (outcome : Except Exception Unit)
    (run : scopes.run readName (.transaction type verdict) = some (next, outcome)) :
    (verdict = .proceeds ∧ scopes.db.current = none ∧ outcome = .ok () ∧
      next = scopes.settle scopes.objects.length
        { scopes.db with
          current := some ⟨scopes.db.stored, [], false⟩
          issued := Transaction.beginSql type :: scopes.db.issued }
        (scopes.objects ++ [.transaction ⟨true, false⟩])) ∨
    ((verdict = .proceeds → scopes.db.current ≠ none) ∧
      next = scopes.settle scopes.objects.length
        (scopes.db.failed (Transaction.beginSql type) verdict) scopes.objects) := by
  unfold Scopes.run at run
  split at run
  · cases run
  · rcases Transaction.begin_cases readName type verdict scopes.db ⟨false, false⟩
      with ⟨proceeds, free, result⟩ | ⟨thrown, refused, result⟩
    · simp only [result, Option.some.injEq, Prod.mk.injEq] at run
      exact Or.inl ⟨proceeds, free, run.2.symm, run.1.symm⟩
    · simp only [result, Option.some.injEq, Prod.mk.injEq] at run
      exact Or.inr ⟨refused, run.1.symm⟩

theorem run_call (scopes next : Scopes Data) (index : Nat) (call : TransactionCall)
    (verdict : Verdict) (outcome : Except Exception Unit)
    (run : scopes.run readName (.call index call verdict) = some (next, outcome)) :
    ∃ transaction, scopes.objects[index]? = some (.transaction transaction) ∧
      outcome = (call.run readName verdict scopes.db transaction).2.2 ∧
      next = scopes.settle index (call.run readName verdict scopes.db transaction).1
        (scopes.objects.set index
          (.transaction (call.run readName verdict scopes.db transaction).2.1)) := by
  unfold Scopes.run at run
  split at run
  · cases run
  · obtain ⟨transaction, found, result⟩ := Option.map_eq_some_iff.mp run
    cases result
    exact ⟨transaction, (transactionAt_eq_some index scopes transaction).mp found, rfl, rfl⟩

theorem run_destroy_transaction (scopes next : Scopes Data) (index : Nat) (verdict : Verdict)
    (outcome : Except Exception Unit) (transaction : Transaction)
    (found : scopes.objects[index]? = some (.transaction transaction))
    (run : scopes.run readName (.destroy index verdict) = some (next, outcome)) :
    outcome = .ok () ∧
      next = scopes.settle index (transaction.destroy readName verdict scopes.db)
        (scopes.objects.set index .destroyed) := by
  unfold Scopes.run at run
  split at run
  · cases run
  · simp only [found, Option.some.injEq, Prod.mk.injEq] at run
    exact ⟨run.2.symm, run.1.symm⟩

theorem step_eq_some (scopes next : Scopes Data) (action : ScopeAction Data)
    (enabled : scopes.step readName action = some next) :
    ∃ outcome, scopes.run readName action = some (next, outcome) := by
  obtain ⟨⟨after, outcome⟩, run, same⟩ := Option.map_eq_some_iff.mp enabled
  cases same
  exact ⟨outcome, run⟩

end Runs
end Scopes
end VSQLite
