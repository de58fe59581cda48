import VSQLite.Transaction.Steps

/-!
# Savepoint objects one call at a time

What a call on a savepoint object leaves of the savepoints that are open, and of the content
that the connection sees.
-/

set_option autoImplicit false

namespace VSQLite

section Savepoints
variable {Data : Type}

namespace Database

def visible (db : Database Data) : Data :=
  match db.current with
  | none => db.stored
  | some transaction => transaction.seen

def marks (db : Database Data) : List (Mark Data) :=
  match db.current with
  | none => []
  | some transaction => transaction.savepoints

theorem perform_issued (db after : Database Data) (statement : TransactionSql)
    (performed : db.perform statement = some after) : after.issued = db.issued := by
  unfold perform at performed
  cases current : db.current with
  | none =>
      simp only [current] at performed
      cases statement <;> cases performed <;> rfl
  | some opened =>
      simp only [current] at performed
      cases statement with
      | begin => cases performed
      | commit => cases performed; rfl
      | rollback => cases performed; rfl
      | savepoint name => cases performed; rfl
      | release name =>
          dsimp only at performed
          split at performed
          · cases performed
          · split at performed <;> cases performed <;> rfl
      | rollbackTo name =>
          dsimp only at performed
          split at performed
          · cases performed
          · cases performed
            rfl

theorem perform_savepoint (db : Database Data) (name : Text) :
    ∃ after, db.perform (.savepoint name) = some after ∧ after.current ≠ none ∧
      after.visible = db.visible ∧ after.marks = ⟨name, db.visible⟩ :: db.marks := by
  cases current : db.current with
  | none =>
      refine ⟨{ db with current := some ⟨db.stored, [⟨name, db.stored⟩], true⟩ }, ?_,
        Option.some_ne_none _, ?_, ?_⟩
      · simp only [perform, current]
      · simp only [visible, current]
      · simp only [visible, marks, current]
  | some opened =>
      refine ⟨{ db with current := some { opened with
        savepoints := ⟨name, opened.seen⟩ :: opened.savepoints } }, ?_, Option.some_ne_none _,
        ?_, ?_⟩
      · simp only [perform, current]
      · simp only [visible, current]
      · simp only [visible, marks, current]

theorem perform_release (db : Database Data) (name : Text) :
    (unwind name db.marks = none ∧ db.perform (.release name) = none) ∨
    ∃ mark outer after, unwind name db.marks = some (mark, outer) ∧
      db.perform (.release name) = some after ∧ after.marks = outer := by
  cases current : db.current with
  | none =>
      have free : db.marks = [] := by simp only [marks, current]
      refine Or.inl ⟨by rw [free]; rfl, ?_⟩
      simp only [perform, current]
  | some opened =>
      have taken : db.marks = opened.savepoints := by simp only [marks, current]
      rw [taken]
      simp only [perform, current]
      cases unwound : unwind name opened.savepoints with
      | none => exact Or.inl ⟨rfl, rfl⟩
      | some pair =>
          obtain ⟨mark, outer⟩ := pair
          by_cases last : (outer.isEmpty && opened.bySavepoint) = true
          · have none_left : outer = [] := by
              rw [Bool.and_eq_true, List.isEmpty_iff] at last
              exact last.1
            exact Or.inr ⟨mark, outer, _, rfl, if_pos last, none_left.symm⟩
          · exact Or.inr ⟨mark, outer, _, rfl, if_neg last, rfl⟩

theorem perform_rollbackTo (db : Database Data) (name : Text) :
    (unwind name db.marks = none ∧ db.perform (.rollbackTo name) = none) ∨
    ∃ mark outer after, unwind name db.marks = some (mark, outer) ∧
      db.perform (.rollbackTo name) = some after ∧ after.marks = mark :: outer ∧
      after.visible = mark.content := by
  cases current : db.current with
  | none =>
      have free : db.marks = [] := by simp only [marks, current]
      refine Or.inl ⟨by rw [free]; rfl, ?_⟩
      simp only [perform, current]
  | some opened =>
      have taken : db.marks = opened.savepoints := by simp only [marks, current]
      rw [taken]
      simp only [perform, current]
      cases unwound : unwind name opened.savepoints with
      | none => exact Or.inl ⟨rfl, rfl⟩
      | some pair => exact Or.inr ⟨pair.1, pair.2, _, rfl, rfl, rfl, rfl⟩

end Database

theorem unwind_isSome_iff (name : Text) (savepoints : List (Mark Data)) :
    (unwind name savepoints).isSome = true ↔ name ∈ savepoints.map Mark.name := by
  induction savepoints with
  | nil => simp [unwind]
  | cons mark outer ih =>
      simp only [unwind, List.map_cons, List.mem_cons]
      by_cases same : mark.name = name
      · simp [same]
      · rw [if_neg same, ih]
        exact ⟨Or.inr, fun either => either.resolve_left fun equal => same equal.symm⟩

/-- A statement that throws leaves the savepoints that are open, or ends the transaction. -/
def Database.Spared (before after : Database Data) : Prop :=
  after.current = none ∨ after.current = before.current

variable (readName : Text → Option Text)

theorem executeSql_issued (verdict : Verdict) (sql : Text) (db : Database Data) :
    (executeSql readName verdict sql db).1.issued = sql :: db.issued := by
  cases read : readTransactionSql readName sql with
  | none =>
      unfold executeSql
      rw [read]
  | some statement =>
      rcases executeSql_cases readName verdict sql statement read db with
        ⟨after, _, performed, result⟩ | ⟨thrown, _, result⟩
      · rw [result]
        exact Database.perform_issued _ _ _ performed
      · rw [result]

theorem executeSql_read (verdict : Verdict) (sql : Text) (statement : Option TransactionSql)
    (read : readTransactionSql readName sql = statement) (db : Database Data) :
    (∃ known after, statement = some known ∧ verdict = .proceeds ∧
      { db with issued := sql :: db.issued }.perform known = some after ∧
      executeSql readName verdict sql db = (after, .ok ())) ∨
    ∃ thrown after, (∀ known, statement = some known → verdict = .proceeds →
        { db with issued := sql :: db.issued }.perform known = none) ∧
      db.Spared after ∧ executeSql readName verdict sql db = (after, .error thrown) := by
  cases statement with
  | none =>
      refine Or.inr ⟨.databaseExceptionCode (.error 1) sql,
        { db with issued := sql :: db.issued }, nofun, Or.inr rfl, ?_⟩
      unfold executeSql
      rw [read]
  | some known =>
      rcases executeSql_cases readName verdict sql known read db with
        ⟨after, proceeds, performed, result⟩ | ⟨thrown, refused, result⟩
      · exact Or.inl ⟨known, after, rfl, proceeds, performed, result⟩
      · refine Or.inr ⟨thrown, db.failed sql verdict, ?_, db.failed_current sql verdict, result⟩
        intro _ same proceeds
        cases same
        exact refused proceeds

namespace Savepoint

theorem construct_cases (name : Text) (verdict : Verdict) (db : Database Data) :
    (∃ folded after, readName name = some folded ∧ verdict = .proceeds ∧
      construct readName name verdict db = (after, .ok ⟨name, true⟩) ∧ after.current ≠ none ∧
      after.visible = db.visible ∧ after.marks = ⟨folded, db.visible⟩ :: db.marks) ∨
    ∃ thrown after, (verdict = .proceeds → readName name = none) ∧ db.Spared after ∧
      construct readName name verdict db = (after, .error thrown) := by
  unfold construct
  rcases executeSql_read readName verdict _ _ (read_savepoint readName name) db with
    ⟨known, after, read, proceeds, performed, result⟩ | ⟨thrown, after, refused, spared, result⟩
  · left
    obtain ⟨folded, found, same⟩ := Option.map_eq_some_iff.mp read
    rw [← same] at performed
    obtain ⟨entered, entering, taken, seen, pushed⟩ := Database.perform_savepoint
      { db with issued := (ascii "SAVEPOINT " ++ name) :: db.issued } folded
    cases entering.symm.trans performed
    exact ⟨folded, after, found, proceeds, by rw [result], taken, seen, pushed⟩
  · right
    refine ⟨thrown, after, fun proceeds => ?_, spared, by rw [result]⟩
    cases read : readName name with
    | none => rfl
    | some folded =>
        obtain ⟨entered, entering, _⟩ := Database.perform_savepoint
          { db with issued := (ascii "SAVEPOINT " ++ name) :: db.issued } folded
        have stuck := refused (.savepoint folded) (by rw [read]; rfl) proceeds
        cases entering.symm.trans stuck

theorem release_cases (verdict : Verdict) (db : Database Data) (savepoint : Savepoint)
    (folded : Text) (read : readName savepoint.name = some folded) :
    (∃ mark outer after, verdict = .proceeds ∧ unwind folded db.marks = some (mark, outer) ∧
      after.marks = outer ∧
      savepoint.release readName verdict db =
        (after, { savepoint with isActive := false }, .ok ())) ∨
    ∃ thrown after, (verdict = .proceeds → unwind folded db.marks = none) ∧ db.Spared after ∧
      savepoint.release readName verdict db = (after, savepoint, .error thrown) := by
  have statement := read_release readName savepoint.name
  rw [read, Option.map_some] at statement
  unfold release
  have performs := Database.perform_release
    { db with issued := (ascii "RELEASE SAVEPOINT " ++ savepoint.name) :: db.issued } folded
  rcases executeSql_read readName verdict _ _ statement db with
    ⟨known, after, same, proceeds, performed, result⟩ | ⟨thrown, after, refused, spared, result⟩
  · left
    cases same
    rcases performs with ⟨_, stuck⟩ | ⟨mark, outer, left_, unwound, performing, kept⟩
    · cases stuck.symm.trans performed
    · cases performing.symm.trans performed
      exact ⟨mark, outer, after, proceeds, unwound, kept, by rw [result]⟩
  · right
    refine ⟨thrown, after, fun proceeds => ?_, spared, by rw [result]⟩
    rcases performs with ⟨unwound, _⟩ | ⟨_, _, _, _, performing, _⟩
    · exact unwound
    · cases performing.symm.trans (refused _ rfl proceeds)

theorem rollback_cases (verdict : Verdict) (db : Database Data) (savepoint : Savepoint)
    (folded : Text) (read : readName savepoint.name = some folded) :
    (∃ mark outer after, verdict = .proceeds ∧ unwind folded db.marks = some (mark, outer) ∧
      after.marks = mark :: outer ∧ after.visible = mark.content ∧
      savepoint.rollback readName verdict db = (after, .ok ())) ∨
    ∃ thrown after, (verdict = .proceeds → unwind folded db.marks = none) ∧ db.Spared after ∧
      savepoint.rollback readName verdict db = (after, .error thrown) := by
  have statement := read_rollbackTo readName savepoint.name
  rw [read, Option.map_some] at statement
  unfold rollback
  have performs := Database.perform_rollbackTo { db with
    issued := (ascii "ROLLBACK TRANSACTION TO SAVEPOINT " ++ savepoint.name) :: db.issued } folded
  rcases executeSql_read readName verdict _ _ statement db with
    ⟨known, after, same, proceeds, performed, result⟩ | ⟨thrown, after, refused, spared, result⟩
  · left
    cases same
    rcases performs with ⟨_, stuck⟩ | ⟨mark, outer, left_, unwound, performing, kept, seen⟩
    · cases stuck.symm.trans performed
    · cases performing.symm.trans performed
      exact ⟨mark, outer, after, proceeds, unwound, kept, seen, result⟩
  · right
    refine ⟨thrown, after, fun proceeds => ?_, spared, result⟩
    rcases performs with ⟨unwound, _⟩ | ⟨_, _, _, _, performing, _⟩
    · exact unwound
    · cases performing.symm.trans (refused _ rfl proceeds)

theorem isOpen_iff (savepoint : Savepoint) (db : Database Data) :
    savepoint.IsOpen readName db ↔
      ∃ name, readName savepoint.name = some name ∧ (unwind name db.marks).isSome = true := by
  unfold IsOpen Database.marks
  cases db.current with
  | none => simp [unwind]
  | some opened => simp [unwind_isSome_iff]

theorem release_returns_iff (verdict : Verdict) (db : Database Data) (savepoint : Savepoint) :
    (savepoint.release readName verdict db).2.2 = .ok () ↔
      verdict = .proceeds ∧ savepoint.IsOpen readName db := by
  rw [isOpen_iff]
  cases read : readName savepoint.name with
  | none =>
      have statement := read_release readName savepoint.name
      rw [read, Option.map_none] at statement
      have throws : (savepoint.release readName verdict db).2.2 ≠ .ok () := by
        unfold release executeSql
        rw [statement]
        exact nofun
      exact iff_of_false throws nofun
  | some folded =>
      rcases savepoint.release_cases readName verdict db folded read with
        ⟨mark, outer, after, proceeds, unwound, _, result⟩ | ⟨thrown, after, refused, _, result⟩
      · rw [result]
        exact iff_of_true rfl ⟨proceeds, folded, rfl, by rw [unwound]; rfl⟩
      · rw [result]
        refine iff_of_false nofun ?_
        rintro ⟨proceeds, _, ⟨⟩, isOpen⟩
        rw [refused proceeds] at isOpen
        cases isOpen

end Savepoint

namespace Scopes

theorem run_savepoint (scopes next : Scopes Data) (name : Text) (verdict : Verdict)
    (outcome : Except Exception Unit)
    (run : scopes.run readName (.savepoint name verdict) = some (next, outcome)) :
    (∃ db made, Savepoint.construct readName name verdict scopes.db = (db, .ok made) ∧
      outcome = .ok () ∧ next = scopes.settle scopes.objects.length db
        (scopes.objects ++ [.savepoint made])) ∨
    ∃ db thrown, Savepoint.construct readName name verdict scopes.db = (db, .error thrown) ∧
      outcome = .error thrown ∧ next = scopes.settle scopes.objects.length db scopes.objects := by
  unfold Scopes.run at run
  split at run
  · cases run
  · dsimp only at run
    split at run
    · rename_i db thrown result
      cases run
      exact Or.inr ⟨db, thrown, result, rfl, rfl⟩
    · rename_i db made result
      cases run
      exact Or.inl ⟨db, made, result, rfl, rfl⟩

theorem run_callSavepoint (scopes next : Scopes Data) (index : Nat) (call : SavepointCall)
    (verdict : Verdict) (outcome : Except Exception Unit)
    (run : scopes.run readName (.callSavepoint index call verdict) = some (next, outcome)) :
    ∃ savepoint, scopes.objects[index]? = some (.savepoint savepoint) ∧
      outcome = (call.run readName verdict scopes.db savepoint).2.2 ∧
      next = scopes.settle index (call.run readName verdict scopes.db savepoint).1
        (scopes.objects.set index
          (.savepoint (call.run readName verdict scopes.db savepoint).2.1)) := by
  unfold Scopes.run at run
  split at run
  · cases run
  · obtain ⟨savepoint, found, result⟩ := Option.map_eq_some_iff.mp run
    cases result
    exact ⟨savepoint, (savepointAt_eq_some index scopes savepoint).mp found, rfl, rfl⟩

theorem run_destroy_savepoint (scopes next : Scopes Data) (index : Nat) (verdict : Verdict)
    (outcome : Except Exception Unit) (savepoint : Savepoint)
    (found : scopes.objects[index]? = some (.savepoint savepoint))
    (run : scopes.run readName (.destroy index verdict) = some (next, outcome)) :
    outcome = (savepoint.destroy readName verdict scopes.db).2 ∧
      next.db = (savepoint.destroy readName verdict scopes.db).1 ∧
      next.objects = scopes.objects.set index .destroyed := by
  unfold Scopes.run at run
  split at run
  · cases run
  · simp only [found] at run
    split at run
    · rename_i db result
      cases run
      exact ⟨(congrArg Prod.snd result).symm, (congrArg Prod.fst result).symm, rfl⟩
    · rename_i db thrown result
      cases run
      exact ⟨(congrArg Prod.snd result).symm, (congrArg Prod.fst result).symm, rfl⟩

end Scopes
end Savepoints
end VSQLite
