import VSQLite.Command.Model

/-!
# Commands see their own statement only

What an operation returns, which `sqlite3_step` call it makes and what becomes of its
statement depend on that statement alone, not on its number, on the other statements
or on the log.
-/

set_option autoImplicit false

namespace VSQLite

def Event.stepCall : Event → Option StepCall
  | .stepped _ _ call => some call
  | _ => none

def Sqlite.stepCalls (sqlite : Sqlite) : List StepCall := sqlite.log.filterMap Event.stepCall

namespace Session

def own (session : Session) : Option Stmt :=
  session.command.stmt.bind fun id => session.sqlite.stmts[id]?

/-- Two sessions whose commands are in the same state and own statements in the same
state; `earlier` are the step calls that only the first one has seen. -/
structure Alike (earlier : List StepCall) (session twin : Session) : Prop where
  handle : session.handle = twin.handle
  sql : session.command.sql = twin.command.sql
  lastArgIdx : session.command.lastArgIdx = twin.command.lastArgIdx
  limit : session.sqlite.lengthLimit = twin.sqlite.lengthLimit
  stmt : (session.command.stmt = none ∧ twin.command.stmt = none) ∨
    ∃ id other stmt, session.command.stmt = some id ∧ twin.command.stmt = some other ∧
      session.sqlite.stmts[id]? = some stmt ∧ twin.sqlite.stmts[other]? = some stmt
  calls : session.sqlite.stepCalls = twin.sqlite.stepCalls ++ earlier

section Alike
variable {earlier : List StepCall} {session twin : Session}

theorem Alike.own (alike : Alike earlier session twin) : session.own = twin.own := by
  rcases alike.stmt with ⟨left, right⟩ | ⟨id, other, stmt, left, right, here, there⟩
  · rw [Session.own, left, Session.own, right]
    rfl
  · rw [Session.own, left, Session.own, right]
    exact here.trans there.symm

theorem Alike.modify (alike : Alike earlier session twin) (id other : StmtId) (stmt : Stmt)
    (left : session.command.stmt = some id) (right : twin.command.stmt = some other)
    (here : session.sqlite.stmts[id]? = some stmt)
    (there : twin.sqlite.stmts[other]? = some stmt) (change : Stmt → Stmt)
    (event copy : Event) (same : event.stepCall = copy.stepCall) :
    Alike earlier { session with sqlite := session.sqlite.modify id change event }
      { twin with sqlite := twin.sqlite.modify other change copy } := by
  refine ⟨alike.handle, alike.sql, alike.lastArgIdx, alike.limit,
    Or.inr ⟨id, other, change stmt, left, right, ?_, ?_⟩, ?_⟩
  · simp [Sqlite.modify, here]
  · simp [Sqlite.modify, there]
  · have before := alike.calls
    simp only [Sqlite.stepCalls, Sqlite.modify, List.filterMap_cons, same] at before ⊢
    cases copy.stepCall with
    | none => exact before
    | some call => rw [before, List.cons_append]

theorem Alike.setLastArgIdx (alike : Alike earlier session twin) (index : Nat) :
    Alike earlier (session.setLastArgIdx index) (twin.setLastArgIdx index) :=
  ⟨alike.handle, alike.sql, rfl, alike.limit, alike.stmt, alike.calls⟩

theorem Alike.accessCheck_none (alike : Alike earlier session twin)
    (left : session.command.stmt = none) (right : twin.command.stmt = none) :
    ∃ thrown, session.accessCheck = .error thrown ∧ twin.accessCheck = .error thrown := by
  unfold Session.accessCheck
  rw [left, right, alike.handle]
  split <;> exact ⟨_, rfl, rfl⟩

theorem Alike.accessCheck (alike : Alike earlier session twin) :
    (∃ thrown, session.accessCheck = .error thrown ∧ twin.accessCheck = .error thrown) ∨
    ∃ id other stmt, session.accessCheck = .ok id ∧ twin.accessCheck = .ok other ∧
      session.command.stmt = some id ∧ twin.command.stmt = some other ∧
      session.sqlite.stmts[id]? = some stmt ∧ twin.sqlite.stmts[other]? = some stmt := by
  rcases alike.stmt with ⟨left, right⟩ | ⟨id, other, stmt, left, right, here, there⟩
  · exact Or.inl (alike.accessCheck_none left right)
  · by_cases closed : twin.handle.isNone = true
    · refine Or.inl ⟨_, ?_, if_pos closed⟩
      rw [← alike.handle] at closed
      exact if_pos closed
    · refine Or.inr ⟨id, other, stmt, ?_, ?_, left, right, here, there⟩
      · rw [← alike.handle] at closed
        rw [Session.accessCheck, if_neg closed, left]
      · rw [Session.accessCheck, if_neg closed, right]

theorem Alike.bind (alike : Alike earlier session twin) (index : Int) (value : Value) :
    Alike earlier (session.bind index value).1 (twin.bind index value).1 ∧
      (session.bind index value).2 = (twin.bind index value).2 := by
  rcases alike.accessCheck with ⟨thrown, refused, twinRefused⟩ |
    ⟨id, other, stmt, passed, twinPassed, left, right, here, there⟩
  · simp only [Session.bind, refused, twinRefused]
    exact ⟨alike, trivial⟩
  · simp only [Session.bind, passed, twinPassed, sqlite3Bind, here, there, alike.limit, alike.sql]
    exact ⟨alike.modify id other stmt left right here there _ _ _ rfl, trivial⟩

theorem Alike.parameterIndex (alike : Alike earlier session twin) (name : Text) :
    session.parameterIndex name = twin.parameterIndex name := by
  rcases alike.accessCheck with ⟨thrown, refused, twinRefused⟩ |
    ⟨id, other, stmt, passed, twinPassed, left, right, here, there⟩
  · simp only [Session.parameterIndex, refused, twinRefused]
  · simp only [Session.parameterIndex, passed, twinPassed, sqlite3BindParameterIndex, here, there]

theorem Alike.bindNamed (alike : Alike earlier session twin) (name : Text) (value : Value) :
    Alike earlier (session.bindNamed name value).1 (twin.bindNamed name value).1 ∧
      (session.bindNamed name value).2 = (twin.bindNamed name value).2 := by
  unfold Session.bindNamed
  rw [alike.parameterIndex name]
  cases twin.parameterIndex name with
  | error thrown => exact ⟨alike, rfl⟩
  | ok index => exact alike.bind index value

theorem Alike.percent (alike : Alike earlier session twin) (arg : Arg) :
    Alike earlier (session.percent arg).1 (twin.percent arg).1 ∧
      (session.percent arg).2 = (twin.percent arg).2 := by
  cases arg with
  | positional value =>
      simp only [Session.percent, alike.lastArgIdx]
      exact (alike.setLastArgIdx _).bind _ value
  | named name value => exact alike.bindNamed name value

theorem Alike.percentAll (alike : Alike earlier session twin) (args : List Arg) :
    Alike earlier (percentAll args session).1 (percentAll args twin).1 ∧
      (percentAll args session).2 = (percentAll args twin).2 := by
  induction args generalizing session twin with
  | nil => exact ⟨alike, rfl⟩
  | cons arg rest ih =>
      obtain ⟨after, same⟩ := alike.percent arg
      simp only [Session.percentAll]
      generalize session.percent arg = bound at after same ⊢
      generalize twin.percent arg = copy at after same ⊢
      obtain ⟨bound, outcome⟩ := bound
      obtain ⟨copy, copied⟩ := copy
      cases same
      cases outcome with
      | error thrown => exact ⟨after, rfl⟩
      | ok _ => exact ih after

theorem Alike.resetStatement (alike : Alike earlier session twin) :
    Alike earlier session.resetStatement twin.resetStatement := by
  unfold Session.resetStatement
  rcases alike.stmt with ⟨left, right⟩ | ⟨id, other, stmt, left, right, here, there⟩
  · rw [left, right]
    exact alike
  · rw [left, right]
    exact alike.modify id other stmt left right here there _ _ _ rfl

theorem Alike.step (alike : Alike earlier session twin) (answer : StepCall → ResultCode) :
    Alike earlier (session.step answer).1 (twin.step answer).1 ∧
      (session.step answer).2 = (twin.step answer).2 := by
  rcases alike.accessCheck with ⟨thrown, refused, twinRefused⟩ |
    ⟨id, other, stmt, passed, twinPassed, left, right, here, there⟩
  · simp only [Session.step, refused, twinRefused]
    exact ⟨alike, trivial⟩
  · simp only [Session.step, passed, twinPassed, sqlite3Step, here, there, alike.sql]
    exact ⟨alike.modify id other stmt left right here there _ _ _ rfl, trivial⟩

theorem Alike.operatorCall (alike : Alike earlier session twin)
    (answer : StepCall → ResultCode) :
    Alike earlier (session.operatorCall answer).1 (twin.operatorCall answer).1 ∧
      (session.operatorCall answer).2 = (twin.operatorCall answer).2 := by
  obtain ⟨after, same⟩ := alike.step answer
  unfold Session.operatorCall
  generalize session.step answer = stepped at after same ⊢
  generalize twin.step answer = copy at after same ⊢
  obtain ⟨stepped, outcome⟩ := stepped
  obtain ⟨copy, copied⟩ := copy
  cases same
  cases outcome with
  | error thrown => exact ⟨after, rfl⟩
  | ok _ => exact ⟨after.setLastArgIdx 0, rfl⟩

theorem Alike.variadicCall (alike : Alike earlier session twin)
    (answer : StepCall → ResultCode) (args : List Arg) :
    Alike earlier (session.variadicCall answer args).1 (twin.variadicCall answer args).1 ∧
      (session.variadicCall answer args).2 = (twin.variadicCall answer args).2 := by
  cases args with
  | nil => exact alike.operatorCall answer
  | cons arg rest =>
      obtain ⟨after, same⟩ := alike.resetStatement.percentAll (arg :: rest)
      simp only [Session.variadicCall]
      generalize Session.percentAll (arg :: rest) session.resetStatement = bound at after same ⊢
      generalize Session.percentAll (arg :: rest) twin.resetStatement = copy at after same ⊢
      obtain ⟨bound, outcome⟩ := bound
      obtain ⟨copy, copied⟩ := copy
      cases same
      cases outcome with
      | error thrown => exact ⟨after, rfl⟩
      | ok _ => exact after.operatorCall answer

end Alike
end Session

end VSQLite
