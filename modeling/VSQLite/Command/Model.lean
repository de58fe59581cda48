import VSQLite.Command.Keyword

/-!
# Commands

The member functions of `command` on a prepared statement.  A session is what such
a function can reach: the connection's handle, SQLite, and the members of the
command.  A function returns the session it leaves behind also when it throws.
-/

set_option autoImplicit false

namespace VSQLite

inductive Exception where
  | databaseException (what : Text)
  | databaseExceptionCode (err : ResultCode) (sql : Text)
  | databaseMisuseExceptionCode (err : ResultCode) (sql : Text)
  | databaseSystemError (what : Text) (code : Nat)
  | outOfRange (what : Text)
  | runtimeError (what : Text)
deriving DecidableEq, Repr

structure Command where
  sql : Text
  stmt : Option StmtId
  lastArgIdx : Nat
deriving DecidableEq, Repr

structure Session where
  handle : Option DbHandle
  sqlite : Sqlite
  command : Command

inductive Arg where
  | positional (value : Value)
  | named (name : Text) (value : Value)
deriving DecidableEq, Repr

namespace Session

/-- `connection::access_check`, then the check for a statement. -/
def accessCheck (session : Session) : Except Exception StmtId :=
  if session.handle.isNone then .error (.databaseException (ascii "Database is not open."))
  else
    match session.command.stmt with
    | none => .error (.databaseException (ascii "command was not prepared or is invalid"))
    | some stmt => .ok stmt

def setLastArgIdx (index : Nat) (session : Session) : Session :=
  { session with command := { session.command with lastArgIdx := index } }

/-- Every `bind(int, ..)` overload, on the value it hands to SQLite. -/
def bind (index : Int) (value : Value) (session : Session) : Session × Except Exception Unit :=
  match session.accessCheck with
  | .error thrown => (session, .error thrown)
  | .ok stmt =>
      let result := sqlite3Bind stmt index value session.sqlite
      ({ session with sqlite := result.2 },
        if result.1 = .ok then .ok ()
        else .error (.databaseExceptionCode result.1 session.command.sql))

def parameterIndex (name : Text) (session : Session) : Except Exception Nat :=
  match session.accessCheck with
  | .error thrown => .error thrown
  | .ok stmt =>
      let index := sqlite3BindParameterIndex stmt name session.sqlite
      if index = 0 then .error (.databaseException (ascii "no such parameter: " ++ name))
      else .ok index

def bindNamed (name : Text) (value : Value) (session : Session) :
    Session × Except Exception Unit :=
  match session.parameterIndex name with
  | .error thrown => (session, .error thrown)
  | .ok index => session.bind index value

/-- `operator%`: the counter is advanced before the bind that may throw. -/
def percent (arg : Arg) (session : Session) : Session × Except Exception Unit :=
  match arg with
  | .positional value =>
      (session.setLastArgIdx (session.command.lastArgIdx + 1)).bind
        ((session.command.lastArgIdx + 1 : Nat) : Int) value
  | .named name value => session.bindNamed name value

/-- The fold expression of the variadic `operator()`. -/
def percentAll : List Arg → Session → Session × Except Exception Unit
  | [], session => (session, .ok ())
  | arg :: rest, session =>
      match session.percent arg with
      | (bound, .error thrown) => (bound, .error thrown)
      | (bound, .ok ()) => percentAll rest bound

def resetStatement (session : Session) : Session :=
  { session with sqlite := sqlite3Reset session.command.stmt session.sqlite }

def clear (session : Session) : Session :=
  (session.resetStatement.setLastArgIdx 0).resetStatement

def step (answer : StepCall → ResultCode) (session : Session) :
    Session × Except Exception Bool :=
  match session.accessCheck with
  | .error thrown => (session, .error thrown)
  | .ok stmt =>
      let result := sqlite3Step answer stmt session.sqlite
      ({ session with sqlite := result.2 },
        match result.1 with
        | .row => .ok true
        | .done => .ok false
        | .misuse => .error (.databaseMisuseExceptionCode .misuse session.command.sql)
        | err => .error (.databaseExceptionCode err session.command.sql))

/-- `operator()()`. -/
def operatorCall (answer : StepCall → ResultCode) (session : Session) :
    Session × Except Exception Bool :=
  match session.step answer with
  | (stepped, .error thrown) => (stepped, .error thrown)
  | (stepped, .ok result) => (stepped.setLastArgIdx 0, .ok result)

/-- `operator()(args...)`; without arguments it is `operator()()`. -/
def variadicCall (answer : StepCall → ResultCode) (args : List Arg) (session : Session) :
    Session × Except Exception Bool :=
  match args with
  | [] => session.operatorCall answer
  | args =>
      match percentAll args session.resetStatement with
      | (bound, .error thrown) => (bound, .error thrown)
      | (bound, .ok ()) => bound.operatorCall answer

end Session

inductive CommandOp where
  | bind (index : Int) (value : Value)
  | bindNamed (name : Text) (value : Value)
  | percent (arg : Arg)
  | stepOnce
  | call (args : List Arg)
  | clear
  | resetStatement
deriving DecidableEq, Repr

/-- The session after the operation, and what it threw or returned. -/
def CommandOp.run (answer : StepCall → ResultCode) (session : Session) :
    CommandOp → Session × Except Exception (Option Bool)
  | .bind index value =>
      ((session.bind index value).1, (session.bind index value).2.map fun _ => none)
  | .bindNamed name value =>
      ((session.bindNamed name value).1, (session.bindNamed name value).2.map fun _ => none)
  | .percent arg => ((session.percent arg).1, (session.percent arg).2.map fun _ => none)
  | .stepOnce => ((session.step answer).1, (session.step answer).2.map some)
  | .call args =>
      ((session.variadicCall answer args).1, (session.variadicCall answer args).2.map some)
  | .clear => (session.clear, .ok none)
  | .resetStatement => (session.resetStatement, .ok none)

/-! ## What an operation leaves alone -/

namespace Session

/-- The text and the statement of the command stay, and SQLite changes by uses of that
statement only. -/
structure Keeps (before after : Session) : Prop where
  handle : after.handle = before.handle
  sql : after.command.sql = before.command.sql
  stmt : after.command.stmt = before.command.stmt
  uses : ∀ id, before.command.stmt = some id → Uses id before.sqlite after.sqlite
  idle : before.command.stmt = none → after.sqlite = before.sqlite

theorem Keeps.refl (session : Session) : Keeps session session :=
  ⟨rfl, rfl, rfl, fun id _ => Uses.refl id _, fun _ => rfl⟩

theorem Keeps.trans {first second third : Session}
    (early : Keeps first second) (late : Keeps second third) : Keeps first third := by
  refine ⟨late.handle.trans early.handle, late.sql.trans early.sql,
    late.stmt.trans early.stmt, fun id owned => ?_, fun absent => ?_⟩
  · exact (early.uses id owned).trans (late.uses id (early.stmt.trans owned))
  · exact (late.idle (early.stmt.trans absent)).trans (early.idle absent)

theorem keeps_setLastArgIdx (index : Nat) (session : Session) :
    Keeps session (session.setLastArgIdx index) :=
  ⟨rfl, rfl, rfl, fun id _ => Uses.refl id _, fun _ => rfl⟩

theorem keeps_of_uses (session : Session) (stmt : StmtId) (sqlite : Sqlite)
    (owned : session.command.stmt = some stmt) (uses : Uses stmt session.sqlite sqlite) :
    Keeps session { session with sqlite := sqlite } := by
  refine ⟨rfl, rfl, rfl, fun id same => ?_, fun absent => ?_⟩
  · rw [owned] at same
    cases same
    exact uses
  · rw [owned] at absent
    cases absent

theorem accessCheck_ok (session : Session) (stmt : StmtId)
    (passed : session.accessCheck = .ok stmt) : session.command.stmt = some stmt := by
  unfold accessCheck at passed
  split at passed
  · cases passed
  · split at passed
    · cases passed
    · rename_i found owned
      cases passed
      exact owned

theorem keeps_bind (index : Int) (value : Value) (session : Session) :
    Keeps session (session.bind index value).1 := by
  unfold bind
  cases passed : session.accessCheck with
  | error thrown => exact Keeps.refl session
  | ok stmt =>
      exact keeps_of_uses session stmt _ (accessCheck_ok session stmt passed)
        (uses_bind stmt index value session.sqlite)

theorem keeps_bindNamed (name : Text) (value : Value) (session : Session) :
    Keeps session (session.bindNamed name value).1 := by
  unfold bindNamed
  cases session.parameterIndex name with
  | error thrown => exact Keeps.refl session
  | ok index => exact keeps_bind index value session

theorem keeps_percent (arg : Arg) (session : Session) :
    Keeps session (session.percent arg).1 := by
  cases arg with
  | positional value =>
      exact (keeps_setLastArgIdx _ session).trans (keeps_bind _ value _)
  | named name value => exact keeps_bindNamed name value session

theorem percentAll_relates (R : Session → Session → Prop) (refl : ∀ session, R session session)
    (trans : ∀ first second third, R first second → R second third → R first third)
    (one : ∀ arg session, R session (session.percent arg).1) (args : List Arg)
    (session : Session) : R session (percentAll args session).1 := by
  induction args generalizing session with
  | nil => exact refl session
  | cons arg rest ih =>
      have head := one arg session
      simp only [percentAll]
      cases result : session.percent arg with
      | mk bound outcome =>
          rw [result] at head
          cases outcome with
          | error thrown => exact head
          | ok _ => exact trans session bound _ head (ih bound)

theorem keeps_percentAll (args : List Arg) (session : Session) :
    Keeps session (percentAll args session).1 :=
  percentAll_relates Keeps Keeps.refl (fun _ _ _ early late => early.trans late) keeps_percent
    args session

theorem keeps_resetStatement (session : Session) : Keeps session session.resetStatement := by
  unfold resetStatement
  cases owned : session.command.stmt with
  | none => exact Keeps.refl session
  | some stmt => exact keeps_of_uses session stmt _ owned (uses_reset stmt session.sqlite)

theorem keeps_clear (session : Session) : Keeps session session.clear :=
  ((keeps_resetStatement session).trans (keeps_setLastArgIdx 0 _)).trans
    (keeps_resetStatement _)

theorem keeps_step (answer : StepCall → ResultCode) (session : Session) :
    Keeps session (session.step answer).1 := by
  unfold step
  cases passed : session.accessCheck with
  | error thrown => exact Keeps.refl session
  | ok stmt =>
      exact keeps_of_uses session stmt _ (accessCheck_ok session stmt passed)
        (uses_step answer stmt session.sqlite)

theorem operatorCall_cases (answer : StepCall → ResultCode) (session : Session) :
    (∃ thrown, session.operatorCall answer = ((session.step answer).1, .error thrown)) ∨
      ∃ row, session.operatorCall answer =
        ((session.step answer).1.setLastArgIdx 0, .ok row) := by
  unfold operatorCall
  cases session.step answer with
  | mk after outcome =>
      cases outcome with
      | error thrown => exact Or.inl ⟨thrown, rfl⟩
      | ok row => exact Or.inr ⟨row, rfl⟩

/-- What a step leaves and setting the position of the next argument to zero does not change. -/
theorem operatorCall_preserves (Inv : Session → Prop) (answer : StepCall → ResultCode)
    (session : Session) (stepped : Inv (session.step answer).1)
    (unset : ∀ after, Inv after → Inv (after.setLastArgIdx 0)) :
    Inv (session.operatorCall answer).1 := by
  rcases operatorCall_cases answer session with ⟨_, called⟩ | ⟨_, called⟩
  · rw [called]
    exact stepped
  · rw [called]
    exact unset _ stepped

theorem variadicCall_preserves (Inv : Session → Prop) (answer : StepCall → ResultCode)
    (args : List Arg) (session : Session) (start : Inv session)
    (reset : Inv session → Inv session.resetStatement)
    (percent : ∀ before, Inv before → Inv (percentAll args before).1)
    (call : ∀ before, Inv before → Inv (before.operatorCall answer).1) :
    Inv (session.variadicCall answer args).1 := by
  cases args with
  | nil => exact call session start
  | cons arg rest =>
      have bound := percent session.resetStatement (reset start)
      simp only [variadicCall]
      cases result : percentAll (arg :: rest) session.resetStatement with
      | mk after outcome =>
          rw [result] at bound
          cases outcome with
          | error thrown => exact bound
          | ok _ => exact call after bound

theorem keeps_operatorCall (answer : StepCall → ResultCode) (session : Session) :
    Keeps session (session.operatorCall answer).1 :=
  operatorCall_preserves (Keeps session) answer session (keeps_step answer session)
    fun after kept => kept.trans (keeps_setLastArgIdx 0 after)

theorem keeps_variadicCall (answer : StepCall → ResultCode) (args : List Arg) (session : Session) :
    Keeps session (session.variadicCall answer args).1 := by
  apply variadicCall_preserves (Keeps session) answer args session (Keeps.refl session)
  · intro _
    exact keeps_resetStatement session
  · intro before kept
    exact kept.trans (keeps_percentAll args before)
  · intro before kept
    exact kept.trans (keeps_operatorCall answer before)

end Session

theorem CommandOp.run_keeps (answer : StepCall → ResultCode) (session : Session)
    (op : CommandOp) : Session.Keeps session (op.run answer session).1 := by
  cases op with
  | bind index value => exact Session.keeps_bind index value session
  | bindNamed name value => exact Session.keeps_bindNamed name value session
  | percent arg => exact Session.keeps_percent arg session
  | stepOnce => exact Session.keeps_step answer session
  | call args => exact Session.keeps_variadicCall answer args session
  | clear => exact Session.keeps_clear session
  | resetStatement => exact Session.keeps_resetStatement session

end VSQLite
