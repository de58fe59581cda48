import VSQLite.Command.Model

/-!
# Which operations execute

An operation reaches `sqlite3_step` at most once, and whether it does is decided by
the checks and binds before it.
-/

set_option autoImplicit false

namespace VSQLite

def Event.isStep : Event → Bool
  | .stepped _ _ _ => true
  | _ => false

def Sqlite.steps (sqlite : Sqlite) : Nat := sqlite.log.countP Event.isStep

def Session.passes (session : Session) : Bool :=
  match session.accessCheck with
  | .error _ => false
  | .ok _ => true

def CommandOp.reachesStep (session : Session) : CommandOp → Bool
  | .stepOnce => session.passes
  | .call [] => session.passes
  | .call args =>
      match Session.percentAll args session.resetStatement with
      | (_, .error _) => false
      | (bound, .ok ()) => bound.passes
  | _ => false

theorem steps_reset (stmt : Option StmtId) (sqlite : Sqlite) :
    (sqlite3Reset stmt sqlite).steps = sqlite.steps := by
  cases stmt with
  | none => rfl
  | some id => exact List.countP_cons_of_neg (by simp [Event.isStep])

theorem steps_bind (id : StmtId) (index : Int) (value : Value) (sqlite : Sqlite) :
    (sqlite3Bind id index value sqlite).2.steps = sqlite.steps := by
  unfold sqlite3Bind
  cases sqlite.stmts[id]? with
  | none => exact List.countP_cons_of_neg (by simp [Event.isStep])
  | some stmt => exact List.countP_cons_of_neg (by simp [Event.isStep])

theorem steps_step (answer : StepCall → ResultCode) (id : StmtId) (sqlite : Sqlite)
    (exists_ : (sqlite.stmts[id]?).isSome) :
    (sqlite3Step answer id sqlite).2.steps = sqlite.steps + 1 := by
  obtain ⟨stmt, present⟩ := Option.isSome_iff_exists.mp exists_
  simp only [sqlite3Step, present]
  exact List.countP_cons_of_pos rfl

namespace Session

theorem steps_session_bind (index : Int) (value : Value) (session : Session) :
    (session.bind index value).1.sqlite.steps = session.sqlite.steps := by
  unfold bind
  cases session.accessCheck with
  | error thrown => rfl
  | ok stmt => exact steps_bind stmt index value session.sqlite

theorem steps_bindNamed (name : Text) (value : Value) (session : Session) :
    (session.bindNamed name value).1.sqlite.steps = session.sqlite.steps := by
  unfold bindNamed
  cases session.parameterIndex name with
  | error thrown => rfl
  | ok index => exact steps_session_bind index value session

theorem steps_percent (arg : Arg) (session : Session) :
    (session.percent arg).1.sqlite.steps = session.sqlite.steps := by
  cases arg with
  | positional value => exact steps_session_bind _ value _
  | named name value => exact steps_bindNamed name value session

theorem steps_percentAll (args : List Arg) (session : Session) :
    (percentAll args session).1.sqlite.steps = session.sqlite.steps := by
  refine percentAll_relates (fun before after => after.sqlite.steps = before.sqlite.steps)
    (fun _ => rfl) ?_ steps_percent args session
  intro first second third early late
  exact late.trans early

/-- A command that has a statement has one SQLite knows. -/
def Backed (session : Session) : Prop :=
  ∀ id, session.command.stmt = some id → (session.sqlite.stmts[id]?).isSome

theorem Backed.keeps {before after : Session} (backed : Backed before)
    (keeps : Keeps before after) : Backed after := by
  intro id own
  rw [keeps.stmt] at own
  have bounded : id < before.sqlite.stmts.length := by
    obtain ⟨stmt, present⟩ := Option.isSome_iff_exists.mp (backed id own)
    exact (List.getElem?_eq_some_iff.mp present).1
  rw [← (keeps.uses id own).length] at bounded
  rw [List.getElem?_eq_getElem bounded]
  rfl

theorem steps_session_step (answer : StepCall → ResultCode) (session : Session)
    (backed : Backed session) :
    (session.step answer).1.sqlite.steps =
      session.sqlite.steps + if session.passes then 1 else 0 := by
  unfold step passes
  cases passed : session.accessCheck with
  | error thrown => rfl
  | ok stmt =>
      exact steps_step answer stmt session.sqlite (backed stmt (accessCheck_ok session stmt passed))

theorem steps_operatorCall (answer : StepCall → ResultCode) (session : Session)
    (backed : Backed session) :
    (session.operatorCall answer).1.sqlite.steps =
      session.sqlite.steps + if session.passes then 1 else 0 := by
  exact operatorCall_preserves (fun after => after.sqlite.steps = _) answer session
    (steps_session_step answer session backed) fun _ counted => counted

end Session

theorem CommandOp.run_steps (answer : StepCall → ResultCode) (session : Session)
    (op : CommandOp) (backed : session.Backed) :
    (op.run answer session).1.sqlite.steps =
      session.sqlite.steps + if op.reachesStep session then 1 else 0 := by
  cases op with
  | bind index value => exact Session.steps_session_bind index value session
  | bindNamed name value => exact Session.steps_bindNamed name value session
  | percent arg => exact Session.steps_percent arg session
  | stepOnce => exact Session.steps_session_step answer session backed
  | call args =>
      cases args with
      | nil => exact Session.steps_operatorCall answer session backed
      | cons arg rest =>
          have bound := Session.steps_percentAll (arg :: rest) session.resetStatement
          have keeps := (Session.keeps_resetStatement session).trans
            (Session.keeps_percentAll (arg :: rest) session.resetStatement)
          obtain ⟨after, outcome, result⟩ : ∃ after outcome,
              Session.percentAll (arg :: rest) session.resetStatement = (after, outcome) :=
            ⟨_, _, rfl⟩
          rw [result] at bound keeps
          have start : after.sqlite.steps = session.sqlite.steps :=
            bound.trans (steps_reset _ _)
          simp only [CommandOp.run, Session.variadicCall, CommandOp.reachesStep, result]
          cases outcome with
          | error thrown => exact start
          | ok _ =>
              dsimp only
              rw [Session.steps_operatorCall answer after (backed.keeps keeps), start]
  | clear =>
      exact (steps_reset _ _).trans (steps_reset _ _)
  | resetStatement => exact steps_reset _ _

end VSQLite
