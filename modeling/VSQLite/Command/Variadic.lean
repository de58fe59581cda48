import VSQLite.Command.Isolation

/-!
# Repeated variadic calls

`operator()(args...)` binds its arguments through `operator%`, at the positions after
the one the command remembers, and forgets that position only once the step has
returned.  The theorem here says after which histories of calls, some of which threw,
a call with one argument for every parameter still does what it says.
-/

set_option autoImplicit false

namespace VSQLite

def Event.bindCall : Event → Option (Int × Value)
  | .bound _ index value => some (index, value)
  | _ => none

/-- The calls of `sqlite3_bind` in a stretch of the log, in the order they were made. -/
def bindCalls (events : List Event) : List (Int × Value) :=
  events.reverse.filterMap Event.bindCall

def numbered : Nat → List Value → List (Int × Value)
  | _, [] => []
  | position, value :: rest => ((position : Int), value) :: numbered (position + 1) rest

def overwrite : Nat → List Value → List Value → List Value
  | _, [], bindings => bindings
  | position, value :: rest, bindings =>
      overwrite (position + 1) rest (bindings.set position value)

theorem bindCalls_append (late early : List Event) :
    bindCalls (late ++ early) = bindCalls early ++ bindCalls late := by
  rw [bindCalls, List.reverse_append, List.filterMap_append]
  rfl

theorem overwrite_eq (position : Nat) (values bindings : List Value)
    (fits : position + values.length ≤ bindings.length) :
    overwrite position values bindings =
      bindings.take position ++ values ++ bindings.drop (position + values.length) := by
  induction values generalizing position bindings with
  | nil => simp [overwrite]
  | cons value rest ih =>
      rw [List.length_cons] at fits
      have bounded : position < bindings.length := by omega
      rw [overwrite, ih (position + 1) _ (by rw [List.length_set]; omega), List.drop_set]
      rw [if_pos (by omega), List.take_add_one, List.take_set, List.length_cons,
        List.getElem?_set_self bounded, List.set_eq_of_length_le (by rw [List.length_take]; omega)]
      have same : position + 1 + rest.length = position + (rest.length + 1) := by omega
      rw [same]
      simp

theorem overwrite_all (values bindings : List Value) (full : values.length = bindings.length) :
    overwrite 0 values bindings = values := by
  rw [overwrite_eq 0 values bindings (by omega), Nat.zero_add, full, List.drop_length]
  simp

namespace Session

/-- The connection is open and the statement the command owns is this one. -/
structure Owns (session : Session) (id : StmtId) (stmt : Stmt) : Prop where
  isOpen : session.handle.isNone = false
  command : session.command.stmt = some id
  found : session.sqlite.stmts[id]? = some stmt

/-- A command on a statement with `n` parameters, each of which has a binding. -/
def Prepared (n : Nat) (session : Session) : Prop :=
  ∃ id stmt, session.Owns id stmt ∧ stmt.parameters.length = n ∧ stmt.bindings.length = n

section Owns
variable {session : Session} {id : StmtId} {stmt : Stmt}

theorem Owns.accessCheck (owns : session.Owns id stmt) : session.accessCheck = .ok id := by
  simp [Session.accessCheck, owns.isOpen, owns.command]

theorem Owns.modify (owns : session.Owns id stmt) (change : Stmt → Stmt) (event : Event) :
    Owns { session with sqlite := session.sqlite.modify id change event } id (change stmt) := by
  refine ⟨owns.isOpen, owns.command, ?_⟩
  simp [Sqlite.modify, owns.found]

theorem Owns.setLastArgIdx (owns : session.Owns id stmt) (index : Nat) :
    (session.setLastArgIdx index).Owns id stmt :=
  ⟨owns.isOpen, owns.command, owns.found⟩

theorem Owns.resetStatement (owns : session.Owns id stmt) :
    session.resetStatement.Owns id { stmt with position := .ready } := by
  have reset := owns.modify (fun stmt => { stmt with position := .ready }) (.reset id)
  rw [Session.resetStatement, owns.command]
  exact reset

theorem Owns.bind (owns : session.Owns id stmt) (index : Int) (value : Value) :
    session.bind index value =
      ({ session with
        sqlite := session.sqlite.modify id
          (fun stmt => (stmt.bind session.sqlite.lengthLimit index value).2)
          (.bound id index value) },
        if (stmt.bind session.sqlite.lengthLimit index value).1 = .ok then .ok ()
        else .error (.databaseExceptionCode
          (stmt.bind session.sqlite.lengthLimit index value).1 session.command.sql)) := by
  rw [Session.bind, owns.accessCheck]
  simp only [sqlite3Bind, owns.found]

end Owns

theorem bind_in_range (limit position : Nat) (value : Value) (stmt : Stmt)
    (ready : stmt.position = .ready) (bounded : position < stmt.parameters.length) :
    stmt.bind limit ((position + 1 : Nat) : Int) value =
      if limit < value.size then
        (.tooBig, { stmt with bindings := stmt.bindings.set position .null })
      else (.ok, { stmt with bindings := stmt.bindings.set position value }) := by
  have inRange : ¬(((position + 1 : Nat) : Int) < 1 ∨
      (stmt.parameters.length : Int) < ((position + 1 : Nat) : Int)) := by omega
  have place : ((position + 1 : Nat) : Int).toNat - 1 = position := by omega
  rw [Stmt.bind, if_neg (fun moved => moved ready), if_neg inRange, place]

/-- What binding values to parameters in range comes to: the values are bound in their
order, nothing is stepped, and if they all fit they are the bindings from there on. -/
structure Bound (session : Session) (id : StmtId) (stmt : Stmt) (values : List Value)
    (outcome : Session × Except Exception Unit) : Prop where
  log : ∃ fresh, outcome.1.sqlite.log = fresh ++ session.sqlite.log ∧
    bindCalls fresh <+: numbered (session.command.lastArgIdx + 1) values ∧
    fresh.filterMap Event.stepCall = []
  fits : (∀ value ∈ values, value.size ≤ session.sqlite.lengthLimit) →
    outcome.2 = .ok () ∧ outcome.1.Owns id
      { stmt with bindings := overwrite session.command.lastArgIdx values stmt.bindings }

theorem percentAll_bound (values : List Value) (session : Session) (id : StmtId) (stmt : Stmt)
    (owns : session.Owns id stmt) (ready : stmt.position = .ready)
    (room : session.command.lastArgIdx + values.length ≤ stmt.parameters.length) :
    Bound session id stmt values (percentAll (values.map .positional) session) := by
  induction values generalizing session stmt with
  | nil =>
      refine ⟨⟨[], rfl, List.nil_prefix, rfl⟩, fun _ => ⟨rfl, ?_⟩⟩
      exact owns
  | cons value rest ih =>
      rw [List.length_cons] at room
      have bounded : session.command.lastArgIdx < stmt.parameters.length := by omega
      have advanced := owns.setLastArgIdx (session.command.lastArgIdx + 1)
      have bindResult := bind_in_range session.sqlite.lengthLimit session.command.lastArgIdx value
        stmt ready bounded
      have here := advanced.bind ((session.command.lastArgIdx + 1 : Nat) : Int) value
      have limit : (session.setLastArgIdx (session.command.lastArgIdx + 1)).sqlite.lengthLimit =
        session.sqlite.lengthLimit := rfl
      rw [limit] at here
      simp only [List.map_cons, percentAll, percent, here]
      by_cases tooBig : session.sqlite.lengthLimit < value.size
      · rw [if_pos tooBig] at bindResult
        simp only [bindResult, reduceCtorEq, if_false]
        refine ⟨⟨[.bound id _ value], rfl, ?_, rfl⟩, fun fits => ?_⟩
        · exact ⟨numbered (session.command.lastArgIdx + 2) rest, rfl⟩
        · have small := fits value (List.mem_cons_self ..)
          omega
      · rw [if_neg tooBig] at bindResult
        simp only [bindResult, if_true]
        have next := advanced.modify
          (fun stmt => (stmt.bind session.sqlite.lengthLimit
            ((session.command.lastArgIdx + 1 : Nat) : Int) value).2)
          (.bound id ((session.command.lastArgIdx + 1 : Nat) : Int) value)
        rw [bindResult] at next
        have tail := ih _ _ next ready (by
          change session.command.lastArgIdx + 1 + rest.length ≤ stmt.parameters.length
          omega)
        obtain ⟨fresh, log, ordered, unstepped⟩ := tail.log
        refine ⟨⟨fresh ++ [.bound id ((session.command.lastArgIdx + 1 : Nat) : Int) value],
          ?_, ?_, ?_⟩, fun fits => ?_⟩
        · rw [log, List.append_assoc]
          rfl
        · rw [bindCalls_append]
          exact List.prefix_cons_inj _ |>.mpr ordered
        · rw [List.filterMap_append, unstepped]
          rfl
        · exact tail.fits fun other member => fits other (List.mem_cons_of_mem _ member)

theorem Owns.operatorCall_log {session : Session} {id : StmtId} {stmt : Stmt}
    (owns : session.Owns id stmt) (answer : StepCall → ResultCode) :
    (session.operatorCall answer).1.sqlite.log =
      .stepped id stmt.source stmt.call :: session.sqlite.log := by
  have stepped : (session.step answer).1.sqlite.log =
      .stepped id stmt.source stmt.call :: session.sqlite.log := by
    rw [step, owns.accessCheck]
    simp only [sqlite3Step, owns.found]
    rfl
  exact operatorCall_preserves (fun after => after.sqlite.log = _) answer session stepped
    fun _ same => same

/-! ## What a call leaves behind -/

section Prepared
variable {n : Nat} {session : Session}

theorem prepared_modify (prepared : session.Prepared n) (id : StmtId)
    (own : session.command.stmt = some id) (change : Stmt → Stmt) (event : Event)
    (parameters : ∀ stmt, (change stmt).parameters = stmt.parameters)
    (bindings : ∀ stmt, (change stmt).bindings.length = stmt.bindings.length) :
    Prepared n { session with sqlite := session.sqlite.modify id change event } := by
  obtain ⟨other, stmt, owns, sized, bound⟩ := prepared
  have same := owns.command
  rw [own, Option.some.injEq] at same
  subst same
  refine ⟨id, change stmt, owns.modify change event, ?_, ?_⟩
  · rw [parameters, sized]
  · rw [bindings, bound]

theorem length_bind_bindings (limit : Nat) (index : Int) (value : Value) (stmt : Stmt) :
    (stmt.bind limit index value).2.bindings.length = stmt.bindings.length := by
  unfold Stmt.bind
  split
  · rfl
  · split
    · rfl
    · split
      · exact List.length_set
      · exact List.length_set

theorem prepared_bind (prepared : session.Prepared n) (index : Int) (value : Value) :
    (session.bind index value).1.Prepared n := by
  obtain ⟨id, stmt, owns, _⟩ := id prepared
  rw [owns.bind]
  apply prepared_modify prepared id owns.command
  · intro stmt
    exact congrArg (fun parts => parts.2.2.1) (Stmt.bind_identity _ _ _ stmt)
  · intro stmt
    exact length_bind_bindings _ _ _ stmt

theorem prepared_bindNamed (prepared : session.Prepared n) (name : Text) (value : Value) :
    (session.bindNamed name value).1.Prepared n := by
  unfold bindNamed
  cases session.parameterIndex name with
  | error thrown => exact prepared
  | ok index => exact prepared_bind prepared index value

theorem prepared_setLastArgIdx (prepared : session.Prepared n) (index : Nat) :
    (session.setLastArgIdx index).Prepared n := by
  obtain ⟨id, stmt, owns, sized⟩ := prepared
  exact ⟨id, stmt, owns.setLastArgIdx index, sized⟩

theorem prepared_percent (prepared : session.Prepared n) (arg : Arg) :
    (session.percent arg).1.Prepared n := by
  cases arg with
  | positional value => exact prepared_bind (prepared_setLastArgIdx prepared _) _ value
  | named name value => exact prepared_bindNamed prepared name value

theorem prepared_percentAll (prepared : session.Prepared n) (args : List Arg) :
    (percentAll args session).1.Prepared n := by
  refine percentAll_relates (fun before after => before.Prepared n → after.Prepared n)
    (fun _ => id) ?_ ?_ args session prepared
  · intro first second third early late start
    exact late (early start)
  · intro arg before start
    exact prepared_percent start arg

theorem prepared_resetStatement (prepared : session.Prepared n) :
    session.resetStatement.Prepared n := by
  obtain ⟨id, stmt, owns, sized⟩ := prepared
  exact ⟨id, _, owns.resetStatement, sized⟩

theorem prepared_operatorCall (prepared : session.Prepared n) (answer : StepCall → ResultCode) :
    (session.operatorCall answer).1.Prepared n := by
  have stepped : (session.step answer).1.Prepared n := by
    obtain ⟨id, stmt, owns, _⟩ := id prepared
    rw [step, owns.accessCheck]
    simp only [sqlite3Step, owns.found]
    apply prepared_modify prepared id owns.command
    · intro _
      rfl
    · intro _
      rfl
  exact operatorCall_preserves (fun after => after.Prepared n) answer session stepped
    fun _ after => prepared_setLastArgIdx after 0

theorem prepared_variadicCall (prepared : session.Prepared n) (answer : StepCall → ResultCode)
    (args : List Arg) : (session.variadicCall answer args).1.Prepared n := by
  apply variadicCall_preserves (fun after => after.Prepared n) answer args session prepared
  · intro before
    exact prepared_resetStatement before
  · intro _ before
    exact prepared_percentAll before args
  · intro _ before
    exact prepared_operatorCall before answer

end Prepared

/-- The arguments get as far as a positional one before one of them throws. -/
def reachesPositional : List Arg → Session → Bool
  | [], _ => false
  | .positional _ :: _, _ => true
  | .named name value :: rest, session =>
      match session.bindNamed name value with
      | (_, .error _) => false
      | (bound, .ok ()) => reachesPositional rest bound

theorem bind_lastArgIdx (session : Session) (index : Int) (value : Value) :
    (session.bind index value).1.command.lastArgIdx = session.command.lastArgIdx := by
  unfold bind
  cases session.accessCheck <;> rfl

theorem bindNamed_lastArgIdx (session : Session) (name : Text) (value : Value) :
    (session.bindNamed name value).1.command.lastArgIdx = session.command.lastArgIdx := by
  unfold bindNamed
  cases session.parameterIndex name with
  | error thrown => rfl
  | ok index => exact bind_lastArgIdx session index value

theorem percentAll_lastArgIdx (args : List Arg) (session : Session) :
    session.command.lastArgIdx ≤ (percentAll args session).1.command.lastArgIdx ∧
      ((percentAll args session).1.command.lastArgIdx = session.command.lastArgIdx ↔
        reachesPositional args session = false) := by
  induction args generalizing session with
  | nil => exact ⟨Nat.le_refl _, fun _ => rfl, fun _ => rfl⟩
  | cons arg rest ih =>
      cases arg with
      | positional value =>
          have head : (session.percent (.positional value)).1.command.lastArgIdx =
              session.command.lastArgIdx + 1 := bind_lastArgIdx _ _ value
          simp only [percentAll, reachesPositional]
          cases result : session.percent (.positional value) with
          | mk bound outcome =>
              rw [result] at head
              cases outcome with
              | error thrown =>
                  dsimp only at head ⊢
                  refine ⟨by omega, fun same => ?_, fun stays => by cases stays⟩
                  omega
              | ok _ =>
                  have later := (ih bound).1
                  dsimp only at head ⊢
                  refine ⟨by omega, fun same => ?_, fun stays => by cases stays⟩
                  omega
      | named name value =>
          have head := bindNamed_lastArgIdx session name value
          simp only [percentAll, reachesPositional, percent]
          cases result : session.bindNamed name value with
          | mk bound outcome =>
              rw [result] at head
              cases outcome with
              | error thrown => exact ⟨Nat.le_of_eq head.symm, fun _ => rfl, fun _ => head⟩
              | ok _ =>
                  have later := ih bound
                  dsimp only at head ⊢
                  rwa [head] at later

theorem operatorCall_lastArgIdx (session : Session) (answer : StepCall → ResultCode) :
    (session.operatorCall answer).1.command.lastArgIdx =
      match (session.operatorCall answer).2 with
      | .ok _ => 0
      | .error _ => session.command.lastArgIdx := by
  have stepped : (session.step answer).1.command.lastArgIdx = session.command.lastArgIdx := by
    unfold step
    cases session.accessCheck <;> rfl
  rcases operatorCall_cases answer session with ⟨_, called⟩ | ⟨_, called⟩
  · rw [called]
    exact stepped
  · rw [called]
    rfl

theorem variadicCall_lastArgIdx (session : Session) (answer : StepCall → ResultCode)
    (args : List Arg) :
    (session.variadicCall answer args).1.command.lastArgIdx = 0 ↔
      match (session.variadicCall answer args).2 with
      | .ok _ => True
      | .error _ => session.command.lastArgIdx = 0 ∧
          reachesPositional args session.resetStatement = false := by
  cases args with
  | nil =>
      have called := operatorCall_lastArgIdx session answer
      simp only [variadicCall, reachesPositional, and_true]
      cases outcome : (session.operatorCall answer).2 with
      | error thrown =>
          rw [outcome] at called
          rw [called]
      | ok result =>
          rw [outcome] at called
          exact ⟨fun _ => trivial, fun _ => called⟩
  | cons arg rest =>
      obtain ⟨grows, stays⟩ := percentAll_lastArgIdx (arg :: rest) session.resetStatement
      have start : session.resetStatement.command.lastArgIdx = session.command.lastArgIdx := rfl
      simp only [variadicCall]
      cases result : percentAll (arg :: rest) session.resetStatement with
      | mk bound outcome =>
          rw [result] at grows stays
          rw [start] at grows stays
          dsimp only at grows stays
          have reached : bound.command.lastArgIdx = 0 ↔ session.command.lastArgIdx = 0 ∧
              reachesPositional (arg :: rest) session.resetStatement = false := by
            rw [← stays]
            omega
          cases outcome with
          | error thrown => exact reached
          | ok _ =>
              have called := operatorCall_lastArgIdx bound answer
              dsimp only
              cases answered : (bound.operatorCall answer).2 with
              | error thrown =>
                  rw [answered] at called
                  dsimp only at called ⊢
                  rw [called]
                  exact reached
              | ok _ =>
                  rw [answered] at called
                  exact ⟨fun _ => trivial, fun _ => called⟩

/-! ## Histories of calls -/

/-- A variadic call, and what executing the statement comes to in it. -/
structure Call where
  args : List Arg
  answer : StepCall → ResultCode

def afterCalls : List Call → Session → Session
  | [], session => session
  | call :: rest, session => afterCalls rest (session.variadicCall call.answer call.args).1

/-- Every call that threw after it had reached a positional argument was followed by
one that returned. -/
def settled : List Call → Session → Bool → Bool
  | [], _, before => before
  | call :: rest, session, before =>
      match session.variadicCall call.answer call.args with
      | (after, .ok _) => settled rest after true
      | (after, .error _) =>
          settled rest after (before && !reachesPositional call.args session.resetStatement)

theorem prepared_afterCalls (n : Nat) (history : List Call) (session : Session)
    (prepared : session.Prepared n) : (session.afterCalls history).Prepared n := by
  induction history generalizing session with
  | nil => exact prepared
  | cons call rest ih =>
      apply ih
      exact prepared_variadicCall prepared call.answer call.args

theorem settled_iff (history : List Call) (session : Session) :
    settled history session (session.command.lastArgIdx == 0) = true ↔
      (session.afterCalls history).command.lastArgIdx = 0 := by
  induction history generalizing session with
  | nil => simp [settled, afterCalls]
  | cons call rest ih =>
      have position := variadicCall_lastArgIdx session call.answer call.args
      simp only [settled, afterCalls]
      cases result : session.variadicCall call.answer call.args with
      | mk after outcome =>
          rw [result] at position
          have later := ih after
          cases outcome with
          | ok _ =>
              have forgotten : after.command.lastArgIdx = 0 := position.mpr trivial
              rw [forgotten] at later
              exact later
          | error thrown =>
              dsimp only at position ⊢
              have same : (after.command.lastArgIdx == 0) =
                  (session.command.lastArgIdx == 0 &&
                    !reachesPositional call.args session.resetStatement) := by
                rw [Bool.eq_iff_iff]
                simpa using position
              rw [← same]
              exact later

/-- The call binds its `i`-th argument to parameter `i`, up to the first bind that
throws, and if every argument fits executes the statement once, with the arguments as
its bindings. -/
def BindsAndExecutes (answer : StepCall → ResultCode) (args : List Value)
    (session : Session) : Prop :=
  ∃ fresh, (session.variadicCall answer (args.map .positional)).1.sqlite.log =
      fresh ++ session.sqlite.log ∧
    bindCalls fresh <+: numbered 1 args ∧
    ((∀ value ∈ args, value.size ≤ session.sqlite.lengthLimit) →
      ∃ call, fresh.filterMap Event.stepCall = [call] ∧ call.bindings = args)

theorem first_bind (session : Session) (answer : StepCall → ResultCode) (value : Value)
    (rest : List Arg) (n : Nat) (prepared : session.Prepared n) :
    ∃ later id, (session.variadicCall answer (.positional value :: rest)).1.sqlite.log =
      later ++ (.bound id ((session.command.lastArgIdx + 1 : Nat) : Int) value ::
        .reset id :: session.sqlite.log) := by
  obtain ⟨id, stmt, owns, _⟩ := prepared
  have reset : session.resetStatement.sqlite.log = .reset id :: session.sqlite.log := by
    rw [resetStatement, owns.command]
    rfl
  have ready := owns.resetStatement.setLastArgIdx (session.command.lastArgIdx + 1)
  have bound : (session.resetStatement.percent (.positional value)).1.sqlite.log =
      .bound id ((session.command.lastArgIdx + 1 : Nat) : Int) value ::
        .reset id :: session.sqlite.log := by
    rw [← reset]
    exact congrArg (fun outcome => outcome.1.sqlite.log) (ready.bind _ value)
  have own : (session.resetStatement.percent (.positional value)).1.command.stmt = some id :=
    (keeps_percent (.positional value) session.resetStatement).stmt.trans owns.command
  have grows : ∀ after, Keeps (session.resetStatement.percent (.positional value)).1 after →
      ∃ later, after.sqlite.log = later ++ (.bound id
        ((session.command.lastArgIdx + 1 : Nat) : Int) value ::
          .reset id :: session.sqlite.log) := by
    intro after keeps
    obtain ⟨later, log, _⟩ := (keeps.uses id own).log
    exact ⟨later, by rw [log, bound]⟩
  simp only [variadicCall, percentAll]
  cases result : session.resetStatement.percent (.positional value) with
  | mk first outcome =>
      rw [result] at grows
      dsimp only at grows
      cases outcome with
      | error thrown =>
          obtain ⟨later, log⟩ := grows first (Keeps.refl first)
          exact ⟨later, id, log⟩
      | ok _ =>
          have tail := keeps_percentAll rest first
          dsimp only
          cases rested : percentAll rest first with
          | mk last outcome =>
              rw [rested] at tail
              cases outcome with
              | error thrown =>
                  obtain ⟨later, log⟩ := grows last tail
                  exact ⟨later, id, log⟩
              | ok _ =>
                  obtain ⟨later, log⟩ := grows _ (tail.trans (keeps_operatorCall answer last))
                  exact ⟨later, id, log⟩

theorem bindsAndExecutes_empty (session : Session) (answer : StepCall → ResultCode)
    (prepared : session.Prepared 0) : BindsAndExecutes answer [] session := by
  obtain ⟨id, stmt, owns, _, unbound⟩ := prepared
  refine ⟨[.stepped id stmt.source stmt.call], owns.operatorCall_log answer, List.nil_prefix, ?_⟩
  intro _
  exact ⟨stmt.call, rfl, List.length_eq_zero_iff.mp unbound⟩

theorem bindsAndExecutes_of_forgotten (session : Session) (answer : StepCall → ResultCode)
    (value : Value) (rest : List Value) (prepared : session.Prepared (value :: rest).length)
    (forgotten : session.command.lastArgIdx = 0) :
    BindsAndExecutes answer (value :: rest) session := by
  obtain ⟨id, stmt, owns, sized, bound⟩ := id prepared
  have reset : session.resetStatement.sqlite.log = .reset id :: session.sqlite.log := by
    rw [resetStatement, owns.command]
    rfl
  have unmoved : session.resetStatement.command.lastArgIdx = 0 := forgotten
  have binds := percentAll_bound (value :: rest) session.resetStatement id _ owns.resetStatement
    rfl (by rw [unmoved, Nat.zero_add]; exact Nat.le_of_eq sized.symm)
  have remains := prepared_percentAll (prepared_resetStatement prepared)
    ((value :: rest).map .positional)
  obtain ⟨fresh, log, ordered, unstepped⟩ := binds.log
  have fits := binds.fits
  have limit : session.resetStatement.sqlite.lengthLimit = session.sqlite.lengthLimit := by
    rw [resetStatement, owns.command]
    rfl
  rw [limit] at fits
  rw [unmoved] at ordered fits
  rw [reset] at log
  unfold BindsAndExecutes
  simp only [List.map_cons, variadicCall] at log fits remains ⊢
  cases result : percentAll (.positional value :: rest.map .positional)
      session.resetStatement with
  | mk after outcome =>
      rw [result] at log fits remains
      cases outcome with
      | error thrown =>
          refine ⟨fresh ++ [.reset id], ?_, ?_, fun small => ?_⟩
          · rw [log, List.append_assoc]
            rfl
          · rw [bindCalls_append]
            exact ordered
          · cases (fits small).1
      | ok _ =>
          obtain ⟨other, last, lastOwns, _⟩ := remains
          refine ⟨.stepped other last.source last.call :: (fresh ++ [.reset id]), ?_, ?_,
            fun small => ?_⟩
          · rw [lastOwns.operatorCall_log answer, log]
            simp
          · have split : .stepped other last.source last.call :: (fresh ++ [.reset id]) =
                ([.stepped other last.source last.call] ++ fresh) ++ [.reset id] := rfl
            rw [split, bindCalls_append, bindCalls_append]
            change [] ++ (bindCalls fresh ++ []) <+: _
            rw [List.nil_append, List.append_nil]
            exact ordered
          · have same := (fits small).2
            have number := same.command
            rw [lastOwns.command, Option.some.injEq] at number
            have content := same.found
            rw [← number, lastOwns.found, Option.some.injEq] at content
            refine ⟨last.call, ?_, ?_⟩
            · simp [List.filterMap_append, Event.stepCall, unstepped]
            · rw [content]
              exact overwrite_all (value :: rest) stmt.bindings bound.symm

/-- Whatever calls were made before and whatever they returned or threw, a call with one
positional argument for each parameter binds and executes them exactly when there are
no parameters, or every call that threw after reaching a positional argument was
followed by one that returned. -/
theorem variadic_call_repeats_iff (n : Nat) (session : Session) (prepared : session.Prepared n)
    (unused : session.command.lastArgIdx = 0) (history : List Call) (args : List Value)
    (full : args.length = n) (answer : StepCall → ResultCode) :
    BindsAndExecutes answer args (session.afterCalls history) ↔
      n = 0 ∨ settled history session true = true := by
  have now := prepared_afterCalls n history session prepared
  have position := settled_iff history session
  rw [unused] at position
  change settled history session true = true ↔ _ at position
  rw [position]
  cases args with
  | nil =>
      have none : n = 0 := full.symm
      subst none
      exact ⟨fun _ => Or.inl rfl, fun _ => bindsAndExecutes_empty _ answer now⟩
  | cons value rest =>
      have some_ : n ≠ 0 := by
        rw [← full]
        exact Nat.succ_ne_zero _
      constructor
      · rintro ⟨fresh, log, ordered, _⟩
        obtain ⟨later, id, first⟩ := first_bind _ answer value (rest.map .positional) n now
        refine Or.inr ?_
        have same : fresh = later ++ [.bound id
            (((session.afterCalls history).command.lastArgIdx + 1 : Nat) : Int) value,
            .reset id] := by
          apply List.append_cancel_right
          rw [← log, List.map_cons, first, List.append_assoc]
          rfl
        rw [same, bindCalls_append] at ordered
        have heads := List.cons_prefix_cons.mp ordered
        have index := congrArg Prod.fst heads.1
        dsimp only at index
        omega
      · intro condition
        subst full
        have forgotten := condition.resolve_left some_
        exact bindsAndExecutes_of_forgotten _ answer value rest now forgotten

def insertion : Session :=
  ⟨some 0, ⟨[⟨0, ascii "INSERT INTO t VALUES(?)", [none], [.null], .ready, false⟩], 1000, []⟩,
    ⟨ascii "INSERT INTO t VALUES(?)", some 0, 0⟩⟩

def rejectedRow : Call := ⟨[.positional (.integer 1)], fun _ => .error 19⟩

theorem variadic_call_repeats_after_return :
    insertion.Prepared 1 ∧
    BindsAndExecutes (fun _ => .done) [.integer 2]
      (insertion.afterCalls [rejectedRow, ⟨[], fun _ => .done⟩]) := by
  have prepared : insertion.Prepared 1 := ⟨0, _, ⟨rfl, rfl, rfl⟩, rfl, rfl⟩
  refine ⟨prepared, ?_⟩
  exact (variadic_call_repeats_iff 1 insertion prepared rfl
    [rejectedRow, ⟨[], fun _ => .done⟩] [.integer 2] rfl fun _ => .done).mpr (Or.inr rfl)

theorem next_row_not_inserted :
    insertion.Prepared 1 ∧
    ¬BindsAndExecutes (fun _ => .done) [.integer 2] (insertion.afterCalls [rejectedRow]) := by
  refine ⟨⟨0, _, ⟨rfl, rfl, rfl⟩, rfl, rfl⟩, ?_⟩
  rintro ⟨fresh, log, ordered, _⟩
  have same : fresh = [.bound 0 2 (.integer 2), .reset 0] := by
    apply List.append_cancel_right
    rw [← log]
    rfl
  rw [same] at ordered
  have first := (List.cons_prefix_cons.mp ordered).1
  cases first

end Session
end VSQLite
