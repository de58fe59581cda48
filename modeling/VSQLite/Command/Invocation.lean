import VSQLite.Command.Variadic

/-!
# Invocations with pre-bound arguments

An invocation streams some of its arguments through `operator%` and forwards the rest
to `operator()`.  The forwarding call resets the statement; `operator%` does not, so
what it does depends on whether the statement has been stepped since.
-/

set_option autoImplicit false

namespace VSQLite

/-- `cmd % v1 % .. % vp`, then `cmd(v(p+1), .., vn)`, which is `cmd()` when no argument is
left.  Whatever the step is asked, it completes without an error. -/
structure Invocation (n : Nat) where
  streamed : List Value
  forwarded : List Value
  full : (streamed ++ forwarded).length = n
  answer : StepCall → ResultCode
  completes : ∀ call, answer call = .row ∨ answer call = .done

def Invocation.values {n : Nat} (invocation : Invocation n) : List Value :=
  invocation.streamed ++ invocation.forwarded

def Fits (limit : Nat) (values : List Value) : Prop := ∀ value ∈ values, value.size ≤ limit

instance (limit : Nat) (values : List Value) : Decidable (Fits limit values) :=
  inferInstanceAs (Decidable (∀ value ∈ values, value.size ≤ limit))

namespace Session

def invoke {n : Nat} (invocation : Invocation n) (session : Session) :
    Session × Except Exception Bool :=
  match percentAll (invocation.streamed.map .positional) session with
  | (bound, .error thrown) => (bound, .error thrown)
  | (bound, .ok ()) =>
      bound.variadicCall invocation.answer (invocation.forwarded.map .positional)

/-- Nothing throws, and the statement is executed once, each parameter bound to its value. -/
def Invoked {n : Nat} (invocation : Invocation n) (session : Session) : Prop :=
  (∃ result, (session.invoke invocation).2 = .ok result) ∧
    ∃ fresh call, (session.invoke invocation).1.sqlite.log = fresh ++ session.sqlite.log ∧
      fresh.filterMap Event.stepCall = [call] ∧ call.bindings = invocation.values

def EachInvoked {n : Nat} : List (Invocation n) → Session → Prop
  | [], _ => True
  | invocation :: rest, session =>
      session.Invoked invocation ∧ EachInvoked rest (session.invoke invocation).1

/-- A command between two invocations: the position is forgotten, and the statement is at
a place `at_` says. -/
def Waiting (n : Nat) (at_ : Position → Prop) (session : Session) : Prop :=
  session.command.lastArgIdx = 0 ∧ ∃ id stmt, session.Owns id stmt ∧
    stmt.parameters.length = n ∧ stmt.bindings.length = n ∧ at_ stmt.position

/-! ## Binds -/

theorem overwrite_append (position : Nat) (first second bindings : List Value) :
    overwrite position (first ++ second) bindings =
      overwrite (position + first.length) second (overwrite position first bindings) := by
  induction first generalizing position bindings with
  | nil => rfl
  | cons value rest ih =>
      rw [List.cons_append, overwrite, overwrite, ih, List.length_cons, Nat.add_right_comm,
        Nat.add_assoc]

theorem percent_lastArgIdx (value : Value) (session : Session) :
    (session.percent (.positional value)).1.command.lastArgIdx = session.command.lastArgIdx + 1 :=
  bind_lastArgIdx _ _ value

theorem percentAll_ok_lastArgIdx (values : List Value) (session : Session)
    (passed : (percentAll (values.map .positional) session).2 = .ok ()) :
    (percentAll (values.map .positional) session).1.command.lastArgIdx =
      session.command.lastArgIdx + values.length := by
  induction values generalizing session with
  | nil => rfl
  | cons value rest ih =>
      have head := percent_lastArgIdx value session
      simp only [List.map_cons, percentAll] at passed ⊢
      cases result : session.percent (.positional value) with
      | mk bound outcome =>
          rw [result] at head passed
          cases outcome with
          | error thrown => cases passed
          | ok _ =>
              dsimp only at head passed ⊢
              rw [ih bound passed, head, List.length_cons]
              omega

section Owns
variable {session : Session} {id : StmtId} {stmt : Stmt}

theorem Owns.percent_ok (owns : session.Owns id stmt) (value : Value)
    (passed : (session.percent (.positional value)).2 = .ok ()) :
    stmt.position = .ready ∧ value.size ≤ session.sqlite.lengthLimit := by
  have advanced := owns.setLastArgIdx (session.command.lastArgIdx + 1)
  have limit : (session.setLastArgIdx (session.command.lastArgIdx + 1)).sqlite.lengthLimit =
    session.sqlite.lengthLimit := rfl
  rw [percent, advanced.bind, limit] at passed
  dsimp only at passed
  split at passed
  · rename_i accepted
    unfold Stmt.bind at accepted
    split at accepted
    · cases accepted
    · rename_i ready
      split at accepted
      · cases accepted
      · split at accepted
        · cases accepted
        · rename_i small
          exact ⟨not_not.mp ready, Nat.le_of_not_lt small⟩
  · cases passed

theorem Owns.percentAll_ok (owns : session.Owns id stmt) (values : List Value)
    (passed : (percentAll (values.map .positional) session).2 = .ok ()) :
    values = [] ∨ stmt.position = .ready := by
  cases values with
  | nil => exact Or.inl rfl
  | cons first rest =>
      refine Or.inr (owns.percent_ok first ?_).1
      simp only [List.map_cons, percentAll] at passed
      cases result : session.percent (.positional first) with
      | mk after outcome =>
          rw [result] at passed
          cases outcome with
          | error thrown => cases passed
          | ok _ => rfl

theorem percentAll_ok_fits (values : List Value) (session : Session) (n : Nat)
    (prepared : session.Prepared n)
    (passed : (percentAll (values.map .positional) session).2 = .ok ()) :
    Fits session.sqlite.lengthLimit values := by
  induction values generalizing session with
  | nil =>
      intro value member
      cases member
  | cons value rest ih =>
      obtain ⟨id, stmt, owns, _⟩ := id prepared
      have head := owns.percent_ok value
      have still := prepared_percent prepared (.positional value)
      have keeps := (keeps_percent (.positional value) session).uses id owns.command
      simp only [List.map_cons, percentAll] at passed
      cases result : session.percent (.positional value) with
      | mk bound outcome =>
          rw [result] at head still keeps passed
          cases outcome with
          | error thrown => cases passed
          | ok _ =>
              intro other member
              rcases List.mem_cons.mp member with rfl | later
              · exact (head rfl).2
              · have small := ih bound still passed other later
                rwa [keeps.limit] at small

theorem variadicCall_ok_fits {n : Nat} (answer : StepCall → ResultCode) (values : List Value)
    (prepared : session.Prepared n) (result : Bool)
    (returned : (session.variadicCall answer (values.map .positional)).2 = .ok result) :
    Fits session.sqlite.lengthLimit values := by
  cases values with
  | nil =>
      intro value member
      cases member
  | cons value rest =>
      have fits := percentAll_ok_fits (value :: rest) session.resetStatement n
        (prepared_resetStatement prepared)
      obtain ⟨id, stmt, owns, _⟩ := prepared
      have limit := ((keeps_resetStatement session).uses id owns.command).limit
      rw [limit] at fits
      apply fits
      simp only [List.map_cons, variadicCall] at returned
      cases bound : percentAll (.positional value :: rest.map .positional)
          session.resetStatement with
      | mk after outcome =>
          rw [bound] at returned
          cases outcome with
          | error thrown => cases returned
          | ok _ => exact congrArg Prod.snd bound

/-- What `operator()()` comes to when the step completes. -/
structure Executed (session : Session) (id : StmtId) (stmt : Stmt)
    (outcome : Session × Except Exception Bool) : Prop where
  returned : ∃ result, outcome.2 = .ok result
  log : outcome.1.sqlite.log = .stepped id stmt.source stmt.call :: session.sqlite.log
  forgotten : outcome.1.command.lastArgIdx = 0
  owns : ∃ position, position ≠ .ready ∧ outcome.1.Owns id { stmt with position := position }

theorem Owns.operatorCall_completes (owns : session.Owns id stmt) (answer : StepCall → ResultCode)
    (completes : ∀ call, answer call = .row ∨ answer call = .done) :
    Executed session id stmt (session.operatorCall answer) := by
  have log := owns.operatorCall_log answer
  have moved := (owns.modify
    (fun stmt => { stmt with position := stmt.position.after (answer stmt.call) })
    (.stepped id stmt.source stmt.call)).setLastArgIdx 0
  have stepped : session.step answer =
      ({ session with
        sqlite := session.sqlite.modify id
          (fun stmt => { stmt with position := stmt.position.after (answer stmt.call) })
          (.stepped id stmt.source stmt.call) },
        .ok (answer stmt.call = .row)) := by
    rw [step, owns.accessCheck]
    simp only [sqlite3Step, owns.found]
    rcases completes stmt.call with row | done
    · simp [row]
    · simp [done]
  rw [operatorCall, stepped] at log ⊢
  refine ⟨⟨_, rfl⟩, log, rfl, stmt.position.after (answer stmt.call), ?_, moved⟩
  rcases completes stmt.call with row | done
  · rw [row]
    cases stmt.position <;> exact fun same => by cases same
  · rw [done]
    cases stmt.position <;> exact fun same => by cases same

theorem Owns.variadicCall_binds (owns : session.Owns id stmt) (answer : StepCall → ResultCode)
    (values : List Value)
    (room : session.command.lastArgIdx + values.length ≤ stmt.parameters.length)
    (fits : Fits session.sqlite.lengthLimit values) :
    ∃ (bound : Session) (position : Position) (fresh : List Event),
      session.variadicCall answer (values.map .positional) = bound.operatorCall answer ∧
      bound.Owns id
        { stmt with
          bindings := overwrite session.command.lastArgIdx values stmt.bindings
          position := position } ∧
      bound.sqlite.log = fresh ++ session.sqlite.log ∧ fresh.filterMap Event.stepCall = [] := by
  cases values with
  | nil => exact ⟨session, stmt.position, [], rfl, owns, rfl, rfl⟩
  | cons value rest =>
      have binds := percentAll_bound (value :: rest) session.resetStatement id _
        owns.resetStatement rfl room
      have limit : session.resetStatement.sqlite.lengthLimit = session.sqlite.lengthLimit := by
        rw [Session.resetStatement, owns.command]
        rfl
      have reset : session.resetStatement.sqlite.log = .reset id :: session.sqlite.log := by
        rw [Session.resetStatement, owns.command]
        rfl
      obtain ⟨fresh, log, _, unstepped⟩ := binds.log
      have bound := binds.fits
      rw [limit] at bound
      obtain ⟨passed, moved⟩ := bound fits
      rw [reset] at log
      simp only [List.map_cons, variadicCall] at log passed moved ⊢
      cases result : percentAll (.positional value :: rest.map .positional)
          session.resetStatement with
      | mk after outcome =>
          rw [result] at log passed moved
          cases outcome with
          | error thrown => cases passed
          | ok _ =>
              refine ⟨after, .ready, fresh ++ [.reset id], rfl, moved, ?_, ?_⟩
              · rw [log, List.append_assoc]
                rfl
              · rw [List.filterMap_append, unstepped]
                rfl

end Owns

/-! ## One invocation -/

section Invocation
variable {n : Nat} {session : Session}

theorem invoke_binds (invocation : Invocation n) (id : StmtId) (stmt : Stmt)
    (owns : session.Owns id stmt) (sized : stmt.parameters.length = n)
    (bindings : stmt.bindings.length = n) (forgotten : session.command.lastArgIdx = 0)
    (able : invocation.streamed = [] ∨ stmt.position = .ready)
    (fits : Fits session.sqlite.lengthLimit invocation.values) :
    ∃ (bound : Session) (position : Position) (fresh : List Event),
      session.invoke invocation = bound.operatorCall invocation.answer ∧
      bound.Owns id { stmt with bindings := invocation.values, position := position } ∧
      bound.sqlite.log = fresh ++ session.sqlite.log ∧ fresh.filterMap Event.stepCall = [] := by
  have whole := invocation.full
  rw [List.length_append] at whole
  have all : overwrite 0 invocation.values stmt.bindings = invocation.values :=
    overwrite_all _ _ (invocation.full.trans bindings.symm)
  by_cases none : invocation.streamed = []
  · have forwarded : invocation.values = invocation.forwarded := by
      rw [Invocation.values, none, List.nil_append]
    rw [forwarded] at fits all ⊢
    rw [none, List.length_nil, Nat.zero_add] at whole
    have called := owns.variadicCall_binds invocation.answer invocation.forwarded
      (by rw [forgotten, sized]; omega) fits
    rw [forgotten, all] at called
    unfold invoke
    rw [none]
    exact called
  · have binds := percentAll_bound invocation.streamed session id stmt owns
      (able.resolve_left none) (by rw [forgotten, sized]; omega)
    obtain ⟨early, log, _, unstepped⟩ := binds.log
    obtain ⟨passed, moved⟩ := binds.fits fun value member =>
      fits value (List.mem_append_left _ member)
    have position := percentAll_ok_lastArgIdx invocation.streamed session passed
    have limit := ((keeps_percentAll (invocation.streamed.map .positional) session).uses id
      owns.command).limit
    unfold invoke
    cases result : percentAll (invocation.streamed.map .positional) session with
    | mk after outcome =>
        rw [result] at log passed moved position limit
        cases outcome with
        | error thrown => cases passed
        | ok _ =>
            dsimp only at log moved position limit ⊢
            rw [forgotten, Nat.zero_add] at position
            have called := moved.variadicCall_binds invocation.answer invocation.forwarded
              (by rw [position]; exact Nat.le_of_eq (whole.trans sized.symm))
              (by
                rw [limit]
                exact fun value member => fits value (List.mem_append_right _ member))
            obtain ⟨bound, place, fresh, same, bindings, later, quiet⟩ := called
            refine ⟨bound, place, fresh ++ early, same, ?_, ?_, ?_⟩
            · rw [position, forgotten] at bindings
              rw [Invocation.values, overwrite_append, Nat.zero_add] at all
              rw [all] at bindings
              exact bindings
            · rw [later, log, List.append_assoc]
            · rw [List.filterMap_append, quiet, unstepped]
              rfl

theorem invoked_of_able (invocation : Invocation n) (at_ : Position → Prop)
    (waiting : session.Waiting n at_)
    (able : invocation.streamed = [] ∨ ∀ position, at_ position → position = .ready)
    (fits : Fits session.sqlite.lengthLimit invocation.values) :
    session.Invoked invocation ∧ (session.invoke invocation).1.Waiting n (· ≠ .ready) := by
  obtain ⟨forgotten, id, stmt, owns, sized, bindings, place⟩ := waiting
  obtain ⟨bound, position, fresh, same, moved, log, unstepped⟩ :=
    invoke_binds invocation id stmt owns sized bindings forgotten
      (able.imp_right fun ready => ready _ place) fits
  have executed := moved.operatorCall_completes invocation.answer invocation.completes
  rw [← same] at executed
  have whole := executed.log
  rw [log, ← List.cons_append] at whole
  refine ⟨⟨executed.returned, _, _, whole, congrArg (List.cons _) unstepped, rfl⟩,
    executed.forgotten, ?_⟩
  obtain ⟨after, stepped, owns⟩ := executed.owns
  exact ⟨id, _, owns, sized, invocation.full, stepped⟩

theorem able_of_invoked (invocation : Invocation n) (id : StmtId) (stmt : Stmt)
    (owns : session.Owns id stmt) (prepared : session.Prepared n)
    (invoked : session.Invoked invocation) :
    (invocation.streamed = [] ∨ stmt.position = .ready) ∧
      Fits session.sqlite.lengthLimit invocation.values := by
  obtain ⟨⟨value, returned⟩, _⟩ := invoked
  have remains := prepared_percentAll prepared (invocation.streamed.map .positional)
  have limit := ((keeps_percentAll (invocation.streamed.map .positional) session).uses id
    owns.command).limit
  unfold invoke at returned
  have streams : (percentAll (invocation.streamed.map .positional) session).2 = .ok () := by
    cases result : percentAll (invocation.streamed.map .positional) session with
    | mk after outcome =>
        rw [result] at returned
        cases outcome with
        | error thrown => cases returned
        | ok _ => rfl
  refine ⟨owns.percentAll_ok _ streams, fun other member => ?_⟩
  rcases List.mem_append.mp member with early | late
  · exact percentAll_ok_fits invocation.streamed session n prepared streams other early
  · cases result : percentAll (invocation.streamed.map .positional) session with
    | mk after outcome =>
        rw [result] at returned streams remains limit
        cases outcome with
        | error thrown => cases streams
        | ok _ =>
            dsimp only at returned remains limit
            rw [← limit]
            exact variadicCall_ok_fits invocation.answer invocation.forwarded remains value
              returned other late

theorem keeps_invoke (invocation : Invocation n) (session : Session) :
    Keeps session (session.invoke invocation).1 := by
  have streamed := keeps_percentAll (invocation.streamed.map .positional) session
  unfold invoke
  cases result : percentAll (invocation.streamed.map .positional) session with
  | mk after outcome =>
      rw [result] at streamed
      cases outcome with
      | error thrown => exact streamed
      | ok _ => exact streamed.trans (keeps_variadicCall _ _ after)

theorem invoked_iff (invocation : Invocation n) (ready : Bool)
    (waiting : session.Waiting n fun position => decide (position = .ready) = ready) :
    session.Invoked invocation ↔ (invocation.streamed = [] ∨ ready = true) ∧
      Fits session.sqlite.lengthLimit invocation.values := by
  constructor
  · intro invoked
    obtain ⟨_, id, stmt, owns, sized, bindings, place⟩ := waiting
    rw [← place, decide_eq_true_eq]
    exact able_of_invoked invocation id stmt owns ⟨id, stmt, owns, sized, bindings⟩ invoked
  · rintro ⟨able, fits⟩
    refine (invoked_of_able invocation _ waiting (able.imp_right fun same position place => ?_)
      fits).1
    rwa [same, decide_eq_true_eq] at place

end Invocation

/-! ## Sequences of invocations -/

theorem eachInvoked_stepped (n : Nat) (invocations : List (Invocation n)) (session : Session)
    (waiting : session.Waiting n (· ≠ .ready)) :
    EachInvoked invocations session ↔ ∀ invocation ∈ invocations,
      Fits session.sqlite.lengthLimit invocation.values ∧ invocation.streamed = [] := by
  induction invocations generalizing session with
  | nil => simp [EachInvoked]
  | cons invocation rest ih =>
      obtain ⟨forgotten, id, stmt, owns, sized, bindings, stepped⟩ := id waiting
      have limit := ((keeps_invoke invocation session).uses id owns.command).limit
      rw [EachInvoked, invoked_iff invocation false
        ⟨forgotten, id, stmt, owns, sized, bindings, decide_eq_false stepped⟩,
        List.forall_mem_cons]
      simp only [Bool.false_eq_true, or_false]
      constructor
      · rintro ⟨⟨none, fits⟩, later⟩
        have next := (invoked_of_able invocation _ waiting (Or.inl none) fits).2
        rw [ih _ next, limit] at later
        exact ⟨⟨fits, none⟩, later⟩
      · rintro ⟨⟨fits, none⟩, later⟩
        have next := (invoked_of_able invocation _ waiting (Or.inl none) fits).2
        refine ⟨⟨none, fits⟩, ?_⟩
        rw [ih _ next, limit]
        exact later

/-- Every invocation of a fresh command does what it says exactly when all values are
within the length limit and no invocation but the first streams an argument. -/
theorem invocations_repeat_iff (n : Nat) (session : Session)
    (fresh : session.Waiting n (· = .ready)) (invocations : List (Invocation n)) :
    EachInvoked invocations session ↔
      (∀ invocation ∈ invocations, Fits session.sqlite.lengthLimit invocation.values) ∧
        ∀ invocation ∈ invocations.tail, invocation.streamed = [] := by
  cases invocations with
  | nil => simp [EachInvoked]
  | cons first rest =>
      obtain ⟨forgotten, id, stmt, owns, sized, bindings, ready⟩ := id fresh
      have limit := ((keeps_invoke first session).uses id owns.command).limit
      rw [EachInvoked, invoked_iff first true
        ⟨forgotten, id, stmt, owns, sized, bindings, decide_eq_true ready⟩,
        List.forall_mem_cons, List.tail_cons]
      simp only [or_true, true_and, and_assoc]
      apply and_congr_right
      intro fits
      have next := (invoked_of_able first _ fresh (Or.inr fun _ place => place) fits).2
      rw [eachInvoked_stepped n rest _ next, limit, forall₂_and]

/-- The first argument of an insertion is streamed, the second one forwarded. -/
def prefixed (first second : Int) : Invocation 2 where
  streamed := [.integer first]
  forwarded := [.integer second]
  full := rfl
  answer := fun _ => .done
  completes := fun _ => Or.inr rfl

def twoColumns : Session :=
  ⟨some 0, ⟨[⟨0, ascii "INSERT INTO t VALUES(?, ?)", [none, none], [.null, .null], .ready,
    false⟩], 1000, []⟩, ⟨ascii "INSERT INTO t VALUES(?, ?)", some 0, 0⟩⟩

theorem twoColumns_fresh : twoColumns.Waiting 2 (· = .ready) :=
  ⟨rfl, 0, _, ⟨rfl, rfl, rfl⟩, rfl, rfl, rfl⟩

theorem invocations_repeat_forwarded :
    EachInvoked [prefixed 1 2, ⟨[], [.integer 3, .integer 4], rfl, fun _ => .done,
      fun _ => Or.inr rfl⟩] twoColumns :=
  (invocations_repeat_iff 2 twoColumns twoColumns_fresh _).mpr ⟨by decide, by decide⟩

theorem second_prefix_misused :
    ¬EachInvoked [prefixed 1 2, prefixed 3 4] twoColumns := by
  rintro ⟨_, ⟨⟨_, returned⟩, _⟩, _⟩
  cases returned

end Session
end VSQLite
