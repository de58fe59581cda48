import VSQLite.Command.Invocation
import VSQLite.Lib.Writes

/-!
# Named and positional arguments

A call may mix the two kinds.  A positional argument is for the parameter after that of the last
positional one, a named argument for the parameter that has its name.  What a call binds is
said here as writes to the parameters of its statement.
-/

set_option autoImplicit false

namespace VSQLite
open Lib.Writes

namespace Arg

def value : Arg → Value
  | .positional value => value
  | .named _ value => value

def isPositional : Arg → Bool
  | .positional _ => true
  | .named _ _ => false

/-- The parameter the argument is for, where the last positional one was for the one before
`next`. -/
def place (parameters : List (Option Text)) (next : Nat) : Arg → Option Nat
  | .positional _ => if next < parameters.length then some next else none
  | .named name _ => parameters.findIdx? (· = some (cString name))

def advance (next : Nat) : Arg → Nat
  | .positional _ => next + 1
  | .named _ _ => next

/-- What the arguments write to the parameters, and if all of them are written.  The first that
is for no parameter, or is too long, is the last one looked at; the latter writes NULL. -/
def written (limit : Nat) (parameters : List (Option Text)) :
    Nat → List Arg → List (Nat × Value) × Bool
  | _, [] => ([], true)
  | next, arg :: rest =>
      match arg.place parameters next with
      | none => ([], false)
      | some place =>
          if limit < arg.value.size then ([(place, .null)], false)
          else
            ((place, arg.value) :: (written limit parameters (arg.advance next) rest).1,
              (written limit parameters (arg.advance next) rest).2)

theorem place_lt (parameters : List (Option Text)) (next place : Nat) (arg : Arg)
    (found : arg.place parameters next = some place) : place < parameters.length := by
  cases arg with
  | positional value =>
      simp only [Arg.place] at found
      split at found
      · rename_i inside
        cases found
        exact inside
      · cases found
  | named name value => exact (List.findIdx?_eq_some_iff_findIdx_eq.mp found).1

end Arg

namespace Session

/-! ## What the binds of a call come to -/

/-- The arguments were written to the parameters of the statement, and nothing was stepped. -/
structure Binds (session : Session) (id : StmtId) (stmt : Stmt)
    (written : List (Nat × Value) × Bool) (outcome : Session × Except Exception Unit) :
    Prop where
  passed : outcome.2 = .ok () ↔ written.2 = true
  owns : outcome.1.Owns id { stmt with bindings := write written.1 stmt.bindings }
  limit : outcome.1.sqlite.lengthLimit = session.sqlite.lengthLimit
  log : ∃ fresh, outcome.1.sqlite.log = fresh ++ session.sqlite.log ∧
    fresh.filterMap Event.stepCall = []

section Binds
variable {session : Session} {id : StmtId} {stmt : Stmt}

theorem Owns.bind_place (owns : session.Owns id stmt) (ready : stmt.position = .ready)
    (place : Nat) (bounded : place < stmt.parameters.length) (value : Value) :
    Binds session id stmt
      (if session.sqlite.lengthLimit < value.size then ([(place, .null)], false)
        else ([(place, value)], true))
      (session.bind ((place + 1 : Nat) : Int) value) := by
  have result := bind_in_range session.sqlite.lengthLimit place value stmt ready bounded
  have moved := owns.modify
    (fun stmt => (stmt.bind session.sqlite.lengthLimit ((place + 1 : Nat) : Int) value).2)
    (.bound id ((place + 1 : Nat) : Int) value)
  rw [owns.bind]
  by_cases tooBig : session.sqlite.lengthLimit < value.size
  · rw [if_pos tooBig] at result ⊢
    rw [result] at moved ⊢
    exact ⟨by simp, moved, rfl, [.bound id _ value], rfl, rfl⟩
  · rw [if_neg tooBig] at result ⊢
    rw [result] at moved ⊢
    exact ⟨by simp, moved, rfl, [.bound id _ value], rfl, rfl⟩

theorem Owns.bind_beyond (owns : session.Owns id stmt) (ready : stmt.position = .ready)
    (place : Nat) (beyond : ¬place < stmt.parameters.length) (value : Value) :
    Binds session id stmt ([], false) (session.bind ((place + 1 : Nat) : Int) value) := by
  have outside : ((place + 1 : Nat) : Int) < 1 ∨
      (stmt.parameters.length : Int) < ((place + 1 : Nat) : Int) := by omega
  have result : stmt.bind session.sqlite.lengthLimit ((place + 1 : Nat) : Int) value =
      (.range, stmt) := by
    rw [Stmt.bind, if_neg (fun moved => moved ready), if_pos outside]
  have moved := owns.modify
    (fun stmt => (stmt.bind session.sqlite.lengthLimit ((place + 1 : Nat) : Int) value).2)
    (.bound id ((place + 1 : Nat) : Int) value)
  rw [owns.bind]
  rw [result] at moved ⊢
  exact ⟨by simp, moved, rfl, [.bound id _ value], rfl, rfl⟩

theorem Owns.parameterIndex (owns : session.Owns id stmt) (name : Text) :
    session.parameterIndex name =
      match stmt.parameters.findIdx? (· = some (cString name)) with
      | some place => .ok (place + 1)
      | none => .error (.databaseException (ascii "no such parameter: " ++ name)) := by
  rw [Session.parameterIndex, owns.accessCheck]
  simp only [sqlite3BindParameterIndex, owns.found, Stmt.parameterIndex]
  cases stmt.parameters.findIdx? (· = some (cString name)) <;> rfl

theorem Owns.percent_binds (owns : session.Owns id stmt) (ready : stmt.position = .ready)
    (arg : Arg) :
    Binds session id stmt
      (Arg.written session.sqlite.lengthLimit stmt.parameters session.command.lastArgIdx [arg])
      (session.percent arg) := by
  cases arg with
  | positional value =>
      have advanced := owns.setLastArgIdx (session.command.lastArgIdx + 1)
      by_cases bounded : session.command.lastArgIdx < stmt.parameters.length
      · obtain ⟨passed, after, limit, log⟩ := advanced.bind_place ready _ bounded value
        simp only [Arg.written, Arg.place, if_pos bounded, Arg.value]
        exact ⟨passed, after, limit, log⟩
      · obtain ⟨passed, after, limit, log⟩ := advanced.bind_beyond ready _ bounded value
        simp only [Arg.written, Arg.place, if_neg bounded]
        exact ⟨passed, after, limit, log⟩
  | named name value =>
      have named := owns.parameterIndex name
      rw [percent, bindNamed, named]
      simp only [Arg.written, Arg.place, Arg.value]
      cases found : stmt.parameters.findIdx? (· = some (cString name)) with
      | none => exact ⟨by simp, owns, rfl, [], rfl, rfl⟩
      | some place =>
          exact owns.bind_place ready place (Arg.place_lt _ 0 place (.named name value) found) value

theorem percent_lastArgIdx_advance (arg : Arg) (session : Session) :
    (session.percent arg).1.command.lastArgIdx = arg.advance session.command.lastArgIdx := by
  cases arg with
  | positional value => exact bind_lastArgIdx _ _ value
  | named name value => exact bindNamed_lastArgIdx session name value

theorem Owns.percentAll_binds (args : List Arg) (owns : session.Owns id stmt)
    (ready : stmt.position = .ready) :
    Binds session id stmt
      (Arg.written session.sqlite.lengthLimit stmt.parameters session.command.lastArgIdx args)
      (percentAll args session) := by
  induction args generalizing session stmt with
  | nil => exact ⟨by simp [percentAll, Arg.written], owns, rfl, [], rfl, rfl⟩
  | cons arg rest ih =>
      have one := owns.percent_binds ready arg
      have position := percent_lastArgIdx_advance arg session
      simp only [percentAll, Arg.written] at one ⊢
      cases result : session.percent arg with
      | mk bound outcome =>
          rw [result] at one position
          obtain ⟨passed, after, limit, fresh, log, unstepped⟩ := one
          cases found : arg.place stmt.parameters session.command.lastArgIdx with
          | none =>
              rw [found] at passed after
              cases outcome with
              | ok _ => simp at passed
              | error thrown => exact ⟨passed, after, limit, fresh, log, unstepped⟩
          | some place =>
              rw [found] at passed after
              by_cases tooBig : session.sqlite.lengthLimit < arg.value.size
              · simp only [if_pos tooBig] at passed after ⊢
                cases outcome with
                | ok _ => simp at passed
                | error thrown => exact ⟨passed, after, limit, fresh, log, unstepped⟩
              · simp only [if_neg tooBig] at passed after ⊢
                cases outcome with
                | error thrown => simp at passed
                | ok _ =>
                    have later := ih after ready
                    dsimp only at limit position later ⊢
                    rw [limit, position] at later
                    obtain ⟨ended, last, same, others, grown, quiet⟩ := later
                    refine ⟨ended, last, same.trans limit, others ++ fresh, ?_, ?_⟩
                    · rw [grown, log, List.append_assoc]
                    · rw [List.filterMap_append, quiet, unstepped]
                      rfl

theorem percentAll_advances (args : List Arg) (session : Session)
    (passed : (percentAll args session).2 = .ok ()) :
    (percentAll args session).1.command.lastArgIdx =
      session.command.lastArgIdx + args.countP Arg.isPositional := by
  induction args generalizing session with
  | nil => rfl
  | cons arg rest ih =>
      have position := percent_lastArgIdx_advance arg session
      simp only [percentAll] at passed ⊢
      cases result : session.percent arg with
      | mk bound outcome =>
          rw [result] at passed position
          cases outcome with
          | error thrown => cases passed
          | ok _ =>
              dsimp only at passed position ⊢
              rw [ih bound passed, position]
              cases arg with
              | positional value =>
                  rw [List.countP_cons_of_pos rfl, Arg.advance]
                  omega
              | named name value =>
                  rw [List.countP_cons_of_neg (by simp [Arg.isPositional]), Arg.advance]

/-! ## What a call comes to -/

/-- The arguments of a call have been bound, and it is to be stepped from `start`. -/
structure Filled (session : Session) (id : StmtId) (stmt : Stmt) (written : List (Nat × Value))
    (start : Position) (bound : Session) : Prop where
  owns : bound.Owns id
    { stmt with bindings := write written stmt.bindings, position := start }
  limit : bound.sqlite.lengthLimit = session.sqlite.lengthLimit
  log : ∃ fresh, bound.sqlite.log = fresh ++ session.sqlite.log ∧
    fresh.filterMap Event.stepCall = []

theorem Filled.executed {writes : List (Nat × Value)} {start : Position} {bound : Session}
    (filled : Filled session id stmt writes start bound) (answer : StepCall → ResultCode) :
    ∃ fresh, (bound.operatorCall answer).1.sqlite.log = fresh ++ session.sqlite.log ∧
      fresh.filterMap Event.stepCall =
        [⟨cString stmt.source, write writes stmt.bindings, start⟩] := by
  obtain ⟨fresh, log, unstepped⟩ := filled.log
  refine ⟨_ :: fresh, by rw [filled.owns.operatorCall_log answer, log]; rfl, ?_⟩
  rw [List.filterMap_cons, unstepped]
  rfl

theorem Owns.variadicCall_filled (owns : session.Owns id stmt) (answer : StepCall → ResultCode)
    (args : List Arg) :
    ∃ bound start, Filled session id stmt (Arg.written session.sqlite.lengthLimit stmt.parameters
        session.command.lastArgIdx args).1 start bound ∧ (args ≠ [] → start = .ready) ∧
      (((Arg.written session.sqlite.lengthLimit stmt.parameters session.command.lastArgIdx
          args).2 = true ∧ session.variadicCall answer args = bound.operatorCall answer ∧
        bound.command = { session.command with
          lastArgIdx := session.command.lastArgIdx + args.countP Arg.isPositional }) ∨
      ((Arg.written session.sqlite.lengthLimit stmt.parameters session.command.lastArgIdx
          args).2 = false ∧
        ∃ thrown, session.variadicCall answer args = (bound, .error thrown))) := by
  cases args with
  | nil =>
      exact ⟨session, stmt.position, ⟨owns, rfl, [], rfl, rfl⟩,
        fun impossible => absurd rfl impossible, Or.inl ⟨rfl, rfl, rfl⟩⟩
  | cons arg rest =>
      have binds := owns.resetStatement.percentAll_binds (arg :: rest) rfl
      have advances := percentAll_advances (arg :: rest) session.resetStatement
      have keeps := keeps_percentAll (arg :: rest) session.resetStatement
      have limit : session.resetStatement.sqlite.lengthLimit = session.sqlite.lengthLimit := by
        rw [Session.resetStatement, owns.command]
        rfl
      have reset : session.resetStatement.sqlite.log = .reset id :: session.sqlite.log := by
        rw [Session.resetStatement, owns.command]
        rfl
      have unmoved : session.resetStatement.command = session.command := rfl
      rw [limit, unmoved] at binds
      rw [unmoved] at advances
      simp only [variadicCall]
      cases result : percentAll (arg :: rest) session.resetStatement with
      | mk bound outcome =>
          rw [result] at binds advances keeps
          obtain ⟨passed, after, same, fresh, log, unstepped⟩ := binds
          have filled : Filled session id stmt (Arg.written session.sqlite.lengthLimit
              stmt.parameters session.command.lastArgIdx (arg :: rest)).1 .ready bound := by
            refine ⟨after, same.trans limit, fresh ++ [.reset id], ?_, ?_⟩
            · rw [log, reset, List.append_assoc]
              rfl
            · rw [List.filterMap_append, unstepped]
              rfl
          refine ⟨bound, .ready, filled, fun _ => rfl, ?_⟩
          cases outcome with
          | error thrown =>
              refine Or.inr ⟨?_, thrown, rfl⟩
              rw [← Bool.not_eq_true, ← passed]
              exact fun impossible => by cases impossible
          | ok _ =>
              refine Or.inl ⟨passed.mp rfl, rfl, ?_⟩
              have sql := keeps.sql
              have own := keeps.stmt
              have position := advances rfl
              cases commands : bound.command with
              | mk text held last =>
                  rw [commands] at sql own position
                  dsimp only at sql own position
                  rw [sql, own, position]
                  rfl

theorem Owns.step_eq (owns : session.Owns id stmt) (answer : StepCall → ResultCode) :
    (session.step answer).1 =
      { session with
        sqlite := session.sqlite.modify id
          (fun stmt => { stmt with position := stmt.position.after (answer stmt.call) })
          (.stepped id stmt.source stmt.call) } := by
  rw [step, owns.accessCheck]
  simp only [sqlite3Step, owns.found]

theorem Owns.operatorCall_owns (owns : session.Owns id stmt) (answer : StepCall → ResultCode) :
    (session.operatorCall answer).1.Owns id
      { stmt with position := stmt.position.after (answer stmt.call) } := by
  have moved := owns.modify
    (fun stmt => { stmt with position := stmt.position.after (answer stmt.call) })
    (.stepped id stmt.source stmt.call)
  rw [← owns.step_eq answer] at moved
  exact operatorCall_preserves (fun after => after.Owns id _) answer session moved
    fun _ after => after.setLastArgIdx 0

theorem reachesPositional_named (args : List Arg) (session : Session)
    (named : ∀ arg ∈ args, arg.isPositional = false) :
    reachesPositional args session = false := by
  induction args generalizing session with
  | nil => rfl
  | cons arg rest ih =>
      cases arg with
      | positional value =>
          have impossible := named (.positional value) (List.mem_cons_self ..)
          cases impossible
      | named name value =>
          simp only [reachesPositional]
          cases session.bindNamed name value with
          | mk bound outcome =>
              cases outcome with
              | error thrown => rfl
              | ok _ =>
                  exact ih bound fun other member => named other (List.mem_cons_of_mem _ member)

end Binds
end Session

/-! ## Histories of calls -/

section Histories
variable (limit : Nat) (parameters : List (Option Text))

/-- A call whose arguments are all named, or one that is given nothing it has to refuse and
whose step does not fail. -/
def Session.Call.Sound (call : Session.Call) : Prop :=
  (∀ arg ∈ call.args, arg.isPositional = false) ∨
    ((Arg.written limit parameters 0 call.args).2 = true ∧
      ∀ stepped, call.answer stepped = .row ∨ call.answer stepped = .done)

def given (calls : List Session.Call) : List (Nat × Value) :=
  calls.flatMap fun call => (Arg.written limit parameters 0 call.args).1

theorem given_concat (history : List Session.Call) (call : Session.Call) :
    given limit parameters (history ++ [call]) =
      given limit parameters history ++ (Arg.written limit parameters 0 call.args).1 := by
  rw [given, List.flatMap_append, List.flatMap_singleton]
  rfl

end Histories

namespace Session

section Histories
variable {session : Session} {id : StmtId} {stmt : Stmt}

/-- Between two calls of a history: what was written is there, and no position is remembered. -/
structure Remembers (session : Session) (id : StmtId) (stmt : Stmt)
    (writes : List (Nat × Value)) (after : Session) : Prop where
  owns : ∃ position, after.Owns id
    { stmt with bindings := write writes stmt.bindings, position := position }
  forgotten : after.command.lastArgIdx = 0
  limit : after.sqlite.lengthLimit = session.sqlite.lengthLimit

theorem Owns.call_remembers (owns : session.Owns id stmt) (call : Call)
    (forgotten : session.command.lastArgIdx = 0)
    (sound : call.Sound session.sqlite.lengthLimit stmt.parameters) :
    Remembers session id stmt
      (Arg.written session.sqlite.lengthLimit stmt.parameters 0 call.args).1
      (session.variadicCall call.answer call.args).1 := by
  have position := variadicCall_lastArgIdx session call.answer call.args
  obtain ⟨bound, start, filled, _, outcome⟩ := owns.variadicCall_filled call.answer call.args
  rw [forgotten] at filled outcome
  rcases outcome with ⟨passed, called, _⟩ | ⟨refused, thrown, called⟩
  · refine ⟨?_, ?_, ?_⟩
    · rw [called]
      exact ⟨_, filled.owns.operatorCall_owns call.answer⟩
    · rw [position]
      rcases sound with named | ⟨_, completes⟩
      · cases (session.variadicCall call.answer call.args).2 with
        | ok _ => trivial
        | error _ => exact ⟨forgotten, reachesPositional_named _ _ named⟩
      · obtain ⟨result, returned⟩ :=
          (filled.owns.operatorCall_completes call.answer completes).returned
        rw [called, returned]
        trivial
    · rw [called]
      exact ((keeps_operatorCall call.answer bound).uses id filled.owns.command).limit.trans
        filled.limit
  · have named : ∀ arg ∈ call.args, arg.isPositional = false := by
      rcases sound with named | ⟨passed, _⟩
      · exact named
      · rw [refused] at passed
        cases passed
    refine ⟨⟨start, ?_⟩, ?_, ?_⟩
    · rw [called]
      exact filled.owns
    · rw [position, called]
      exact ⟨forgotten, reachesPositional_named _ _ named⟩
    · rw [called]
      exact filled.limit

theorem Owns.history_remembers (history : List Call) (owns : session.Owns id stmt)
    (forgotten : session.command.lastArgIdx = 0)
    (sound : ∀ call ∈ history, call.Sound session.sqlite.lengthLimit stmt.parameters) :
    Remembers session id stmt (given session.sqlite.lengthLimit stmt.parameters history)
      (session.afterCalls history) := by
  induction history generalizing session stmt with
  | nil => exact ⟨⟨stmt.position, owns⟩, forgotten, rfl⟩
  | cons call rest ih =>
      have first := owns.call_remembers call forgotten (sound call (List.mem_cons_self ..))
      obtain ⟨position, after⟩ := first.owns
      have later := ih after first.forgotten fun other member => by
        rw [first.limit]
        exact sound other (List.mem_cons_of_mem _ member)
      obtain ⟨last, owned⟩ := later.owns
      rw [first.limit] at owned
      refine ⟨⟨last, ?_⟩, later.forgotten, later.limit.trans first.limit⟩
      rw [given, List.flatMap_cons, write_append]
      exact owned

/-- After any history of calls whose arguments are all named, whatever became of them, or which
had arguments of both kinds and went through, a call is executed once unless it is given an
argument to refuse, and every parameter then has the value it was last given. -/
theorem last_given_is_bound (session : Session) (id : StmtId) (stmt : Stmt)
    (history : List Call) (call : Call) (owns : session.Owns id stmt)
    (bindings : stmt.bindings.length = stmt.parameters.length)
    (forgotten : session.command.lastArgIdx = 0)
    (sound : ∀ call ∈ history, call.Sound session.sqlite.lengthLimit stmt.parameters) :
    ∃ fresh, ((session.afterCalls history).variadicCall call.answer call.args).1.sqlite.log =
        fresh ++ (session.afterCalls history).sqlite.log ∧
      if (Arg.written session.sqlite.lengthLimit stmt.parameters 0 call.args).2 = true then
        ∃ executed, fresh.filterMap Event.stepCall = [executed] ∧
          executed.sql = cString stmt.source ∧
          ∀ place, place < stmt.parameters.length → executed.bindings[place]? =
            (lastAt place (given session.sqlite.lengthLimit stmt.parameters
              (history ++ [call]))).or stmt.bindings[place]?
      else
        fresh.filterMap Event.stepCall = [] ∧
          ∃ thrown, ((session.afterCalls history).variadicCall call.answer call.args).2 =
            .error thrown := by
  have remembered := owns.history_remembers history forgotten sound
  obtain ⟨position, owned⟩ := remembered.owns
  obtain ⟨bound, start, filled, _, outcome⟩ := owned.variadicCall_filled call.answer call.args
  rw [remembered.forgotten, remembered.limit] at filled outcome
  dsimp only at filled outcome
  rcases outcome with ⟨passed, called, _⟩ | ⟨refused, thrown, called⟩
  · obtain ⟨fresh, log, executed⟩ := filled.executed call.answer
    refine ⟨fresh, by rw [called, log], ?_⟩
    rw [if_pos passed]
    refine ⟨_, executed, rfl, fun place bounded => ?_⟩
    rw [← getElem?_write _ _ _ (by rwa [bindings]), given_concat, write_append]
  · obtain ⟨fresh, log, unstepped⟩ := filled.log
    refine ⟨fresh, by rw [called, log], ?_⟩
    rw [refused, if_neg Bool.false_ne_true]
    exact ⟨unstepped, thrown, by rw [called]⟩

end Histories

def threeParameters : Stmt where
  db := 1
  source := ascii "INSERT INTO t VALUES(:a, ?, :c);"
  parameters := [some (ascii ":a"), none, some (ascii ":c")]
  bindings := [.null, .null, .null]
  position := .ready
  finalized := false

def freshCommand (stmt : Stmt) : Session := ⟨some 1, ⟨[stmt], 1000, []⟩, ⟨stmt.source, some 0, 0⟩⟩

/-- A name that no parameter has, arguments of both kinds, and a step that fails. -/
def mixedHistory : List Call :=
  [⟨[.named (ascii ":z") (.integer 1)], fun _ => .done⟩,
    ⟨[.named (ascii ":c") (.integer 2), .positional (.integer 3)], fun _ => .done⟩,
    ⟨[.named (ascii ":a") (.integer 4)], fun _ => .error 19⟩]

theorem last_given_is_bound_mixed :
    ∃ fresh executed,
      (((freshCommand threeParameters).afterCalls mixedHistory).variadicCall (fun _ => .done)
        [.named (ascii ":a") (.integer 5)]).1.sqlite.log =
          fresh ++ ((freshCommand threeParameters).afterCalls mixedHistory).sqlite.log ∧
      fresh.filterMap Event.stepCall = [executed] ∧
      executed.bindings[0]? = some (.integer 5) ∧ executed.bindings[1]? = some .null ∧
      executed.bindings[2]? = some (.integer 2) := by
  have sound : ∀ call ∈ mixedHistory, call.Sound 1000 threeParameters.parameters := by
    refine List.forall_mem_cons.mpr ⟨Or.inl (by decide), List.forall_mem_cons.mpr ⟨?_, ?_⟩⟩
    · exact Or.inr ⟨by decide, fun _ => Or.inr rfl⟩
    · exact List.forall_mem_cons.mpr ⟨Or.inl (by decide), fun _ member => by cases member⟩
  obtain ⟨fresh, log, executed, once, _, bound⟩ :=
    last_given_is_bound (freshCommand threeParameters) 0 threeParameters mixedHistory
      ⟨[.named (ascii ":a") (.integer 5)], fun _ => .done⟩ ⟨rfl, rfl, rfl⟩ rfl rfl sound
  exact ⟨fresh, executed, log, once, bound 0 (by decide), bound 1 (by decide), bound 2 (by decide)⟩

end Session

/-! ## Named arguments in other places -/

namespace Arg

section Order
variable {limit : Nat} {parameters : List (Option Text)}

theorem written_cons (next place : Nat) (arg : Arg) (rest : List Arg)
    (found : arg.place parameters next = some place) (fits : arg.value.size ≤ limit) :
    written limit parameters next (arg :: rest) =
      ((place, arg.value) :: (written limit parameters (arg.advance next) rest).1,
        (written limit parameters (arg.advance next) rest).2) := by
  simp only [written, found, if_neg (Nat.not_lt.mpr fits)]

theorem written_cons_passed (next : Nat) (arg : Arg) (rest : List Arg) :
    (written limit parameters next (arg :: rest)).2 = true ↔
      ∃ place, arg.place parameters next = some place ∧ arg.value.size ≤ limit ∧
        (written limit parameters (arg.advance next) rest).2 = true := by
  simp only [written]
  cases found : arg.place parameters next with
  | none => simp
  | some place =>
      by_cases tooBig : limit < arg.value.size
      · simp [tooBig, Nat.not_le.mpr tooBig]
      · simp [tooBig, Nat.le_of_not_lt tooBig]

theorem written_named_next (args : List Arg) (named : ∀ arg ∈ args, arg.isPositional = false)
    (next other : Nat) :
    written limit parameters next args = written limit parameters other args := by
  induction args with
  | nil => rfl
  | cons arg rest ih =>
      cases arg with
      | positional value =>
          have impossible := named (.positional value) (List.mem_cons_self ..)
          cases impossible
      | named name value =>
          have later := ih fun arg member => named arg (List.mem_cons_of_mem _ member)
          simp only [written, place, advance, later]

theorem written_named_perm {args others : List Arg} (perm : args.Perm others)
    (named : ∀ arg ∈ args, arg.isPositional = false) (next : Nat)
    (passed : (written limit parameters next args).2 = true) :
    (written limit parameters next others).2 = true ∧
      (written limit parameters next args).1.Perm (written limit parameters next others).1 := by
  induction perm generalizing next with
  | nil => exact ⟨passed, List.Perm.refl _⟩
  | cons arg _ ih =>
      obtain ⟨place, found, fits, later⟩ := (written_cons_passed next arg _).mp passed
      obtain ⟨still, same⟩ := ih (fun other member => named other (List.mem_cons_of_mem _ member))
        _ later
      refine ⟨(written_cons_passed next arg _).mpr ⟨place, found, fits, still⟩, ?_⟩
      rw [written_cons next place arg _ found fits, written_cons next place arg _ found fits]
      exact same.cons _
  | swap first second rest =>
      have keeps : ∀ arg : Arg, arg.isPositional = false → arg.advance next = next := by
        intro arg isNamed
        cases arg with
        | positional value => cases isNamed
        | named name value => rfl
      have stays := keeps first (named first (List.mem_cons_of_mem _ (List.mem_cons_self ..)))
      have rests := keeps second (named second (List.mem_cons_self ..))
      obtain ⟨place, found, fits, after⟩ := (written_cons_passed next second _).mp passed
      rw [rests] at after
      obtain ⟨other, known, short, later⟩ := (written_cons_passed next first _).mp after
      rw [stays] at later
      refine ⟨?_, ?_⟩
      · refine (written_cons_passed next first _).mpr ⟨other, known, short, ?_⟩
        rw [stays]
        refine (written_cons_passed next second _).mpr ⟨place, found, fits, ?_⟩
        rwa [rests]
      · rw [written_cons next place second _ found fits, rests,
          written_cons next other first _ known short,
          written_cons next other first _ known short, stays,
          written_cons next place second _ found fits, rests]
        exact List.Perm.swap _ _ _
  | trans early _ ihEarly ihLate =>
      obtain ⟨middle, first⟩ := ihEarly named next passed
      obtain ⟨last, second⟩ := ihLate
        (fun arg member => named arg (early.mem_iff.mpr member)) next middle
      exact ⟨last, first.trans second⟩

theorem written_split (limit : Nat) (parameters : List (Option Text)) (args : List Arg)
    (next : Nat) :
    ((written limit parameters next args).2 = true ↔
      (written limit parameters next (args.filter isPositional)).2 = true ∧
        (written limit parameters next (args.filter fun arg => !arg.isPositional)).2 = true) ∧
    ((written limit parameters next args).2 = true →
      (written limit parameters next args).1.Perm
        ((written limit parameters next (args.filter isPositional)).1 ++
          (written limit parameters next (args.filter fun arg => !arg.isPositional)).1)) := by
  induction args generalizing next with
  | nil => simp [written]
  | cons arg rest ih =>
      have named : ∀ arg ∈ rest.filter fun arg => !arg.isPositional, arg.isPositional = false := by
        intro arg member
        simpa using (List.mem_filter.mp member).2
      cases arg with
      | positional value =>
          obtain ⟨passes, writes⟩ := ih (next + 1)
          rw [written_named_next _ named (next + 1) next] at passes writes
          rw [List.filter_cons_of_pos rfl, List.filter_cons_of_neg (by simp [isPositional])]
          refine ⟨?_, fun passed => ?_⟩
          · rw [written_cons_passed, written_cons_passed, advance, passes]
            constructor
            · rintro ⟨place, found, fits, positional, others⟩
              exact ⟨⟨place, found, fits, positional⟩, others⟩
            · rintro ⟨⟨place, found, fits, positional⟩, others⟩
              exact ⟨place, found, fits, positional, others⟩
          · obtain ⟨place, found, fits, later⟩ := (written_cons_passed next _ _).mp passed
            rw [written_cons next place _ _ found fits, written_cons next place _ _ found fits]
            exact (writes later).cons _
      | named name value =>
          obtain ⟨passes, writes⟩ := ih next
          rw [List.filter_cons_of_neg (by simp [isPositional]), List.filter_cons_of_pos rfl]
          refine ⟨?_, fun passed => ?_⟩
          · rw [written_cons_passed, written_cons_passed, advance, passes]
            constructor
            · rintro ⟨place, found, fits, positional, others⟩
              exact ⟨positional, place, found, fits, others⟩
            · rintro ⟨positional, place, found, fits, others⟩
              exact ⟨place, found, fits, positional, others⟩
          · obtain ⟨place, found, fits, later⟩ := (written_cons_passed next _ _).mp passed
            rw [written_cons next place _ _ found fits, written_cons next place _ _ found fits]
            exact ((writes later).cons _).trans List.perm_middle.symm

theorem written_reordered {args others : List Arg} (perm : args.Perm others)
    (positional : args.filter isPositional = others.filter isPositional) (next : Nat)
    (passed : (written limit parameters next args).2 = true) :
    (written limit parameters next others).2 = true ∧
      (written limit parameters next args).1.Perm (written limit parameters next others).1 := by
  obtain ⟨passes, writes⟩ := written_split limit parameters args next
  obtain ⟨othersPass, othersWrite⟩ := written_split limit parameters others next
  obtain ⟨first, named⟩ := passes.mp passed
  obtain ⟨still, same⟩ := written_named_perm (perm.filter fun arg => !arg.isPositional)
    (fun arg member => by simpa using (List.mem_filter.mp member).2) next named
  have all : (written limit parameters next others).2 = true := by
    rw [othersPass, ← positional]
    exact ⟨first, still⟩
  refine ⟨all, ?_⟩
  have sorted := othersWrite all
  rw [← positional] at sorted
  exact ((writes passed).trans (same.append_left _)).trans sorted.symm

end Order
end Arg

namespace Session

section Order
variable {session : Session} {id : StmtId} {stmt : Stmt}

theorem operatorCall_agrees (answer : StepCall → ResultCode) {first second : Session}
    (owns : first.Owns id stmt) (also : second.Owns id stmt)
    (command : first.command = second.command) :
    (first.operatorCall answer).2 = (second.operatorCall answer).2 ∧
      (first.operatorCall answer).1.command = (second.operatorCall answer).1.command := by
  unfold operatorCall step
  rw [owns.accessCheck, also.accessCheck]
  simp only [sqlite3Step, owns.found, also.found]
  cases answer stmt.call <;> simp [setLastArgIdx, command]

/-- Where the named arguments of a call stand does not matter as long as no parameter is given
two values: the same execution with the same outcome, which leaves the command and its
statement as they would be. -/
theorem named_arguments_anywhere (session : Session) (id : StmtId) (stmt : Stmt)
    (answer : StepCall → ResultCode) (args others : List Arg) (owns : session.Owns id stmt)
    (perm : args.Perm others)
    (positional : args.filter Arg.isPositional = others.filter Arg.isPositional)
    (passed : (Arg.written session.sqlite.lengthLimit stmt.parameters
      session.command.lastArgIdx args).2 = true)
    (distinct : Distinct (Arg.written session.sqlite.lengthLimit stmt.parameters
      session.command.lastArgIdx args).1) :
    (session.variadicCall answer args).2 = (session.variadicCall answer others).2 ∧
      (session.variadicCall answer args).1.command =
        (session.variadicCall answer others).1.command ∧
      (session.variadicCall answer args).1.sqlite.stmts[id]? =
        (session.variadicCall answer others).1.sqlite.stmts[id]? ∧
      ∃ executed fresh other,
        (session.variadicCall answer args).1.sqlite.log = fresh ++ session.sqlite.log ∧
        (session.variadicCall answer others).1.sqlite.log = other ++ session.sqlite.log ∧
        fresh.filterMap Event.stepCall = [executed] ∧
        other.filterMap Event.stepCall = [executed] := by
  obtain ⟨passes, writes⟩ := Arg.written_reordered perm positional _ passed
  obtain ⟨first, start, filled, ready, outcome⟩ := owns.variadicCall_filled answer args
  obtain ⟨second, begin, alsoFilled, alsoReady, otherOutcome⟩ :=
    owns.variadicCall_filled answer others
  rw [passed] at outcome
  rw [passes] at otherOutcome
  obtain ⟨_, called, command⟩ := outcome.resolve_right fun refused => by cases refused.1
  obtain ⟨_, alsoCalled, alsoCommand⟩ :=
    otherOutcome.resolve_right fun refused => by cases refused.1
  obtain ⟨fresh, log, executed⟩ := filled.executed answer
  by_cases empty : args = []
  · subst empty
    cases perm.nil_eq
    exact ⟨rfl, rfl, rfl, _, fresh, fresh, by rw [called, log], by rw [called, log], executed,
      executed⟩
  · have started := ready empty
    have begun := alsoReady fun none => empty (List.Perm.eq_nil (none ▸ perm))
    subst started begun
    obtain ⟨other, otherLog, also⟩ := alsoFilled.executed answer
    have alsoOwns := alsoFilled.owns
    rw [← write_perm writes distinct] at also alsoOwns
    rw [perm.countP_eq, ← alsoCommand] at command
    obtain ⟨returned, left⟩ := operatorCall_agrees answer filled.owns alsoOwns command
    rw [called, alsoCalled]
    refine ⟨returned, left, ?_, _, fresh, other, log, otherLog, executed, also⟩
    exact (filled.owns.operatorCall_owns answer).found.trans
      (alsoOwns.operatorCall_owns answer).found.symm

end Order

theorem named_arguments_anywhere_first :
    ∃ executed fresh other,
      ((freshCommand threeParameters).variadicCall (fun _ => .done)
        [.positional (.integer 3), .named (ascii ":c") (.integer 2)]).1.sqlite.log =
          fresh ++ [] ∧
      ((freshCommand threeParameters).variadicCall (fun _ => .done)
        [.named (ascii ":c") (.integer 2), .positional (.integer 3)]).1.sqlite.log =
          other ++ [] ∧
      fresh.filterMap Event.stepCall = [executed] ∧
      other.filterMap Event.stepCall = [executed] :=
  (named_arguments_anywhere (freshCommand threeParameters) 0 threeParameters (fun _ => .done) _ _
    ⟨rfl, rfl, rfl⟩ (List.Perm.swap _ _ _) (by decide) (by decide) (by decide)).2.2.2

end Session
end VSQLite
