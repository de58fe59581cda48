import VSQLite.Command.Invocation

/-!
# Enumerations of a query

`for (row : q.each(args...))` binds through `operator%`, makes a result that is not marked
as ended, and steps it in `begin()` and `++`.  Neither the position that `operator%` goes on
from nor the statement is put back for the next enumeration.
-/

set_option autoImplicit false

namespace VSQLite

/-- A row of a statement: the bindings it is yielded under, and its number among the rows
they yield, from 1. -/
structure Row where
  bindings : List Value
  number : Nat
deriving DecidableEq, Repr

def Stmt.currentRow (stmt : Stmt) : Option Row :=
  match stmt.position with
  | .row number => some ⟨stmt.bindings, number⟩
  | _ => none

/-- The rows an execution has yielded; one that has finished starts again. -/
def Position.yielded : Position → Nat
  | .row count => count
  | _ => 0

@[simp] theorem Position.yielded_row (count : Nat) : (Position.row count).yielded = count := rfl

/-- Stepping a statement that has so many rows under each list of bindings. -/
def rowAnswer (count : List Value → Nat) (call : StepCall) : ResultCode :=
  if call.position.yielded < count call.bindings then .row else .done

/-- A loop over `q.each(args...)` that is left in the body of the row after the first
`leave` rows, or at the end of the rows if it does not get there. -/
structure Enumeration (n : Nat) where
  args : List Value
  full : args.length = n
  leave : Nat

namespace Session

/-- `result::next_row`: whether there is a row, and if the result is ended now. -/
def nextRow (answer : StepCall → ResultCode) (ended : Bool) (session : Session) :
    Session × Except Exception (Bool × Bool) :=
  if ended then (session, .ok (false, true))
  else
    match session.step answer with
    | (stepped, .error thrown) => (stepped, .error thrown)
    | (stepped, .ok row) => (stepped, .ok (row, !row))

def currentRow (session : Session) : Option Row := session.own.bind Stmt.currentRow

/-- The rows the body of a range-based `for` sees. -/
def loop (answer : StepCall → ResultCode) :
    Nat → Bool → Session → Session × Except Exception (List Row)
  | leave, ended, session =>
      match session.nextRow answer ended with
      | (after, .error thrown) => (after, .error thrown)
      | (after, .ok (false, _)) => (after, .ok [])
      | (after, .ok (true, ended)) =>
          match leave with
          | 0 => (after, .ok after.currentRow.toList)
          | leave + 1 =>
              let later := loop answer leave ended after
              (later.1, later.2.map (after.currentRow.toList ++ ·))

/-- `query::each(args...)`; of what `get_result` does only the access check concerns the
session. -/
def each (args : List Value) (session : Session) : Session × Except Exception Unit :=
  match percentAll (args.map .positional) session with
  | (bound, .error thrown) => (bound, .error thrown)
  | (bound, .ok ()) => (bound, bound.accessCheck.map fun _ => ())

/-- The loop over a new range.  The names that `begin()` asks for leave the session as it
is. -/
def enumerate {n : Nat} (count : List Value → Nat) (enumeration : Enumeration n)
    (session : Session) : Session × Except Exception (List Row) :=
  match session.each enumeration.args with
  | (bound, .error thrown) => (bound, .error thrown)
  | (bound, .ok ()) => bound.loop (rowAnswer count) enumeration.leave false

/-- The first so many rows under the bindings, after those that were skipped. -/
def rowsFrom (bindings : List Value) (skipped rows : Nat) : List Row :=
  (List.range rows).map fun index => ⟨bindings, skipped + index + 1⟩

/-- The loop steps with the arguments as bindings, and sees the rows under them from the
first one on. -/
def Enumerated {n : Nat} (count : List Value → Nat) (enumeration : Enumeration n)
    (session : Session) : Prop :=
  (session.enumerate count enumeration).2 =
      .ok (rowsFrom enumeration.args 0 (min (count enumeration.args) (enumeration.leave + 1))) ∧
    ∃ fresh, (session.enumerate count enumeration).1.sqlite.log = fresh ++ session.sqlite.log ∧
      ∀ call ∈ fresh.filterMap Event.stepCall, call.bindings = enumeration.args

def EachEnumerated {n : Nat} (count : List Value → Nat) :
    List (Enumeration n) → Session → Prop
  | [], _ => True
  | enumeration :: rest, session =>
      session.Enumerated count enumeration ∧
        EachEnumerated count rest (session.enumerate count enumeration).1

/-! ## The loop -/

/-- Where the loop leaves a statement that had yielded some of its rows. -/
def leftAt (rows yielded leave : Nat) : Position :=
  if rows - yielded ≤ leave then .halted else .row (yielded + leave + 1)

theorem leftAt_succ (rows yielded leave : Nat) (more : yielded < rows) :
    leftAt rows (yielded + 1) leave = leftAt rows yielded (leave + 1) := by
  have numbers : yielded + 1 + leave + 1 = yielded + (leave + 1) + 1 := by omega
  unfold leftAt
  rw [numbers]
  by_cases few : rows - yielded ≤ leave + 1
  · rw [if_pos few, if_pos (by omega)]
  · rw [if_neg few, if_neg (by omega)]

theorem rowsFrom_succ (bindings : List Value) (skipped rows : Nat) :
    rowsFrom bindings skipped (rows + 1) =
      ⟨bindings, skipped + 1⟩ :: rowsFrom bindings (skipped + 1) rows := by
  rw [rowsFrom, List.range_succ_eq_map, List.map_cons, List.map_map, rowsFrom]
  congr 1
  apply List.map_congr_left
  intro index _
  simp only [Function.comp_apply, Row.mk.injEq, true_and]
  omega

section Owns
variable {session : Session} {id : StmtId} {stmt : Stmt}

theorem Owns.nextRow (owns : session.Owns id stmt) (count : List Value → Nat) :
    ∃ after : Session, session.nextRow (rowAnswer count) false =
        (after, .ok (decide (stmt.position.yielded < count stmt.bindings),
          !decide (stmt.position.yielded < count stmt.bindings))) ∧
      after.command.lastArgIdx = session.command.lastArgIdx ∧
      after.sqlite.log = .stepped id stmt.source stmt.call :: session.sqlite.log ∧
      after.Owns id
        { stmt with
          position := if stmt.position.yielded < count stmt.bindings
            then .row (stmt.position.yielded + 1) else .halted } := by
  have moved := owns.modify
    (fun stmt => { stmt with position := stmt.position.after (rowAnswer count stmt.call) })
    (.stepped id stmt.source stmt.call)
  refine ⟨{ session with
    sqlite := session.sqlite.modify id
      (fun stmt => { stmt with position := stmt.position.after (rowAnswer count stmt.call) })
      (.stepped id stmt.source stmt.call) }, ?_, rfl, rfl, ?_⟩
  · rw [Session.nextRow, if_neg Bool.false_ne_true, step, owns.accessCheck]
    simp only [sqlite3Step, owns.found]
    by_cases more : stmt.position.yielded < count stmt.bindings
    · have row : rowAnswer count stmt.call = .row := if_pos more
      simp only [row, more, decide_true, Bool.not_true]
    · have done : rowAnswer count stmt.call = .done := if_neg more
      simp only [done, more, decide_false, Bool.not_false]
  · by_cases more : stmt.position.yielded < count stmt.bindings
    · have row : rowAnswer count stmt.call = .row := if_pos more
      rw [if_pos more]
      simp only [row] at moved
      have place : stmt.position.after .row = .row (stmt.position.yielded + 1) := by
        cases stmt.position <;> rfl
      rw [place] at moved
      exact moved
    · have done : rowAnswer count stmt.call = .done := if_neg more
      rw [if_neg more]
      simp only [done] at moved
      have place : stmt.position.after .done = .halted := by
        cases stmt.position <;> rfl
      rw [place] at moved
      exact moved

theorem Owns.step (owns : session.Owns id stmt) (count : List Value → Nat) :
    ∃ after : Session, session.step (rowAnswer count) =
        (after, .ok (decide (stmt.position.yielded < count stmt.bindings))) ∧
      after.sqlite.log = .stepped id stmt.source stmt.call :: session.sqlite.log ∧
      after.Owns id
        { stmt with
          position := if stmt.position.yielded < count stmt.bindings
            then .row (stmt.position.yielded + 1) else .halted } := by
  obtain ⟨after, moved, -, log, next⟩ := owns.nextRow count
  rw [Session.nextRow, if_neg Bool.false_ne_true] at moved
  cases result : session.step (rowAnswer count) with
  | mk stepped outcome =>
      rw [result] at moved
      cases outcome with
      | error thrown => cases moved
      | ok row =>
          cases moved
          exact ⟨_, rfl, log, next⟩

theorem Owns.currentRow (owns : session.Owns id stmt) :
    session.currentRow = stmt.currentRow := by
  rw [Session.currentRow, own, owns.command, Option.bind_some, owns.found, Option.bind_some]

/-- What a loop over a statement comes to that has yielded some of its rows. -/
structure Looped (count : List Value → Nat) (leave : Nat) (session : Session) (id : StmtId)
    (stmt : Stmt) (outcome : Session × Except Exception (List Row)) : Prop where
  rows : outcome.2 = .ok (rowsFrom stmt.bindings stmt.position.yielded
    (min (count stmt.bindings - stmt.position.yielded) (leave + 1)))
  log : ∃ fresh, outcome.1.sqlite.log = fresh ++ session.sqlite.log ∧
    ∀ call ∈ fresh.filterMap Event.stepCall, call.bindings = stmt.bindings
  forgotten : outcome.1.command.lastArgIdx = session.command.lastArgIdx
  owns : outcome.1.Owns id
    { stmt with position := leftAt (count stmt.bindings) stmt.position.yielded leave }

theorem stepped_calls (id : StmtId) (stmt : Stmt) :
    ∀ call ∈ [Event.stepped id stmt.source stmt.call].filterMap Event.stepCall,
      call.bindings = stmt.bindings := by
  intro call member
  rw [List.mem_singleton.mp member]
  rfl

theorem Owns.loop_end (owns : session.Owns id stmt) (count : List Value → Nat) (leave : Nat)
    (none : ¬stmt.position.yielded < count stmt.bindings) :
    Looped count leave session id stmt (session.loop (rowAnswer count) leave false) := by
  obtain ⟨after, moved, forgotten, log, next⟩ := owns.nextRow count
  rw [if_neg none] at next
  have ended : session.loop (rowAnswer count) leave false = (after, .ok []) := by
    cases leave with
    | zero =>
        rw [Session.loop, moved]
        simp only [none, decide_false, Bool.not_false]
    | succ leave =>
        rw [Session.loop, moved]
        simp only [none, decide_false, Bool.not_false]
  have zero : min (count stmt.bindings - stmt.position.yielded) (leave + 1) = 0 := by omega
  rw [ended]
  refine ⟨?_, ⟨_, log, stepped_calls id stmt⟩, forgotten, ?_⟩
  · rw [zero]
    rfl
  · rw [leftAt, if_pos (by omega)]
    exact next

theorem Owns.loop (owns : session.Owns id stmt) (count : List Value → Nat) (leave : Nat) :
    Looped count leave session id stmt (session.loop (rowAnswer count) leave false) := by
  induction leave generalizing session stmt with
  | zero =>
      by_cases more : stmt.position.yielded < count stmt.bindings
      · obtain ⟨after, moved, forgotten, log, next⟩ := owns.nextRow count
        rw [if_pos more] at next
        rw [Session.loop, moved]
        simp only [more, decide_true, Bool.not_true, next.currentRow, Stmt.currentRow]
        have one : min (count stmt.bindings - stmt.position.yielded) (0 + 1) = 1 := by omega
        refine ⟨?_, ⟨_, log, stepped_calls id stmt⟩, forgotten, ?_⟩
        · rw [one]
          rfl
        · rw [leftAt, if_neg (by omega)]
          exact next
      · exact owns.loop_end count 0 more
  | succ leave ih =>
      by_cases more : stmt.position.yielded < count stmt.bindings
      · obtain ⟨after, moved, forgotten, log, next⟩ := owns.nextRow count
        rw [if_pos more] at next
        have later := ih next
        obtain ⟨fresh, laterLog, calls⟩ := later.log
        have rows := later.rows
        have owned := later.owns
        simp only [Position.yielded_row] at rows owned
        rw [Session.loop, moved]
        simp only [more, decide_true, Bool.not_true, next.currentRow, Stmt.currentRow]
        refine ⟨?_, ⟨fresh ++ [.stepped id stmt.source stmt.call], ?_, ?_⟩,
          later.forgotten.trans forgotten, ?_⟩
        · have one : min (count stmt.bindings - stmt.position.yielded) (leave + 1 + 1) =
            min (count stmt.bindings - (stmt.position.yielded + 1)) (leave + 1) + 1 := by omega
          rw [rows, one, rowsFrom_succ]
          rfl
        · rw [laterLog, log, List.append_assoc]
          rfl
        · intro call member
          rw [List.filterMap_append] at member
          rcases List.mem_append.mp member with new | old
          · exact calls call new
          · exact stepped_calls id stmt call old
        · rw [leftAt_succ _ _ _ more] at owned
          exact owned
      · exact owns.loop_end count (leave + 1) more

/-! ## One enumeration -/

theorem Owns.enumerate_binds {n : Nat} (owns : session.Owns id stmt)
    (sized : stmt.parameters.length = n) (bindings : stmt.bindings.length = n)
    (unused : session.command.lastArgIdx = 0) (count : List Value → Nat)
    (enumeration : Enumeration n) (able : enumeration.args = [] ∨ stmt.position = .ready)
    (fits : Fits session.sqlite.lengthLimit enumeration.args) :
    ∃ (bound : Session) (fresh : List Event),
      session.enumerate count enumeration =
        bound.loop (rowAnswer count) enumeration.leave false ∧
      bound.Owns id { stmt with bindings := enumeration.args } ∧
      bound.command.lastArgIdx = n ∧
      bound.sqlite.log = fresh ++ session.sqlite.log ∧ fresh.filterMap Event.stepCall = [] := by
  have all : overwrite 0 enumeration.args stmt.bindings = enumeration.args :=
    overwrite_all _ _ (enumeration.full.trans bindings.symm)
  have full := enumeration.full
  unfold enumerate
  rcases able with none | ready
  · rw [none] at all full ⊢
    have unbound : stmt.bindings = [] := all
    have passed : session.each [] = (session, .ok ()) := by
      simp [each, percentAll, owns.accessCheck, Except.map]
    rw [passed, ← unbound]
    exact ⟨session, [], rfl, owns, unused.trans full, rfl, rfl⟩
  · have binds := percentAll_bound enumeration.args session id stmt owns ready
      (by rw [unused, sized, full]; omega)
    obtain ⟨fresh, log, _, unstepped⟩ := binds.log
    obtain ⟨passed, moved⟩ := binds.fits fits
    have position := percentAll_ok_lastArgIdx enumeration.args session passed
    rw [unused, all] at moved
    rw [unused, full, Nat.zero_add] at position
    cases result : percentAll (enumeration.args.map .positional) session with
    | mk bound outcome =>
        rw [result] at log passed moved position
        cases outcome with
        | error thrown => cases passed
        | ok _ =>
            have passed : session.each enumeration.args = (bound, .ok ()) := by
              simp [each, result, moved.accessCheck, Except.map]
            rw [passed]
            exact ⟨bound, fresh, rfl, moved, position, log, unstepped⟩

theorem rowsFrom_eq_iff (bindings : List Value) (skipped rows leave : Nat)
    (bounded : skipped ≤ rows) :
    rowsFrom bindings skipped (min (rows - skipped) (leave + 1)) =
      rowsFrom bindings 0 (min rows (leave + 1)) ↔ skipped = 0 := by
  constructor
  · intro same
    by_cases none : skipped = 0
    · exact none
    · obtain ⟨later, seen⟩ : ∃ later, min rows (leave + 1) = later + 1 :=
        ⟨min rows (leave + 1) - 1, by omega⟩
      rw [seen, rowsFrom_succ] at same
      cases left : min (rows - skipped) (leave + 1) with
      | zero =>
          rw [left] at same
          cases same
      | succ others =>
          rw [left, rowsFrom_succ] at same
          have heads := (List.cons.inj same).1
          have numbers := congrArg Row.number heads
          dsimp only at numbers
          omega
  · rintro rfl
    rw [Nat.sub_zero]

theorem Owns.enumerated_iff {n : Nat} (owns : session.Owns id stmt)
    (sized : stmt.parameters.length = n) (bindings : stmt.bindings.length = n)
    (unused : session.command.lastArgIdx = 0) (count : List Value → Nat)
    (enumeration : Enumeration n) (able : enumeration.args = [] ∨ stmt.position = .ready)
    (fits : Fits session.sqlite.lengthLimit enumeration.args)
    (bounded : stmt.position.yielded ≤ count enumeration.args) :
    (session.Enumerated count enumeration ↔ stmt.position.yielded = 0) ∧
      (session.enumerate count enumeration).1.command.lastArgIdx = n ∧
      (session.enumerate count enumeration).1.Owns id
        { stmt with
          bindings := enumeration.args
          position := leftAt (count enumeration.args) stmt.position.yielded
            enumeration.leave } := by
  obtain ⟨bound, early, same, moved, position, earlyLog, unstepped⟩ :=
    owns.enumerate_binds sized bindings unused count enumeration able fits
  have looped := moved.loop count enumeration.leave
  rw [← same] at looped
  have rows := looped.rows
  dsimp only at rows
  refine ⟨?_, looped.forgotten.trans position, looped.owns⟩
  rw [← rowsFrom_eq_iff enumeration.args stmt.position.yielded (count enumeration.args)
    enumeration.leave bounded, ← Except.ok.injEq (ε := Exception), ← rows]
  refine and_iff_left_of_imp fun _ => ?_
  obtain ⟨fresh, log, calls⟩ := looped.log
  refine ⟨fresh ++ early, ?_, fun call member => ?_⟩
  · rw [log, earlyLog, List.append_assoc]
  · rw [List.filterMap_append, unstepped, List.append_nil] at member
    exact calls call member

theorem Owns.able_of_enumerated {n : Nat} (owns : session.Owns id stmt)
    (prepared : session.Prepared n) (count : List Value → Nat) (enumeration : Enumeration n)
    (enumerated : session.Enumerated count enumeration) :
    (enumeration.args = [] ∨ stmt.position = .ready) ∧
      Fits session.sqlite.lengthLimit enumeration.args := by
  have returned := enumerated.1
  have passed : (percentAll (enumeration.args.map .positional) session).2 = .ok () := by
    unfold enumerate each at returned
    cases result : percentAll (enumeration.args.map .positional) session with
    | mk bound outcome =>
        rw [result] at returned
        cases outcome with
        | error thrown => cases returned
        | ok _ => rfl
  exact ⟨owns.percentAll_ok _ passed, percentAll_ok_fits _ session n prepared passed⟩

end Owns

/-! ## Sequences of enumerations -/

theorem eachEnumerated_unbound (count : List Value → Nat) (enumerations : List (Enumeration 0))
    (session : Session) (waiting : session.Waiting 0 (·.yielded = 0)) :
    EachEnumerated count enumerations session ↔
      ∀ enumeration ∈ enumerations.dropLast, count [] ≤ enumeration.leave := by
  induction enumerations generalizing session with
  | nil => simp [EachEnumerated]
  | cons enumeration rest ih =>
      obtain ⟨unused, id, stmt, owns, sized, bindings, start⟩ := waiting
      have none : enumeration.args = [] := List.length_eq_zero_iff.mp enumeration.full
      obtain ⟨enumerated, position, next⟩ := owns.enumerated_iff sized bindings unused count
        enumeration (Or.inl none) (by rw [none]; intro value member; cases member)
        (by rw [start]; exact Nat.zero_le _)
      rw [EachEnumerated, enumerated]
      rw [none, start] at next
      cases rest with
      | nil => simp [EachEnumerated, start]
      | cons second others =>
          rw [List.dropLast_cons_cons, List.forall_mem_cons]
          by_cases consumed : count [] ≤ enumeration.leave
          · have place : leftAt (count []) 0 enumeration.leave = .halted := if_pos consumed
            rw [place] at next
            rw [ih _ ⟨position, id, _, next, sized, rfl, rfl⟩]
            simp [start, consumed]
          · have place : leftAt (count []) 0 enumeration.leave = .row (enumeration.leave + 1) := by
              rw [leftAt, Nat.sub_zero, if_neg consumed, Nat.zero_add]
            rw [place] at next
            have unarmed : second.args = [] := List.length_eq_zero_iff.mp second.full
            have again := (next.enumerated_iff sized rfl position count second (Or.inl unarmed)
              (by rw [unarmed]; intro value member; cases member)
              (by rw [unarmed]; simp only [Position.yielded_row]; omega)).1
            constructor
            · rintro ⟨_, secondEnumerated, _⟩
              have nothing := again.mp secondEnumerated
              cases nothing
            · intro all
              exact absurd all.1 consumed

theorem eachEnumerated_bound (n : Nat) (session : Session)
    (fresh : session.Waiting (n + 1) (· = .ready)) (count : List Value → Nat)
    (enumerations : List (Enumeration (n + 1))) :
    EachEnumerated count enumerations session ↔
      (∀ enumeration ∈ enumerations, Fits session.sqlite.lengthLimit enumeration.args) ∧
        enumerations.length ≤ 1 := by
  obtain ⟨unused, id, stmt, owns, sized, bindings, ready⟩ := id fresh
  have start : stmt.position.yielded = 0 := by rw [ready]; rfl
  cases enumerations with
  | nil => simp [EachEnumerated]
  | cons first rest =>
      have alone := owns.enumerated_iff sized bindings unused count first (Or.inr ready)
      rw [EachEnumerated, List.forall_mem_cons]
      constructor
      · rintro ⟨enumerated, later⟩
        have fits := (owns.able_of_enumerated ⟨id, stmt, owns, sized, bindings⟩ count first
          enumerated).2
        obtain ⟨_, _, next⟩ := alone fits (by rw [start]; exact Nat.zero_le _)
        cases rest with
        | nil => exact ⟨⟨fits, nofun⟩, Nat.le_refl 1⟩
        | cons second others =>
            have stuck := (next.able_of_enumerated ⟨id, _, next, sized, first.full⟩ count
              second later.1).1
            rcases stuck with none | again
            · have sizedArgs := second.full
              rw [none] at sizedArgs
              cases sizedArgs
            · rw [leftAt] at again
              split at again <;> cases again
      · rintro ⟨⟨fits, _⟩, single⟩
        have last : rest = [] :=
          List.length_eq_zero_iff.mp (Nat.le_zero.mp (Nat.le_of_succ_le_succ single))
        subst last
        exact ⟨(alone fits (by rw [start]; exact Nat.zero_le _)).1.mpr start, trivial⟩

/-- Every enumeration of a fresh query sees the rows under its own arguments from the
first one on exactly when all values are within the length limit, there is only one
enumeration unless the query has no parameters, and all but the last are consumed to the
end. -/
theorem enumerations_repeat_iff (n : Nat) (session : Session)
    (fresh : session.Waiting n (· = .ready)) (count : List Value → Nat)
    (enumerations : List (Enumeration n)) :
    EachEnumerated count enumerations session ↔
      (∀ enumeration ∈ enumerations, Fits session.sqlite.lengthLimit enumeration.args) ∧
      (n = 0 ∨ enumerations.length ≤ 1) ∧
      ∀ enumeration ∈ enumerations.dropLast, count enumeration.args ≤ enumeration.leave := by
  cases n with
  | zero =>
      obtain ⟨unused, id, stmt, owns, sized, bindings, ready⟩ := fresh
      have none : ∀ enumeration : Enumeration 0, enumeration.args = [] :=
        fun enumeration => List.length_eq_zero_iff.mp enumeration.full
      have short : ∀ enumeration ∈ enumerations,
          Fits session.sqlite.lengthLimit enumeration.args := by
        intro enumeration _ value member
        rw [none enumeration] at member
        cases member
      rw [eachEnumerated_unbound count enumerations session
        ⟨unused, id, stmt, owns, sized, bindings, by rw [ready]; rfl⟩]
      simp only [none, true_or, true_and]
      exact ⟨fun all => ⟨by simpa [none] using short, all⟩, fun whole => whole.2⟩
  | succ n =>
      rw [eachEnumerated_bound n session fresh count enumerations]
      apply and_congr_right
      intro _
      constructor
      · intro single
        refine ⟨Or.inr single, ?_⟩
        have none : enumerations.dropLast = [] :=
          List.length_eq_zero_iff.mp (by rw [List.length_dropLast]; omega)
        intro enumeration member
        rw [none] at member
        cases member
      · rintro ⟨single, _⟩
        exact single.resolve_left (Nat.succ_ne_zero n)

def selection : Session :=
  ⟨some 0, ⟨[⟨0, ascii "SELECT body FROM notes WHERE tag = ?", [none], [.null], .ready,
    false⟩], 1000, []⟩, ⟨ascii "SELECT body FROM notes WHERE tag = ?", some 0, 0⟩⟩

theorem selection_fresh : selection.Waiting 1 (· = .ready) :=
  ⟨rfl, 0, _, ⟨rfl, rfl, rfl⟩, rfl, rfl, rfl⟩

def tagged (tag : String) : Enumeration 1 := ⟨[.text (ascii tag)], rfl, 2⟩

theorem enumerations_repeat_single :
    EachEnumerated (fun _ => 2) [tagged "docs"] selection :=
  (enumerations_repeat_iff 1 selection selection_fresh (fun _ => 2) [tagged "docs"]).mpr
    ⟨by decide, by decide, by decide⟩

theorem second_tag_not_bound :
    ¬EachEnumerated (fun _ => 2) [tagged "docs", tagged "code"] selection := by
  rintro ⟨_, ⟨returned, _⟩, _⟩
  cases returned

end Session
end VSQLite
