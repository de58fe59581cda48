import VSQLite.Command.Enumeration

/-!
# Resetting a result

A result remembers that its statement has no further row, and `reset` forgets it.  The
statement itself is not reset, so that the next row is the one after the row it stands on.
-/

set_option autoImplicit false

namespace VSQLite

structure OpenResult where
  ended : Bool
  session : Session

/-- What a call of `next_row` delivers: a row, which its getters then read, or none. -/
abbrev Delivery := Except Exception (Option Row)

inductive ResultCall where
  | nextRow
  | reset
deriving DecidableEq, Repr

/-- How a program comes by a result. -/
inductive Creation where
  | emitResult
  | getResult
deriving DecidableEq, Repr

def Creation.result (answer : StepCall → ResultCode) (session : Session) :
    Creation → Except Exception OpenResult
  | .emitResult =>
      match session.step answer with
      | (_, .error thrown) => .error thrown
      | (stepped, .ok row) => stepped.accessCheck.map fun _ => ⟨!row, stepped⟩
  | .getResult => session.accessCheck.map fun _ => ⟨false, session⟩

namespace OpenResult

def nextRow (answer : StepCall → ResultCode) (reading : OpenResult) : OpenResult × Delivery :=
  match reading.session.nextRow answer reading.ended with
  | (after, .error thrown) => (⟨reading.ended, after⟩, .error thrown)
  | (after, .ok (found, ended)) =>
      (⟨ended, after⟩, .ok (if found then after.currentRow else none))

def reset (reading : OpenResult) : OpenResult := { reading with ended := false }

/-- The deliveries of the calls of `next_row` among these. -/
def deliveries (answer : StepCall → ResultCode) : List ResultCall → OpenResult → List Delivery
  | [], _ => []
  | .nextRow :: rest, reading =>
      (reading.nextRow answer).2 :: deliveries answer rest (reading.nextRow answer).1
  | .reset :: rest, reading => deliveries answer rest reading.reset

def after (answer : StepCall → ResultCode) : List ResultCall → OpenResult → OpenResult
  | [], reading => reading
  | .nextRow :: rest, reading => after answer rest (reading.nextRow answer).1
  | .reset :: rest, reading => after answer rest reading.reset

/-- `P` holds at every `reset` of the result as it is then and the calls to come. -/
def AtResets (answer : StepCall → ResultCode) (P : OpenResult → List ResultCall → Prop) :
    List ResultCall → OpenResult → Prop
  | [], _ => True
  | .nextRow :: rest, reading => AtResets answer P rest (reading.nextRow answer).1
  | .reset :: rest, reading => P reading rest ∧ AtResets answer P rest reading.reset

/-- What the calls deliver of so many rows when this many of them have been seen since the
last reset. -/
def due (bindings : List Value) (rows : Nat) : List ResultCall → Nat → List Delivery
  | [], _ => []
  | .nextRow :: rest, seen =>
      if seen < rows then .ok (some ⟨bindings, seen + 1⟩) :: due bindings rows rest (seen + 1)
      else .ok none :: due bindings rows rest seen
  | .reset :: rest, _ => due bindings rows rest 0

/-- The calls after a reset deliver the rows from the first one on, and the bindings stay. -/
def Restarts (count : List Value → Nat) (bindings : List Value) (reading : OpenResult)
    (rest : List ResultCall) : Prop :=
  deliveries (rowAnswer count) rest reading.reset = due bindings (count bindings) rest 0 ∧
    (after (rowAnswer count) rest reading.reset).session.own.map Stmt.bindings = some bindings

/-- The statement stands on no row, or none is asked for any more. -/
def MayReset (reading : OpenResult) (rest : List ResultCall) : Prop :=
  .nextRow ∈ rest → reading.session.currentRow = none

/-! ## What a call does -/

/-- A result of a statement that has yielded at most its rows. -/
structure Reads (rows : Nat) (reading : OpenResult) (id : StmtId) (stmt : Stmt) : Prop where
  owns : reading.session.Owns id stmt
  bounded : stmt.position.yielded ≤ rows
  placed : stmt.position ≠ .row 0
  ended : reading.ended = true → stmt.position.yielded = 0

section Reads
variable {count : List Value → Nat} {reading : OpenResult} {id : StmtId} {stmt : Stmt}

theorem Reads.reset {rows : Nat} (reads : Reads rows reading id stmt) :
    Reads rows reading.reset id stmt :=
  ⟨reads.owns, reads.bounded, reads.placed, fun ended => by cases ended⟩

theorem Reads.nextRow_ended {rows : Nat} (reads : Reads rows reading id stmt)
    (ended : reading.ended = true) (answer : StepCall → ResultCode) :
    (reading.nextRow answer).2 = .ok none ∧
      Reads rows (reading.nextRow answer).1 id stmt ∧
      (reading.nextRow answer).1.ended = true := by
  have same : reading.nextRow answer = (⟨true, reading.session⟩, .ok none) := by
    unfold OpenResult.nextRow Session.nextRow
    rw [ended, if_pos rfl]
    rfl
  rw [same]
  exact ⟨rfl, ⟨reads.owns, reads.bounded, reads.placed, fun _ => reads.ended ended⟩, rfl⟩

theorem Reads.nextRow_more (reads : Reads (count stmt.bindings) reading id stmt)
    (running : reading.ended = false) (more : stmt.position.yielded < count stmt.bindings) :
    (reading.nextRow (rowAnswer count)).2 =
        .ok (some ⟨stmt.bindings, stmt.position.yielded + 1⟩) ∧
      (reading.nextRow (rowAnswer count)).1.ended = false ∧
      Reads (count stmt.bindings) (reading.nextRow (rowAnswer count)).1 id
        { stmt with position := .row (stmt.position.yielded + 1) } := by
  obtain ⟨after, moved, -, -, next⟩ := reads.owns.nextRow count
  rw [if_pos more] at next
  have same : reading.nextRow (rowAnswer count) =
      (⟨false, after⟩, .ok (some ⟨stmt.bindings, stmt.position.yielded + 1⟩)) := by
    unfold OpenResult.nextRow
    rw [running, moved]
    simp [more, next.currentRow, Stmt.currentRow]
  rw [same]
  exact ⟨rfl, rfl, next, more, by simp, fun ended => by cases ended⟩

theorem Reads.nextRow_done (reads : Reads (count stmt.bindings) reading id stmt)
    (running : reading.ended = false) (none : ¬stmt.position.yielded < count stmt.bindings) :
    (reading.nextRow (rowAnswer count)).2 = .ok .none ∧
      (reading.nextRow (rowAnswer count)).1.ended = true ∧
      Reads (count stmt.bindings) (reading.nextRow (rowAnswer count)).1 id
        { stmt with position := .halted } := by
  obtain ⟨after, moved, -, -, next⟩ := reads.owns.nextRow count
  rw [if_neg none] at next
  have same : reading.nextRow (rowAnswer count) = (⟨true, after⟩, .ok .none) := by
    unfold OpenResult.nextRow
    rw [running, moved]
    simp [none]
  rw [same]
  exact ⟨rfl, rfl, next, Nat.zero_le _, by simp, fun _ => rfl⟩

theorem Reads.currentRow_none_iff {rows : Nat} (reads : Reads rows reading id stmt) :
    reading.session.currentRow = none ↔ stmt.position.yielded = 0 := by
  have placed := reads.placed
  rw [reads.owns.currentRow, Stmt.currentRow]
  cases place : stmt.position with
  | ready => simp [Position.yielded]
  | halted => simp [Position.yielded]
  | row count =>
      rw [place] at placed
      simpa using placed

theorem Reads.nextRow (reads : Reads (count stmt.bindings) reading id stmt) :
    ∃ position, Reads (count stmt.bindings) (reading.nextRow (rowAnswer count)).1 id
      { stmt with position := position } := by
  cases ended : reading.ended with
  | true => exact ⟨_, (reads.nextRow_ended ended _).2.1⟩
  | false =>
      by_cases more : stmt.position.yielded < count stmt.bindings
      · exact ⟨_, (reads.nextRow_more ended more).2.2⟩
      · exact ⟨_, (reads.nextRow_done ended more).2.2⟩

theorem Reads.bindings_after (reads : Reads (count stmt.bindings) reading id stmt)
    (calls : List ResultCall) :
    (after (rowAnswer count) calls reading).session.own.map Stmt.bindings =
      some stmt.bindings := by
  induction calls generalizing reading stmt with
  | nil =>
      rw [OpenResult.after, Session.own, reads.owns.command, Option.bind_some, reads.owns.found]
      rfl
  | cons call rest ih =>
      cases call with
      | nextRow =>
          obtain ⟨position, next⟩ := reads.nextRow
          exact @ih _ { stmt with position := position } next
      | reset => exact ih reads.reset

/-- The result goes on with the row that is due. -/
structure Aligned (count : List Value → Nat) (bindings : List Value) (seen : Nat)
    (reading : OpenResult) : Prop where
  reads : ∃ id stmt, Reads (count bindings) reading id stmt ∧ stmt.bindings = bindings ∧
    (reading.ended = false → stmt.position.yielded = seen)
  finished : reading.ended = true → seen = count bindings
  within : seen ≤ count bindings

theorem Aligned.nextRow {bindings : List Value} {seen : Nat}
    (aligned : Aligned count bindings seen reading) :
    if seen < count bindings then
      (reading.nextRow (rowAnswer count)).2 = .ok (some ⟨bindings, seen + 1⟩) ∧
        Aligned count bindings (seen + 1) (reading.nextRow (rowAnswer count)).1
    else
      (reading.nextRow (rowAnswer count)).2 = .ok none ∧
        Aligned count bindings seen (reading.nextRow (rowAnswer count)).1 := by
  obtain ⟨id, stmt, reads, rfl, place⟩ := aligned.reads
  cases ended : reading.ended with
  | true =>
      have finished := aligned.finished ended
      obtain ⟨nothing, after, still⟩ := reads.nextRow_ended ended (rowAnswer count)
      rw [if_neg (by omega)]
      refine ⟨nothing, ⟨id, stmt, after, rfl, fun running => ?_⟩, fun _ => finished,
        aligned.within⟩
      rw [still] at running
      cases running
  | false =>
      have here := place ended
      by_cases more : seen < count stmt.bindings
      · obtain ⟨row, running, after⟩ := reads.nextRow_more ended (by omega)
        rw [here] at row after
        rw [if_pos more]
        refine ⟨row, ⟨id, _, after, rfl, fun _ => rfl⟩, fun finished => ?_, more⟩
        rw [running] at finished
        cases finished
      · obtain ⟨nothing, finished, after⟩ := reads.nextRow_done ended (by omega)
        rw [if_neg more]
        refine ⟨nothing, ⟨id, _, after, rfl, fun running => ?_⟩, fun _ => ?_, aligned.within⟩
        · rw [finished] at running
          cases running
        · exact Nat.le_antisymm aligned.within (Nat.le_of_not_lt more)

theorem Reads.aligned_reset (reads : Reads (count stmt.bindings) reading id stmt)
    (unplaced : reading.session.currentRow = none) :
    Aligned count stmt.bindings 0 reading.reset :=
  ⟨⟨id, stmt, reads.reset, rfl, fun _ => reads.currentRow_none_iff.mp unplaced⟩,
    fun ended => (by cases ended), Nat.zero_le _⟩

theorem deliveries_resets (answer : StepCall → ResultCode) (calls : List ResultCall)
    (reading : OpenResult) (resets : .nextRow ∉ calls) : deliveries answer calls reading = [] := by
  induction calls generalizing reading with
  | nil => rfl
  | cons call rest ih =>
      cases call with
      | nextRow => exact absurd List.mem_cons_self resets
      | reset => exact ih _ fun later => resets (List.mem_cons_of_mem _ later)

theorem due_resets (bindings : List Value) (rows seen : Nat) (calls : List ResultCall)
    (resets : .nextRow ∉ calls) : due bindings rows calls seen = [] := by
  induction calls generalizing seen with
  | nil => rfl
  | cons call rest ih =>
      cases call with
      | nextRow => exact absurd List.mem_cons_self resets
      | reset => exact ih _ fun later => resets (List.mem_cons_of_mem _ later)

theorem Aligned.deliveries {bindings : List Value} {seen : Nat} (calls : List ResultCall)
    (aligned : Aligned count bindings seen reading)
    (allowed : AtResets (rowAnswer count) MayReset calls reading) :
    deliveries (rowAnswer count) calls reading = due bindings (count bindings) calls seen := by
  induction calls generalizing reading seen with
  | nil => rfl
  | cons call rest ih =>
      cases call with
      | nextRow =>
          have moved := aligned.nextRow
          simp only [OpenResult.deliveries, due]
          split at moved
          · rename_i more
            rw [if_pos more, moved.1, ih moved.2 allowed]
          · rename_i none
            rw [if_neg none, moved.1, ih moved.2 allowed]
      | reset =>
          simp only [OpenResult.deliveries, due]
          by_cases later : .nextRow ∈ rest
          · obtain ⟨id, stmt, reads, rfl, -⟩ := aligned.reads
            exact ih (reads.aligned_reset (allowed.1 later)) allowed.2
          · rw [deliveries_resets _ _ _ later, due_resets _ _ _ _ later]

/-- A row that is asked for after a reset on a row is the one after that. -/
theorem Reads.deliveries_placed (reads : Reads (count stmt.bindings) reading id stmt)
    (running : reading.ended = false) (placed : 0 < stmt.position.yielded)
    (calls : List ResultCall) (asked : .nextRow ∈ calls) :
    deliveries (rowAnswer count) calls reading ≠
      due stmt.bindings (count stmt.bindings) calls 0 := by
  induction calls generalizing reading with
  | nil => cases asked
  | cons call rest ih =>
      cases call with
      | nextRow =>
          have some_row := Nat.lt_of_lt_of_le placed reads.bounded
          simp only [OpenResult.deliveries, due]
          rw [if_pos some_row]
          intro same
          have delivered := (List.cons.inj same).1
          by_cases more : stmt.position.yielded < count stmt.bindings
          · rw [(reads.nextRow_more running more).1] at delivered
            simp only [Except.ok.injEq, Option.some.injEq, Row.mk.injEq] at delivered
            omega
          · rw [(reads.nextRow_done running more).1] at delivered
            cases delivered
      | reset =>
          exact ih reads.reset rfl ((List.mem_cons.mp asked).resolve_left (by decide))

/-! ## Whole runs -/

theorem Reads.restarts_iff (reads : Reads (count stmt.bindings) reading id stmt)
    (calls : List ResultCall) :
    AtResets (rowAnswer count) (Restarts count stmt.bindings) calls reading ↔
      AtResets (rowAnswer count) MayReset calls reading := by
  induction calls generalizing reading stmt with
  | nil => exact Iff.rfl
  | cons call rest ih =>
      cases call with
      | nextRow =>
          obtain ⟨position, next⟩ := reads.nextRow
          exact @ih _ { stmt with position := position } next
      | reset =>
          have later := ih reads.reset
          constructor
          · rintro ⟨restarts, rest_restarts⟩
            refine ⟨fun asked => ?_, later.mp rest_restarts⟩
            rw [reads.currentRow_none_iff]
            by_contra placed
            exact reads.reset.deliveries_placed rfl (Nat.pos_of_ne_zero placed) rest asked
              restarts.1
          · rintro ⟨may, rest_may⟩
            refine ⟨⟨?_, reads.reset.bindings_after rest⟩, later.mpr rest_may⟩
            by_cases asked : .nextRow ∈ rest
            · exact (reads.aligned_reset (may asked)).deliveries rest rest_may
            · exact (deliveries_resets _ _ _ asked).trans (due_resets _ _ _ _ asked).symm

end Reads
end OpenResult

namespace Session

def stepped (answer : StepCall → ResultCode) : Nat → Session → Session
  | 0, session => session
  | calls + 1, session => stepped answer calls (session.step answer).1

section Owns
variable {session : Session} {id : StmtId} {stmt : Stmt} {count : List Value → Nat}

theorem Owns.reads_getResult (owns : session.Owns id stmt)
    (bounded : stmt.position.yielded ≤ count stmt.bindings) (placed : stmt.position ≠ .row 0) :
    ∃ start, Creation.result (rowAnswer count) session .getResult = .ok start ∧
      OpenResult.Reads (count stmt.bindings) start id stmt :=
  ⟨⟨false, session⟩, by simp [Creation.result, owns.accessCheck, Except.map],
    owns, bounded, placed, fun ended => by cases ended⟩

theorem Owns.reads_emitResult (owns : session.Owns id stmt) :
    ∃ start position, Creation.result (rowAnswer count) session .emitResult = .ok start ∧
      OpenResult.Reads (count stmt.bindings) start id { stmt with position := position } := by
  obtain ⟨stepped, outcome, -, next⟩ := owns.step count
  refine ⟨⟨!decide (stmt.position.yielded < count stmt.bindings), stepped⟩, _, ?_, next,
    ?_, ?_, ?_⟩
  · simp [Creation.result, outcome, next.accessCheck, Except.map]
  · dsimp only
    split
    · assumption
    · exact Nat.zero_le _
  · dsimp only
    split <;> simp
  · intro ended
    dsimp only
    rw [if_neg (by simpa using ended)]
    rfl

theorem Owns.reads_created (owns : session.Owns id stmt)
    (bounded : stmt.position.yielded ≤ count stmt.bindings) (placed : stmt.position ≠ .row 0)
    (prior : Nat) (creation : Creation) :
    ∃ start position,
      creation.result (rowAnswer count) (session.stepped (rowAnswer count) prior) = .ok start ∧
      OpenResult.Reads (count stmt.bindings) start id { stmt with position := position } := by
  induction prior generalizing session stmt with
  | zero =>
      cases creation with
      | getResult =>
          obtain ⟨start, made, reads⟩ := owns.reads_getResult bounded placed
          exact ⟨start, stmt.position, made, reads⟩
      | emitResult => exact owns.reads_emitResult
  | succ prior ih =>
      obtain ⟨stepped, outcome, -, next⟩ := owns.step count
      rw [Session.stepped, outcome]
      apply @ih _ { stmt with position := _ } next
      · dsimp only
        split
        · assumption
        · exact Nat.zero_le _
      · dsimp only
        split <;> simp

end Owns

/-- The calls after every reset of a result deliver the rows from the first one on exactly
when every reset that a `next_row` comes after is made while the statement stands on no row. -/
theorem reset_restarts_iff (session : Session) (id : StmtId) (stmt : Stmt)
    (owns : session.Owns id stmt) (fresh : stmt.position = .ready) (count : List Value → Nat)
    (prior : Nat) (creation : Creation) (calls : List ResultCall) :
    ∃ start,
      creation.result (rowAnswer count) (session.stepped (rowAnswer count) prior) = .ok start ∧
      (OpenResult.AtResets (rowAnswer count) (OpenResult.Restarts count stmt.bindings) calls start ↔
        OpenResult.AtResets (rowAnswer count) OpenResult.MayReset calls start) := by
  have start_bounded : stmt.position.yielded ≤ count stmt.bindings := by
    rw [fresh]
    exact Nat.zero_le _
  obtain ⟨start, position, made, reads⟩ :=
    owns.reads_created start_bounded (by rw [fresh]; simp) prior creation
  exact ⟨start, made, @OpenResult.Reads.restarts_iff count start id
    { stmt with position := position } reads calls⟩

/-- Two notes, and a reset at the end of them. -/
theorem reset_restarts_at_end :
    ∃ start, Creation.getResult.result (rowAnswer fun _ => 2) selection = .ok start ∧
      OpenResult.AtResets (rowAnswer fun _ => 2) (OpenResult.Restarts (fun _ => 2) [.null])
        [.nextRow, .nextRow, .nextRow, .reset, .nextRow] start := by
  obtain ⟨start, made, restarts⟩ := reset_restarts_iff selection 0 _ ⟨rfl, rfl, rfl⟩ rfl
    (fun _ => 2) 0 .getResult [.nextRow, .nextRow, .nextRow, .reset, .nextRow]
  cases made
  exact ⟨_, rfl, restarts.mpr ⟨fun _ => rfl, trivial⟩⟩

/-- After a reset on the first of two notes comes the second one. -/
theorem reset_on_row_goes_on :
    ∃ start, Creation.getResult.result (rowAnswer fun _ => 2) selection = .ok start ∧
      ¬OpenResult.AtResets (rowAnswer fun _ => 2) (OpenResult.Restarts (fun _ => 2) [.null])
        [.nextRow, .reset, .nextRow] start := by
  refine ⟨_, rfl, ?_⟩
  rintro ⟨⟨delivered, -⟩, -⟩
  have numbers : Except.ok (some (⟨[.null], 2⟩ : Row)) =
      (Except.ok (some ⟨[.null], 1⟩) : Delivery) := (List.cons.inj delivered).1
  cases numbers

end Session
end VSQLite
