import VSQLite.Cursor.Model
import VSQLite.Cursor.Reset

/-!
# The count of changed rows

SQLite counts the rows that the last data-modifying statement to complete on the connection
has changed.  A result copies the count when it is made and gives the copy out ever after:
`emit_result` has stepped the statement by then, `get_result` has not.
-/

set_option autoImplicit false

namespace VSQLite
open Lib

/-- A result as far as its `changes` go, with the counts of all data-modifying statements that
had completed on the connection when it was made, the last one first. -/
structure Captured where
  creation : Creation
  changes : Nat
  earlier : List Nat
deriving DecidableEq, Repr

/-- Cursors, and the rows changed by each data-modifying statement that has completed, the
last one first. -/
structure Counting where
  cursors : Cursors
  completed : List Nat
  captured : List Captured

/-- An action, and how many rows the execution that a step ends has changed, if the statement
is a data-modifying one. -/
structure CountedAction where
  action : CursorAction
  affects : StepCall → Option Nat

def CursorAction.answer : CursorAction → StepCall → ResultCode
  | .connection (.use _ _ answer) => answer
  | .emitResult _ _ answer => answer
  | .nextRow _ answer => answer
  | .begin _ answer _ => answer
  | .increment _ answer => answer
  | _ => fun _ => .misuse

/-- The result whose `next_row` the action runs. -/
def CursorAction.advances (cursors : Cursors) : CursorAction → Option Nat
  | .nextRow object _ => (cursors.resultAt object).map Prod.fst
  | .begin object _ _ =>
      match cursors.objects[object]? with
      | some (.range (some id) false _) => some id
      | _ => none
  | .increment object _ =>
      match cursors.objects[object]? with
      | some (.iterator (some id) _ _ _) => some id
      | _ => none
  | _ => none

def CursorAction.creation : CursorAction → Creation
  | .emitResult _ _ _ => .emitResult
  | _ => .getResult

namespace Counting

def opened (db : DbHandle) (lengthLimit : Nat) (config : StatementCacheConfig) : Counting :=
  ⟨.opened db lengthLimit config, [], []⟩

def sqlite3Changes (completed : List Nat) : Nat := completed.headD 0

def fresh (before after : Cursors) : List Event :=
  after.con.sqlite.log.take (after.con.sqlite.log.length - before.con.sqlite.log.length)

/-- The counts of the data-modifying statements that the action completes. -/
def completions (before after : Cursors) (act : CountedAction) : List Nat :=
  (((fresh before after).filterMap Event.stepCall).filter fun call =>
    act.action.answer call = .done).filterMap act.affects

def step (state : Counting) (act : CountedAction) : Option Counting :=
  (state.cursors.step act.action).map fun cursors =>
    let completed := completions state.cursors cursors act ++ state.completed
    { cursors := cursors
      completed := completed
      captured :=
        if state.cursors.results.length < cursors.results.length then
          state.captured ++ [⟨act.action.creation, sqlite3Changes completed, completed⟩]
        else state.captured }

def getChanges (rid : Nat) (state : Counting) : Option Nat :=
  (state.captured[rid]?).map Captured.changes

/-- The action runs `next_row` of a result of `get_result`, and completes its data-modifying
statement, which has changed so many rows. -/
structure Completes (state : Counting) (act : CountedAction) (next : Counting) (rid rows : Nat)
    (captured : Captured) : Prop where
  advances : act.action.advances state.cursors = some rid
  held : state.captured[rid]? = some captured
  creation : captured.creation = .getResult
  completes : (completions state.cursors next.cursors act).head? = some rows

/-- Once `next_row` has completed the statement of a result, that is the count it gives. -/
def CountsOwn (state : Counting) (act : CountedAction) : Prop :=
  ∀ next rid rows captured, state.step act = some next →
    Completes state act next rid rows captured → next.getChanges rid = some rows

/-- The last data-modifying statement that had completed when the result was made has changed
as many rows. -/
def SameAsEarlier (state : Counting) (act : CountedAction) : Prop :=
  ∀ next rid rows captured, state.step act = some next →
    Completes state act next rid rows captured → sqlite3Changes captured.earlier = rows

/-! ## Runs -/

/-- Every result has copied the count there was. -/
def Copies (state : Counting) : Prop :=
  ∀ captured ∈ state.captured, captured.changes = sqlite3Changes captured.earlier

theorem step_copies (state : Counting) (act : CountedAction) (next : Counting)
    (copies : state.Copies) (enabled : state.step act = some next) : next.Copies := by
  obtain ⟨cursors, -, rfl⟩ := Option.map_eq_some_iff.mp enabled
  intro captured member
  dsimp only at member
  split at member
  · rcases List.mem_append.mp member with old | new
    · exact copies captured old
    · rw [List.mem_singleton.mp new]
  · exact copies captured member

theorem step_captured (state : Counting) (act : CountedAction) (next : Counting) (rid : Nat)
    (captured : Captured) (found : state.captured[rid]? = some captured)
    (enabled : state.step act = some next) : next.captured[rid]? = some captured := by
  obtain ⟨cursors, -, rfl⟩ := Option.map_eq_some_iff.mp enabled
  have inside := (List.getElem?_eq_some_iff.mp found).1
  dsimp only
  split
  · exact (List.getElem?_append_left inside).trans found
  · exact found

theorem countsOwn_iff (state : Counting) (act : CountedAction) (copies : state.Copies) :
    CountsOwn state act ↔ SameAsEarlier state act := by
  unfold CountsOwn SameAsEarlier
  apply forall_congr'
  intro next
  apply forall_congr'
  intro rid
  apply forall_congr'
  intro rows
  apply forall_congr'
  intro captured
  apply imp_congr_right
  intro enabled
  apply imp_congr_right
  intro completes
  have kept := step_captured state act next rid captured completes.held enabled
  rw [getChanges, kept, Option.map_some, Option.some.injEq,
    copies captured (List.mem_of_getElem? completes.held)]

/-- In a run from a new connection every result of `get_result` gives the count of its own
statement, whenever `next_row` has completed it, exactly when every such statement changes as
many rows as the last one that had completed before the result was made. -/
theorem get_changes_counts_own_iff (db : DbHandle) (lengthLimit : Nat)
    (config : StatementCacheConfig) (acts : List CountedAction) :
    EveryStep step CountsOwn acts (opened db lengthLimit config) ↔
      EveryStep step SameAsEarlier acts (opened db lengthLimit config) :=
  everyStep_congr step Copies CountsOwn SameAsEarlier
    (fun state act next copies _ => step_copies state act next copies)
    (fun state act _ copies _ => countsOwn_iff state act copies) acts _
    (fun _ member => absurd member List.not_mem_nil)

def update : Text := ascii "UPDATE notes SET body = upper(body)"

def updateTwo : List CountedAction :=
  [⟨.connection (.construct update), fun _ => none⟩,
    ⟨.connection (.acquire 0), fun _ => none⟩,
    ⟨.connection (.prepare 0 (.statement [])), fun _ => none⟩,
    ⟨.getResult 0 0, fun _ => none⟩,
    ⟨.nextRow 0 fun _ => .done, fun _ => some 2⟩]

/-- The statement changes two rows, and its result says it has changed none. -/
theorem get_changes_before_own :
    ¬EveryStep step CountsOwn updateTwo (opened 0 1000 ⟨0, false⟩) := by
  intro every
  obtain ⟨-, every⟩ := every _ rfl
  obtain ⟨-, every⟩ := every _ rfl
  obtain ⟨-, every⟩ := every _ rfl
  obtain ⟨-, every⟩ := every _ rfl
  obtain ⟨counts, -⟩ := every _ rfl
  have two := counts _ 0 2 _ rfl ⟨rfl, rfl, rfl, rfl⟩
  cases two

end Counting
end VSQLite
