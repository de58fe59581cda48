import VSQLite.Command.Enumeration
import VSQLite.Cursor.Lifetime

/-!
# Stepping through a result

What `next_row`, `begin()` and `++` do when the query of a result is there: the statement
is stepped once, unless the result has ended, and no object but the one at hand changes.
-/

set_option autoImplicit false

namespace VSQLite
open Lib

namespace Cursors

/-- The result is there, and its query is, with the statement the result copied. -/
structure Serves (rid : Nat) (result : Result) (stmt : Stmt) (cursors : Cursors) : Prop where
  live : ∃ command, cursors.query result.query = some command ∧
    (cursors.con.session command).Owns result.statement stmt
  held : cursors.results[rid]? = some result

section Serves
variable {rid : Nat} {result : Result} {stmt : Stmt} {cursors : Cursors}

theorem Serves.congr (serves : Serves rid result stmt cursors) {next : Cursors}
    (con : next.con = cursors.con) (results : next.results = cursors.results) :
    Serves rid result stmt next := by
  obtain ⟨command, live, owns⟩ := serves.live
  refine ⟨⟨command, ?_, con ▸ owns⟩, results ▸ serves.held⟩
  rw [query, con]
  exact live

theorem nextRow_ended (answer : StepCall → ResultCode) (ended : result.ended = true) :
    cursors.nextRow answer rid result = ⟨cursors, .returned (some false), []⟩ := by
  rw [Cursors.nextRow, if_pos ended]

theorem stepQuery_owns {index : Nat} {command : Command} {id : StmtId}
    (live : cursors.query index = some command)
    (owns : (cursors.con.session command).Owns id stmt) (count : List Value → Nat) :
    ∃ next : Cursors, cursors.stepQuery (rowAnswer count) index command =
        (next, .ok (decide (stmt.position.yielded < count stmt.bindings))) ∧
      next.results = cursors.results ∧ next.objects = cursors.objects ∧
      next.caches = cursors.caches ∧
      next.con.sqlite.log = .stepped id stmt.source stmt.call :: cursors.con.sqlite.log ∧
      ∃ own, next.query index = some own ∧
        (next.con.session own).Owns id
          { stmt with
            position := if stmt.position.yielded < count stmt.bindings
              then .row (stmt.position.yielded + 1) else .halted } := by
  obtain ⟨after, moved, log, next⟩ := owns.step count
  have same : (cursors.con.session command).step (rowAnswer count) =
      (after, .ok (decide (stmt.position.yielded < count stmt.bindings))) := moved
  have slot := (Connection.commandAt_eq_some _ _ _ _).mp live
  have bounded := (List.getElem?_eq_some_iff.mp slot).1
  refine ⟨{ cursors with
    con := { cursors.con with sqlite := after.sqlite }.setSlot index after.command .live },
    ?_, rfl, rfl, rfl, log, after.command, ?_, ?_⟩
  · simp only [stepQuery, Connection.use, CommandOp.run, same]
  · exact (Connection.commandAt_eq_some _ _ _ _).mpr (List.getElem?_set_self bounded)
  · exact ⟨owns.isOpen, next.command, next.found⟩

theorem Serves.nextRow (serves : Serves rid result stmt cursors) (running : result.ended = false)
    (count : List Value → Nat) :
    ∃ next touches, cursors.nextRow (rowAnswer count) rid result =
        ⟨next, .returned (some (decide (stmt.position.yielded < count stmt.bindings))), touches⟩ ∧
      next.objects = cursors.objects ∧ next.caches = cursors.caches ∧
      next.con.sqlite.log =
        .stepped result.statement stmt.source stmt.call :: cursors.con.sqlite.log ∧
      Serves rid
        { result with ended := !decide (stmt.position.yielded < count stmt.bindings) }
        { stmt with
          position := if stmt.position.yielded < count stmt.bindings
            then .row (stmt.position.yielded + 1) else .halted } next := by
  obtain ⟨command, live, owns⟩ := serves.live
  obtain ⟨stepped, moved, results, objects, caches, log, own, still, next⟩ :=
    stepQuery_owns live owns count
  have bounded := (List.getElem?_eq_some_iff.mp serves.held).1
  refine ⟨stepped.setResult rid
      { result with ended := !decide (stmt.position.yielded < count stmt.bindings) },
    cursors.stepTouches result.query command, ?_, objects, caches, log,
    ⟨own, still, next⟩, ?_⟩
  · rw [Cursors.nextRow, if_neg (by rw [running]; exact Bool.false_ne_true), live]
    simp only [moved]
  · change (stepped.results.set rid _)[rid]? = _
    rw [results, List.getElem?_set_self bounded]

theorem Serves.getter (serves : Serves rid result stmt cursors) (idx : Nat)
    (inside : idx < result.columns) :
    ∃ touches, cursors.getter result idx = (.returned none, touches) := by
  obtain ⟨command, live, owns⟩ := serves.live
  refine ⟨[.query result.query, .statement result.query result.statement], ?_⟩
  unfold Cursors.getter
  rw [live]
  simp only [owns.accessCheck]
  rw [if_neg (by omega)]

theorem Serves.nameColumns (serves : Serves rid result stmt cursors) (names : Nat → Text)
    (columns : List Nat) (inside : ∀ idx ∈ columns, idx < result.columns) :
    (cursors.nameColumns result names columns).1 = columns.map names ∧
      (cursors.nameColumns result names columns).2.1 = .returned none := by
  induction columns with
  | nil => exact ⟨rfl, rfl⟩
  | cons idx rest ih =>
      obtain ⟨touches, read⟩ := serves.getter idx (inside idx List.mem_cons_self)
      obtain ⟨named, returned⟩ := ih fun other member =>
        inside other (List.mem_cons_of_mem _ member)
      simp only [Cursors.nameColumns, read]
      exact ⟨congrArg (names idx :: ·) named, returned⟩

theorem Serves.primeCache (serves : Serves rid result stmt cursors) (cache : Nat)
    (names : Nat → Text) :
    (cursors.primeCache result cache names).outcome = .returned none ∧
      (cursors.primeCache result cache names).cursors.objects = cursors.objects ∧
      Serves rid result stmt (cursors.primeCache result cache names).cursors := by
  obtain ⟨con, results⟩ := primeCache_keeps result cache names cursors
  refine ⟨?_, ?_, serves.congr con results⟩
  · unfold Cursors.primeCache
    split
    · rfl
    · exact (serves.nameColumns names _ fun idx member => List.mem_range.mp member).2
  · unfold Cursors.primeCache
    split <;> rfl

theorem step_increment {index : Nat} {isEnd : Bool} {cache : Option Nat} {current : RowView}
    (answer : StepCall → ResultCode)
    (found : cursors.objects[index]? = some (.iterator (some rid) isEnd cache current))
    (held : cursors.results[rid]? = some result) {moved : Cursors} {more : Bool}
    {touches : List Touch}
    (came : cursors.nextRow answer rid result = ⟨moved, .returned (some more), touches⟩) :
    cursors.step (.increment index answer) =
      some (moved.setObject index (advanced rid cache more)) := by
  simp only [step, run, increment, found, held, Option.map_some, came]

end Serves
end Cursors
end VSQLite
