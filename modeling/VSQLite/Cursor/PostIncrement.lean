import VSQLite.Cursor.Range

/-!
# The row of a post-increment

`operator++(int)` copies the iterator and moves it on.  The row view of the copy reads the
statement that both share, which has been moved on as well.
-/

set_option autoImplicit false

namespace VSQLite
open Lib

/-- The rows of a statement under each list of bindings, each with its columns, and what
SQLite gives for a column when the statement stands on no row. -/
structure Cells where
  rows : List Value → List (List Value)
  offRow : Value

namespace Cells
variable (cells : Cells)

def count (bindings : List Value) : Nat := (cells.rows bindings).length

/-- A column of a row, by the number of the row; after the last row there is none. -/
def cell (bindings : List Value) (number : Nat) (idx : Int) : Value :=
  (((cells.rows bindings)[number - 1]?).bind fun row => row[idx.toNat]?).getD cells.offRow

def sqlite3Column (stmt : Stmt) (idx : Int) : Value :=
  match stmt.currentRow with
  | some row => cells.cell row.bindings row.number idx
  | none => cells.offRow

end Cells

namespace Cursors

/-- The value that `row_view::get` reads; nothing is said where a pointer dangles. -/
def viewValue (cells : Cells) (view : RowView) (column : Column) (cursors : Cursors) :
    Option (Except Exception Value) :=
  match (cursors.viewGet view column).1 with
  | .undefined => none
  | .threw thrown => some (.error thrown)
  | .returned _ =>
      view.result.bind fun id =>
        (cursors.results[id]?).bind fun result =>
          (cursors.columnIndex view column).toOption.bind fun idx =>
            (cursors.con.sqlite.stmts[result.statement]?).map fun stmt =>
              .ok (cells.sqlite3Column stmt idx)

section PostIncrement
variable {rid : Nat} {result : Result} {stmt : Stmt} {cursors : Cursors}

theorem Serves.viewValue (serves : Serves rid result stmt cursors)
    (owned : cursors.alive rid = true) (cells : Cells) (view : RowView)
    (bound : view.result = some rid) (column : Column) (idx : Nat)
    (known : cursors.columnIndex view column = .ok idx) (inside : idx < result.columns) :
    cursors.viewValue cells view column = some (.ok (cells.sqlite3Column stmt idx)) := by
  obtain ⟨touches, read⟩ := serves.getter idx inside
  obtain ⟨command, -, owns⟩ := serves.live
  have found : cursors.con.sqlite.stmts[result.statement]? = some stmt := owns.found
  have returned : (cursors.viewGet view column).1 = .returned none := by
    unfold viewGet
    simp only [bound, known, owned, serves.held, read]
  unfold Cursors.viewValue
  simp only [returned, bound, Option.bind_some, serves.held, known, found]
  rfl

/-- The operations of `*it++`. -/
def postIncrement (object copied : Nat) : List RangeOp :=
  [.copy object, .increment object, .dereference copied]

/-- What `*it++` leaves when the iterator is on a row: the statement has been stepped, and the
copy, with its row view, is what it was. -/
theorem Serves.postIncrement (serves : Serves rid result stmt cursors)
    (running : result.ended = false) (count : List Value → Nat) (base object : Nat)
    (cache : Option Nat) (bounded : base ≤ cursors.objects.length)
    (found : cursors.objects[base + object]? =
      some (.iterator (some rid) false cache ⟨some rid, cache⟩)) :
    ∃ next : Cursors,
      exec (rangeStep base count)
        (postIncrement object (cursors.objects.length - base)) cursors = some next ∧
      next.objects[cursors.objects.length + 1]? = some (.rowView ⟨some rid, cache⟩) ∧
      next.alive rid = true ∧ next.caches = cursors.caches ∧
      Serves rid { result with ended := !decide (stmt.position.yielded < count stmt.bindings) }
        { stmt with
          position := if stmt.position.yielded < count stmt.bindings
            then .row (stmt.position.yielded + 1) else .halted } next := by
  let iterator : Object := .iterator (some rid) false cache ⟨some rid, cache⟩
  let more := decide (stmt.position.yielded < count stmt.bindings)
  have inside := (List.getElem?_eq_some_iff.mp found).1
  have copied : cursors.step ((RangeOp.copy object).action base count) =
      some (cursors.addObject iterator) := by
    simp only [RangeOp.action, step, run, found, Option.map_some, iterator]
  have shared : (cursors.addObject iterator).objects[base + object]? = some iterator :=
    (List.getElem?_append_left inside).trans found
  have both : Serves rid result stmt (cursors.addObject iterator) := serves.congr rfl rfl
  obtain ⟨moved, touches, came, objects, caches, -, after⟩ := both.nextRow running count
  have advances : (cursors.addObject iterator).step ((RangeOp.increment object).action base count) =
      some (moved.setObject (base + object) (advanced rid cache more)) :=
    step_increment _ shared serves.held came
  have kept : (moved.setObject (base + object)
      (advanced rid cache more)).objects[cursors.objects.length]? = some iterator := by
    change (moved.objects.set _ _)[_]? = _
    rw [List.getElem?_set_ne (Nat.ne_of_lt inside), objects]
    exact List.getElem?_concat_length
  have place : base + (cursors.objects.length - base) = cursors.objects.length := by omega
  have views : (moved.setObject (base + object) (advanced rid cache more)).step
      ((RangeOp.dereference (cursors.objects.length - base)).action base count) =
        some ((moved.setObject (base + object) (advanced rid cache more)).addObject
          (.rowView ⟨some rid, cache⟩)) := by
    simp only [RangeOp.action, step, run, viewAt, place, kept, iterator, Option.map_some]
  refine ⟨(moved.setObject (base + object) (advanced rid cache more)).addObject
    (.rowView ⟨some rid, cache⟩), ?_, ?_, ?_, caches, after.congr rfl rfl⟩
  · simp only [Cursors.postIncrement, exec, rangeStep, copied, advances, views, Option.bind_some]
  · have length : (moved.setObject (base + object) (advanced rid cache more)).objects.length =
        cursors.objects.length + 1 := by
      change (moved.objects.set _ _).length = _
      rw [List.length_set, objects]
      exact List.length_append
    rw [← length]
    exact List.getElem?_concat_length
  · refine List.any_eq_true.mpr ⟨iterator, List.mem_append_left _ (List.mem_of_getElem? kept), ?_⟩
    exact decide_eq_true rfl

end PostIncrement

def rowOf (id : StmtId) (cursors : Cursors) : Option Row :=
  (cursors.con.sqlite.stmts[id]?).bind Stmt.currentRow

section Ranged
variable {base rid : Nat} {result : Result} {stmt : Stmt} {count : List Value → Nat}
  {start cursors : Cursors} {seen : Nat} {ended : Bool}

theorem Ranged.rowOf (ranged : Ranged base rid result stmt count start seen ended cursors) :
    cursors.rowOf result.statement =
      Stmt.currentRow { stmt with position := place seen ended } := by
  obtain ⟨command, -, owns⟩ := ranged.serves.live
  have found : cursors.con.sqlite.stmts[result.statement]? =
      some { stmt with position := place seen ended } := owns.found
  rw [Cursors.rowOf, found, Option.bind_some]

theorem currentRow_place (number : Nat)
    (standing : Stmt.currentRow { stmt with position := place seen ended } =
      some ⟨stmt.bindings, number⟩) : ended = false ∧ seen = number ∧ 0 < seen := by
  unfold Stmt.currentRow place at standing
  cases ended with
  | true => cases standing
  | false =>
      by_cases none : seen = 0
      · simp [none] at standing
      · simp [none] at standing
        exact ⟨rfl, standing, Nat.pos_of_ne_zero none⟩

theorem Ranged.postIncrement_values (cells : Cells)
    (ranged : Ranged base rid result stmt cells.count start seen false cursors) (some_ : 0 < seen)
    (bounded : base ≤ cursors.objects.length) (object : Nat) (cache : Option Nat)
    (found : cursors.objects[base + object]? =
      some (.iterator (some rid) false cache ⟨some rid, cache⟩)) :
    ∃ next : Cursors,
      exec (rangeStep base cells.count)
        (postIncrement object (cursors.objects.length - base)) cursors = some next ∧
      next.objects[cursors.objects.length + 1]? = some (.rowView ⟨some rid, cache⟩) ∧
      ∀ column (idx : Nat), cursors.columnIndex ⟨some rid, cache⟩ column = .ok idx →
        idx < result.columns →
        cursors.viewValue cells ⟨some rid, cache⟩ column =
            some (.ok (cells.cell stmt.bindings seen idx)) ∧
          next.viewValue cells ⟨some rid, cache⟩ column =
            some (.ok (cells.cell stmt.bindings (seen + 1) idx)) := by
  have owned : cursors.alive rid = true :=
    List.any_eq_true.mpr ⟨_, List.mem_of_getElem? found, decide_eq_true rfl⟩
  obtain ⟨next, moved, viewed, alive, caches, serves⟩ :=
    ranged.serves.postIncrement rfl cells.count base object cache bounded found
  refine ⟨next, moved, viewed, fun column idx known inside => ⟨?_, ?_⟩⟩
  · rw [ranged.serves.viewValue owned cells ⟨some rid, cache⟩ rfl column idx known inside]
    simp [Cells.sqlite3Column, Stmt.currentRow, place, Nat.ne_of_gt some_]
  · have same : next.columnIndex ⟨some rid, cache⟩ column = .ok idx := by
      rw [← known]
      simp only [columnIndex, columnNames, caches]
    rw [serves.viewValue alive cells ⟨some rid, cache⟩ rfl column idx same inside]
    by_cases more : seen < cells.count stmt.bindings
    · simp [Cells.sqlite3Column, Stmt.currentRow, more]
    · have past : (cells.rows stmt.bindings)[seen]? = none :=
        List.getElem?_eq_none (Nat.le_of_not_lt more)
      simp [Cells.sqlite3Column, Stmt.currentRow, more, Cells.cell, past]

end Ranged

/-- An iterator of the range that is on a row: what `*it++` returns reads a column of that row
exactly when the next row, or no row after the last one, gives the same for it. -/
theorem post_increment_reads_row_iff (cursors : Cursors) (index columns : Nat)
    (command : Command) (live : cursors.query index = some command) (id : StmtId) (stmt : Stmt)
    (owns : (cursors.con.session command).Owns id stmt) (ready : stmt.position = .ready)
    (cells : Cells) :
    ∃ start, cursors.step (.each index columns) = some start ∧
      ∀ ops reached, exec (rangeStep cursors.objects.length cells.count) ops start =
          some reached →
        ∀ number object shared isEnd cache view,
          reached.rowOf id = some ⟨stmt.bindings, number⟩ →
          reached.objects[cursors.objects.length + object]? =
            some (.iterator shared isEnd cache view) →
          Object.equals (.iterator shared isEnd cache view) .endIterator = false →
          ∃ next returned,
            exec (rangeStep cursors.objects.length cells.count)
              (postIncrement object (reached.objects.length - cursors.objects.length)) reached =
                some next ∧
            next.objects[reached.objects.length + 1]? = some (.rowView returned) ∧
            ∀ column (idx : Nat), reached.columnIndex view column = .ok idx → idx < columns →
              reached.viewValue cells view column =
                  some (.ok (cells.cell stmt.bindings number idx)) ∧
                (next.viewValue cells returned column =
                    some (.ok (cells.cell stmt.bindings number idx)) ↔
                  cells.cell stmt.bindings (number + 1) idx =
                    cells.cell stmt.bindings number idx) := by
  obtain ⟨start, made, -, ranged⟩ :=
    ranged_each cursors index columns command live id stmt owns ready cells.count
  refine ⟨start, made, fun ops reached ran number object shared isEnd cache view standing found
    going => ?_⟩
  obtain ⟨seen, ended, here⟩ := ranged.run ops reached ran
  rw [here.rowOf] at standing
  obtain ⟨rfl, rfl, some_⟩ := currentRow_place number standing
  have kind := here.objects _ _ (Nat.le_add_right _ _) found
  have bounded : cursors.objects.length ≤ reached.objects.length := by
    have inside := (List.getElem?_eq_some_iff.mp found).1
    omega
  cases kind with
  | atEnd => cases going
  | onRow =>
      obtain ⟨next, moved, viewed, values⟩ :=
        here.postIncrement_values cells some_ bounded object cache found
      refine ⟨next, _, moved, viewed, fun column idx known inside => ?_⟩
      obtain ⟨before, after⟩ := values column idx known inside
      refine ⟨before, ?_⟩
      rw [after]
      simp

def twice : Cells := ⟨fun _ => [[.text (ascii "milk")], [.text (ascii "milk")]], .null⟩

theorem post_increment_reads_row_twice :
    ∃ start reached next view, oneQuery.step (.each 0 1) = some start ∧
      exec (rangeStep 0 twice.count) [.begin 0 fun _ => ascii "body"] start = some reached ∧
      exec (rangeStep 0 twice.count) (postIncrement 1 2) reached = some next ∧
      next.viewValue twice view (.index 0) = some (.ok (.text (ascii "milk"))) := by
  obtain ⟨start, made, whole⟩ := post_increment_reads_row_iff oneQuery 0 1
    Session.selection.command rfl 0 _ ⟨rfl, rfl, rfl⟩ rfl twice
  cases made
  obtain ⟨next, view, moved, -, values⟩ := whole [.begin 0 fun _ => ascii "body"] _ rfl 1 1
    _ _ _ _ rfl rfl rfl
  exact ⟨_, _, next, view, rfl, rfl, moved, (values (.index 0) 0 rfl (by decide)).2.mpr rfl⟩

def shopping : Cells := ⟨fun _ => [[.text (ascii "milk")], [.text (ascii "bread")]], .null⟩

/-- On the first of two rows the iterator reads `milk`, and `*it++` reads `bread`. -/
theorem post_increment_reads_next_row :
    ∃ start reached next, oneQuery.step (.each 0 1) = some start ∧
      exec (rangeStep 0 shopping.count) [.begin 0 fun _ => ascii "body"] start = some reached ∧
      exec (rangeStep 0 shopping.count) (postIncrement 1 2) reached = some next ∧
      reached.viewValue shopping ⟨some 0, some 0⟩ (.index 0) =
        some (.ok (.text (ascii "milk"))) ∧
      next.objects[3]? = some (.rowView ⟨some 0, some 0⟩) ∧
      next.viewValue shopping ⟨some 0, some 0⟩ (.index 0) ≠
        some (.ok (.text (ascii "milk"))) := by
  refine ⟨_, _, _, rfl, rfl, rfl, rfl, rfl, ?_⟩
  have read : ∀ value : Option (Except Exception Value),
      value = some (.ok (.text (ascii "bread"))) → value ≠ some (.ok (.text (ascii "milk"))) := by
    rintro value rfl same
    cases same
  exact read _ rfl

end Cursors
end VSQLite
