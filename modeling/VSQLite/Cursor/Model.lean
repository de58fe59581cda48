import VSQLite.Connection.Model

/-!
# Cursors

The results, ranges, iterators and row views that are made from the queries of a
connection.  A result reaches its query through the pointer its two functions captured,
and its statement through the pointer it copied; a row view has a bare pointer to the
result.  Each operation yields what it touches through such pointers.  Where a pointer
leads to an object that is gone, nothing is said about what happens.
-/

set_option autoImplicit false

namespace VSQLite
open Lib

/-- The members of a `result` and its construction parameters. -/
structure Result where
  query : Nat
  statement : StmtId
  columns : Nat
  ended : Bool
deriving DecidableEq, Repr

structure RowView where
  result : Option Nat
  cache : Option Nat
deriving DecidableEq, Repr

def RowView.unbound : RowView := ⟨none, none⟩

/-- What a program holds.  All but a row view share in the ownership of their result. -/
inductive Object where
  | result (result : Nat)
  | range (result : Option Nat) (beginCalled : Bool) (cache : Option Nat)
  | iterator (result : Option Nat) (isEnd : Bool) (cache : Option Nat) (current : RowView)
  | rowView (view : RowView)
  | destroyed
deriving DecidableEq, Repr

/-- The object owns the result, together with the others that do. -/
def Object.holds (id : Nat) : Object → Bool
  | .result shared => shared = id
  | .range shared _ _ => shared = some id
  | .iterator shared _ _ _ => shared = some id
  | _ => false

/-- Queries are slots of the connection; `results` and `caches` are all that were ever
made; a column cache is the names it has, in order. -/
structure Cursors where
  con : Connection
  results : List Result
  caches : List (List Text)
  objects : List Object

/-- What an operation goes through: a query object, a result that it does not own a
share of, a statement taken to be the query's. -/
inductive Touch where
  | query (query : Nat)
  | result (result : Nat)
  | statement (query : Nat) (stmt : StmtId)
deriving DecidableEq, Repr

inductive Outcome where
  | returned (value : Option Bool)
  | threw (thrown : Exception)
  | undefined
deriving DecidableEq, Repr

structure Effect where
  cursors : Cursors
  outcome : Outcome
  touches : List Touch

inductive Column where
  | name (name : Text)
  | index (idx : Int)
deriving DecidableEq, Repr

namespace Cursors

def opened (db : DbHandle) (lengthLimit : Nat) (config : StatementCacheConfig) : Cursors :=
  ⟨.opened db lengthLimit config, [], [], []⟩

def setObject (index : Nat) (object : Object) (cursors : Cursors) : Cursors :=
  { cursors with objects := cursors.objects.set index object }

def addObject (object : Object) (cursors : Cursors) : Cursors :=
  { cursors with objects := cursors.objects ++ [object] }

def setResult (id : Nat) (result : Result) (cursors : Cursors) : Cursors :=
  { cursors with results := cursors.results.set id result }

def alive (id : Nat) (cursors : Cursors) : Bool := cursors.objects.any (Object.holds id)

def query (index : Nat) (cursors : Cursors) : Option Command := cursors.con.commandAt .live index

/-! ## Results -/

/-- `query::get_result`; SQLite says how many columns the statement has. -/
def getResult (index : Nat) (command : Command) (columns : Nat) (ended : Bool)
    (cursors : Cursors) : Except Exception (Cursors × Nat) :=
  match (cursors.con.session command).accessCheck with
  | .error thrown => .error thrown
  | .ok stmt =>
      .ok ({ cursors with results := cursors.results ++ [⟨index, stmt, columns, ended⟩] },
        cursors.results.length)

def stepQuery (answer : StepCall → ResultCode) (index : Nat) (command : Command)
    (cursors : Cursors) : Cursors × Except Exception Bool :=
  ({ cursors with con := cursors.con.use answer index command .stepOnce },
    ((cursors.con.session command).step answer).2)

def stepTouches (index : Nat) (command : Command) (cursors : Cursors) : List Touch :=
  match (cursors.con.session command).accessCheck with
  | .error _ => [.query index]
  | .ok stmt => [.query index, .statement index stmt]

def nextRow (answer : StepCall → ResultCode) (id : Nat) (result : Result) (cursors : Cursors) :
    Effect :=
  if result.ended then ⟨cursors, .returned (some false), []⟩
  else
    match cursors.query result.query with
    | none => ⟨cursors, .undefined, [.query result.query]⟩
    | some command =>
        let touches := cursors.stepTouches result.query command
        match cursors.stepQuery answer result.query command with
        | (stepped, .error thrown) => ⟨stepped, .threw thrown, touches⟩
        | (stepped, .ok row) =>
            ⟨stepped.setResult id { result with ended := !row }, .returned (some row), touches⟩

/-- A typed getter: `result::access_check`, then the statement.  A getter that calls
another one does the same twice. -/
def getter (result : Result) (idx : Int) (cursors : Cursors) : Outcome × List Touch :=
  match cursors.query result.query with
  | none => (.undefined, [.query result.query])
  | some command =>
      match (cursors.con.session command).accessCheck with
      | .error thrown => (.threw thrown, [.query result.query])
      | .ok _ =>
          if idx < 0 ∨ (result.columns : Int) ≤ idx then
            (.threw (.outOfRange (ascii "no such column index")), [.query result.query])
          else
            (.returned none,
              [.query result.query, .statement result.query result.statement])

/-! ## Ranges and iterators -/

/-- The loop of `prime_cache`: the names it got, how it ended, what it touched. -/
def nameColumns (result : Result) (names : Nat → Text) (cursors : Cursors) :
    List Nat → List Text × Outcome × List Touch
  | [] => ([], .returned none, [])
  | idx :: rest =>
      match cursors.getter result idx with
      | (.returned _, touches) =>
          let later := nameColumns result names cursors rest
          (names idx :: later.1, later.2.1, touches ++ later.2.2)
      | (outcome, touches) => ([], outcome, touches)

def columnNames (cache : Nat) (cursors : Cursors) : List Text := (cursors.caches[cache]?).getD []

/-- `names` are the statement's column names. -/
def primeCache (result : Result) (cache : Nat) (names : Nat → Text) (cursors : Cursors) : Effect :=
  if cursors.columnNames cache ≠ [] then ⟨cursors, .returned none, []⟩
  else
    let named := cursors.nameColumns result names (List.range result.columns)
    ⟨{ cursors with caches := cursors.caches.set cache named.1 }, named.2.1, named.2.2⟩

/-- The iterator after `advance`. -/
def advanced (id : Nat) (cache : Option Nat) (found : Bool) : Object :=
  if found then .iterator (some id) false cache ⟨some id, cache⟩
  else .iterator none true cache .unbound

def makeRange (id : Nat) (cursors : Cursors) : Cursors :=
  { cursors with
    caches := cursors.caches ++ [[]]
    objects := cursors.objects ++ [.range (some id) false (some cursors.caches.length)] }

/-- The column cache of a range, made if need be. -/
def rangeCache (cache : Option Nat) (cursors : Cursors) : Cursors × Nat :=
  match cache with
  | some cache => (cursors, cache)
  | none => ({ cursors with caches := cursors.caches ++ [[]] }, cursors.caches.length)

/-- `result_range::begin` where it makes an iterator that is not at the end. -/
def beginAt (answer : StepCall → ResultCode) (names : Nat → Text) (index id : Nat)
    (result : Result) (cache : Option Nat) (cursors : Cursors) : Effect :=
  let cached := cursors.rangeCache cache
  let primed := (cached.1.setObject index (.range (some id) true (some cached.2))).primeCache
    result cached.2 names
  match primed.outcome with
  | .returned _ =>
      let moved := primed.cursors.nextRow answer id result
      match moved.outcome with
      | .returned (some found) =>
          ⟨moved.cursors.addObject (advanced id (some cached.2) found), .returned none,
            primed.touches ++ moved.touches⟩
      | outcome => ⟨moved.cursors, outcome, primed.touches ++ moved.touches⟩
  | _ => primed

def begin (answer : StepCall → ResultCode) (names : Nat → Text) (index : Nat)
    (cursors : Cursors) : Option Effect :=
  match cursors.objects[index]? with
  | some (.range none _ _) =>
      some ⟨cursors.addObject (.iterator none true none .unbound), .returned none, []⟩
  | some (.range (some id) beginCalled cache) =>
      if beginCalled then
        some ⟨cursors.addObject (.iterator none true none .unbound), .returned none, []⟩
      else (cursors.results[id]?).map fun result =>
        cursors.beginAt answer names index id result cache
  | _ => none

/-- `operator++`; the postfix form copies the iterator first. -/
def increment (answer : StepCall → ResultCode) (index : Nat) (cursors : Cursors) :
    Option Effect :=
  match cursors.objects[index]? with
  | some (.iterator none _ cache _) =>
      some ⟨cursors.setObject index (.iterator none true cache .unbound), .returned none, []⟩
  | some (.iterator (some id) _ cache _) =>
      (cursors.results[id]?).map fun result =>
        let moved := cursors.nextRow answer id result
        match moved.outcome with
        | .returned (some found) =>
            ⟨moved.cursors.setObject index (advanced id cache found), .returned none,
              moved.touches⟩
        | _ => moved
  | _ => none

/-! ## Row views -/

/-- `row_view::column`, or the index itself. -/
def columnIndex (view : RowView) (column : Column) (cursors : Cursors) : Except Exception Int :=
  match column with
  | .index idx => .ok idx
  | .name name =>
      match view.cache with
      | none => .error (.runtimeError (ascii "column cache is not initialized"))
      | some cache =>
          match (cursors.columnNames cache).findIdx? (· = name) with
          | none => .error (.outOfRange (ascii "no such column name"))
          | some idx => .ok idx

def viewGet (view : RowView) (column : Column) (cursors : Cursors) : Outcome × List Touch :=
  match view.result with
  | none => (.threw (.runtimeError (ascii "row_view is not bound to a row")), [])
  | some id =>
      match cursors.columnIndex view column with
      | .error thrown => (.threw thrown, [])
      | .ok idx =>
          match cursors.alive id, cursors.results[id]? with
          | true, some result =>
              ((cursors.getter result idx).1, .result id :: (cursors.getter result idx).2)
          | _, _ => (.undefined, [.result id])

end Cursors

inductive CursorAction where
  | connection (action : Action)
  | getResult (query : Nat) (columns : Nat)
  | emitResult (query : Nat) (columns : Nat) (answer : StepCall → ResultCode)
  | each (query : Nat) (columns : Nat)
  | makeRange (object : Nat)
  | copy (object : Nat)
  | destroy (object : Nat)
  | nextRow (object : Nat) (answer : StepCall → ResultCode)
  | reset (object : Nat)
  | get (object : Nat) (idx : Int)
  | begin (object : Nat) (answer : StepCall → ResultCode) (names : Nat → Text)
  | makeEnd
  | increment (object : Nat) (answer : StepCall → ResultCode)
  | dereference (object : Nat)
  | viewGet (object : Nat) (column : Column)

namespace Cursors

def resultAt (object : Nat) (cursors : Cursors) : Option (Nat × Result) :=
  match cursors.objects[object]? with
  | some (.result id) => (cursors.results[id]?).map fun result => (id, result)
  | _ => none

/-- The row view of an iterator, or one that was copied. -/
def viewAt (object : Nat) (cursors : Cursors) : Option RowView :=
  match cursors.objects[object]? with
  | some (.iterator _ _ _ current) => some current
  | some (.rowView view) => some view
  | _ => none

/-- What a program does with a query that exists and an object it holds. -/
def run (cursors : Cursors) : CursorAction → Option Effect
  | .connection action =>
      (cursors.con.step action).map fun con =>
        ⟨{ cursors with con := con }, .returned none, []⟩
  | .getResult index columns =>
      (cursors.query index).map fun command =>
        match cursors.getResult index command columns false with
        | .error thrown => ⟨cursors, .threw thrown, []⟩
        | .ok (made, id) => ⟨made.addObject (.result id), .returned none, []⟩
  | .emitResult index columns answer =>
      (cursors.query index).map fun command =>
        match cursors.stepQuery answer index command with
        | (stepped, .error thrown) => ⟨stepped, .threw thrown, []⟩
        | (stepped, .ok row) =>
            match stepped.getResult index command columns (!row) with
            | .error thrown => ⟨stepped, .threw thrown, []⟩
            | .ok (made, id) => ⟨made.addObject (.result id), .returned none, []⟩
  | .each index columns =>
      (cursors.query index).map fun command =>
        match cursors.getResult index command columns false with
        | .error thrown => ⟨cursors, .threw thrown, []⟩
        | .ok (made, id) => ⟨made.makeRange id, .returned none, []⟩
  | .makeRange object =>
      (cursors.resultAt object).map fun held => ⟨cursors.makeRange held.1, .returned none, []⟩
  | .copy object =>
      (cursors.objects[object]?).map fun held => ⟨cursors.addObject held, .returned none, []⟩
  | .destroy object =>
      (cursors.objects[object]?).map fun _ =>
        ⟨cursors.setObject object .destroyed, .returned none, []⟩
  | .nextRow object answer =>
      (cursors.resultAt object).map fun held => cursors.nextRow answer held.1 held.2
  | .reset object =>
      (cursors.resultAt object).map fun held =>
        ⟨cursors.setResult held.1 { held.2 with ended := false }, .returned none, []⟩
  | .get object idx =>
      (cursors.resultAt object).map fun held =>
        ⟨cursors, (cursors.getter held.2 idx).1, (cursors.getter held.2 idx).2⟩
  | .begin object answer names => cursors.begin answer names object
  | .makeEnd => some ⟨cursors.addObject (.iterator none true none .unbound), .returned none, []⟩
  | .increment object answer => cursors.increment answer object
  | .dereference object =>
      (cursors.viewAt object).map fun view =>
        ⟨cursors.addObject (.rowView view), .returned none, []⟩
  | .viewGet object column =>
      (cursors.viewAt object).map fun view =>
        ⟨cursors, (cursors.viewGet view column).1, (cursors.viewGet view column).2⟩

def step (cursors : Cursors) (action : CursorAction) : Option Cursors :=
  (cursors.run action).map Effect.cursors

def touches (cursors : Cursors) (action : CursorAction) : List Touch :=
  match cursors.run action with
  | some effect => effect.touches
  | none => []

end Cursors
end VSQLite
