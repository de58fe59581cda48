import Mathlib.Data.List.Basic

/-!
# The prepared statements of SQLite

The part of the SQLite C API the wrapper drives: statements are numbered in the
order `sqlite3_prepare_v2` returns them, and a call with the null pointer is a
call with `none`.  What a statement yields when stepped comes from outside; what
the API documents about bindings, positions and result codes is computed here.
The log, newest event first, is the record of what was done to each statement.
-/

set_option autoImplicit false

namespace VSQLite

abbrev Text := List UInt8

abbrev StmtId := Nat
abbrev DbHandle := Nat

inductive Value where
  | null
  | integer (value : Int)
  | real (bits : UInt64)
  | text (bytes : Text)
  | blob (bytes : List UInt8)
deriving DecidableEq, Repr

/-- How far a statement has run: not stepped since it was prepared or reset, stopped
after a number of rows, or finished (with or without an error) and not reset. -/
inductive Position where
  | ready
  | row (count : Nat)
  | halted
deriving DecidableEq, Repr

inductive ResultCode where
  | ok
  | row
  | done
  | busy
  | misuse
  | range
  | tooBig
  | error (code : Nat)
deriving DecidableEq, Repr

/-- `SQLITE_BUSY` leaves a running statement where it is, so that the call can be
repeated; `SQLITE_MISUSE` refuses the call; any other failure ends the execution. -/
def Position.after : Position → ResultCode → Position
  | .row count, .row => .row (count + 1)
  | _, .row => .row 1
  | .row count, .busy => .row count
  | position, .misuse => position
  | _, _ => .halted

/-- Stepped to `SQLITE_ROW`, and not reset or completed since. -/
def Position.midExecution : Position → Bool
  | .row _ => true
  | _ => false

/-- `source` is the string the wrapper compiled; SQLite reads it up to the first NUL.
Parameter `i` is entry `i - 1` of the last two lists. -/
structure Stmt where
  db : DbHandle
  source : Text
  parameters : List (Option Text)
  bindings : List Value
  position : Position
  finalized : Bool
deriving DecidableEq, Repr

def cString (text : Text) : Text := text.takeWhile (· ≠ 0)

/-- What a call of `sqlite3_step` acts on. -/
structure StepCall where
  sql : Text
  bindings : List Value
  position : Position
deriving DecidableEq, Repr

def Stmt.call (stmt : Stmt) : StepCall := ⟨cString stmt.source, stmt.bindings, stmt.position⟩

inductive Event where
  | prepared (stmt : StmtId)
  | reset (stmt : StmtId)
  | clearedBindings (stmt : StmtId)
  | bound (stmt : StmtId) (index : Int) (value : Value)
  | stepped (stmt : StmtId) (source : Text) (call : StepCall)
  | cached (stmt : StmtId) (key : Text)
  | handedOut (stmt : StmtId) (key : Text)
  | finalized (stmt : StmtId)
deriving DecidableEq, Repr

def Event.stmt : Event → StmtId
  | .prepared stmt => stmt
  | .reset stmt => stmt
  | .clearedBindings stmt => stmt
  | .bound stmt _ _ => stmt
  | .stepped stmt _ _ => stmt
  | .cached stmt _ => stmt
  | .handedOut stmt _ => stmt
  | .finalized stmt => stmt

/-- The events that do something with a statement other than creating or freeing it. -/
def Event.isUse : Event → Bool
  | .prepared _ => false
  | .finalized _ => false
  | _ => true

/-- `lengthLimit` is the connection's `SQLITE_LIMIT_LENGTH`. -/
structure Sqlite where
  stmts : List Stmt
  lengthLimit : Nat
  log : List Event

/-- What the compiler makes of a text: an error, no statement at all (empty text or
comments only), or a statement with these parameters, named or not. -/
inductive Compiled where
  | error (code : Nat)
  | empty
  | statement (parameters : List (Option Text))
deriving DecidableEq, Repr

namespace Sqlite

def modify (id : StmtId) (change : Stmt → Stmt) (event : Event) (sqlite : Sqlite) : Sqlite :=
  { sqlite with stmts := sqlite.stmts.modify id change, log := event :: sqlite.log }

def record (event : Event) (sqlite : Sqlite) : Sqlite :=
  { sqlite with log := event :: sqlite.log }

end Sqlite

def sqlite3Finalize : Option StmtId → Sqlite → Sqlite
  | none, sqlite => sqlite
  | some id, sqlite =>
      sqlite.modify id (fun stmt => { stmt with finalized := true }) (.finalized id)

def sqlite3Reset : Option StmtId → Sqlite → Sqlite
  | none, sqlite => sqlite
  | some id, sqlite => sqlite.modify id (fun stmt => { stmt with position := .ready }) (.reset id)

def sqlite3ClearBindings (id : StmtId) (sqlite : Sqlite) : Sqlite :=
  sqlite.modify id
    (fun stmt => { stmt with bindings := stmt.parameters.map fun _ => Value.null })
    (.clearedBindings id)

def sqlite3DbHandle (id : StmtId) (sqlite : Sqlite) : Option DbHandle :=
  sqlite.stmts[id]?.map Stmt.db

def Value.size : Value → Nat
  | .text bytes => bytes.length
  | .blob bytes => bytes.length
  | _ => 0

/-- The parameter is set to NULL before the new value is looked at, so a value over the
length limit leaves it NULL. -/
def Stmt.bind (limit : Nat) (index : Int) (value : Value) (stmt : Stmt) : ResultCode × Stmt :=
  if stmt.position ≠ .ready then (.misuse, stmt)
  else if index < 1 ∨ (stmt.parameters.length : Int) < index then (.range, stmt)
  else if limit < value.size then
    (.tooBig, { stmt with bindings := stmt.bindings.set (index.toNat - 1) .null })
  else (.ok, { stmt with bindings := stmt.bindings.set (index.toNat - 1) value })

/-- The `sqlite3_bind_*` family. -/
def sqlite3Bind (id : StmtId) (index : Int) (value : Value) (sqlite : Sqlite) :
    ResultCode × Sqlite :=
  match sqlite.stmts[id]? with
  | none => (.misuse, sqlite.record (.bound id index value))
  | some stmt =>
      ((stmt.bind sqlite.lengthLimit index value).1,
        sqlite.modify id (fun stmt => (stmt.bind sqlite.lengthLimit index value).2)
          (.bound id index value))

/-- 0 when no parameter has the name. -/
def Stmt.parameterIndex (name : Text) (stmt : Stmt) : Nat :=
  match stmt.parameters.findIdx? (· = some (cString name)) with
  | some position => position + 1
  | none => 0

def sqlite3BindParameterIndex (id : StmtId) (name : Text) (sqlite : Sqlite) : Nat :=
  match sqlite.stmts[id]? with
  | none => 0
  | some stmt => stmt.parameterIndex name

/-- `answer` is what executing the statement from here comes to. -/
def sqlite3Step (answer : StepCall → ResultCode) (id : StmtId) (sqlite : Sqlite) :
    ResultCode × Sqlite :=
  match sqlite.stmts[id]? with
  | none => (.misuse, sqlite)
  | some stmt =>
      (answer stmt.call,
        sqlite.modify id
          (fun stmt => { stmt with position := stmt.position.after (answer stmt.call) })
          (.stepped id stmt.source stmt.call))

/-- The result code, the statement if there is one, and SQLite after the call. -/
def sqlite3PrepareV2 (db : DbHandle) (source : Text) (compiled : Compiled) (sqlite : Sqlite) :
    ResultCode × Option StmtId × Sqlite :=
  match compiled with
  | .error code => (.error code, none, sqlite)
  | .empty => (.ok, none, sqlite)
  | .statement parameters =>
      (.ok, some sqlite.stmts.length,
        { sqlite with
          stmts := sqlite.stmts ++ [⟨db, source, parameters, parameters.map fun _ => .null,
            .ready, false⟩],
          log := .prepared sqlite.stmts.length :: sqlite.log })

/-! ## What a call leaves alone -/

/-- The parts of a statement that no call but finalization changes. -/
def Stmt.identity (stmt : Stmt) : DbHandle × Text × List (Option Text) × Bool :=
  (stmt.db, stmt.source, stmt.parameters, stmt.finalized)

def Sqlite.identityOf (id : StmtId) (sqlite : Sqlite) :
    Option (DbHandle × Text × List (Option Text) × Bool) :=
  sqlite.stmts[id]?.map Stmt.identity

def Sqlite.sourceOf (id : StmtId) (sqlite : Sqlite) : Option Text :=
  sqlite.stmts[id]?.map Stmt.source

theorem Sqlite.sourceOf_eq (id : StmtId) (sqlite : Sqlite) :
    sqlite.sourceOf id = (sqlite.identityOf id).map fun parts => parts.2.1 := by
  simp [sourceOf, identityOf, Function.comp_def, Stmt.identity]

/-- The event uses the statement, and a recorded step names its text. -/
def Event.UseOf (id : StmtId) (sqlite : Sqlite) (event : Event) : Prop :=
  event.stmt = id ∧ event.isUse = true ∧
    ∀ source call, event = .stepped id source call → sqlite.sourceOf id = some source

/-- SQLite goes from one state to another by uses of a single statement. -/
structure Uses (id : StmtId) (before after : Sqlite) : Prop where
  others : ∀ other : StmtId, other ≠ id → after.stmts[other]? = before.stmts[other]?
  identity : ∀ other : StmtId, after.identityOf other = before.identityOf other
  limit : after.lengthLimit = before.lengthLimit
  log : ∃ fresh, after.log = fresh ++ before.log ∧ ∀ event ∈ fresh, event.UseOf id before

theorem Uses.source {id : StmtId} {before after : Sqlite} (uses : Uses id before after)
    (other : StmtId) : after.sourceOf other = before.sourceOf other := by
  rw [Sqlite.sourceOf_eq, uses.identity other, Sqlite.sourceOf_eq]

theorem Uses.refl (id : StmtId) (sqlite : Sqlite) : Uses id sqlite sqlite :=
  ⟨fun _ _ => rfl, fun _ => rfl, rfl, [], rfl, fun _ member => by cases member⟩

theorem Uses.trans {id : StmtId} {first second third : Sqlite}
    (early : Uses id first second) (late : Uses id second third) : Uses id first third := by
  obtain ⟨earlyEvents, earlyLog, earlyUses⟩ := early.log
  obtain ⟨lateEvents, lateLog, lateUses⟩ := late.log
  refine ⟨fun other different => ?_, fun other => ?_, ?_, lateEvents ++ earlyEvents, ?_, ?_⟩
  · exact (late.others other different).trans (early.others other different)
  · exact (late.identity other).trans (early.identity other)
  · exact late.limit.trans early.limit
  · rw [lateLog, earlyLog, List.append_assoc]
  · intro event member
    rcases List.mem_append.mp member with inLate | inEarly
    · obtain ⟨own, use, named⟩ := lateUses event inLate
      refine ⟨own, use, fun source call same => ?_⟩
      rw [← early.source id]
      exact named source call same
    · exact earlyUses event inEarly

theorem Uses.length {id : StmtId} {before after : Sqlite} (uses : Uses id before after) :
    after.stmts.length = before.stmts.length := by
  have bound : ∀ index : Nat, after.stmts.length ≤ index ↔ before.stmts.length ≤ index := by
    intro index
    have same := uses.identity index
    simp only [Sqlite.identityOf] at same
    rw [← List.getElem?_eq_none_iff, ← List.getElem?_eq_none_iff,
      ← Option.map_eq_none_iff (f := Stmt.identity), same, Option.map_eq_none_iff]
  exact Nat.le_antisymm ((bound _).mpr (Nat.le_refl _)) ((bound _).mp (Nat.le_refl _))

theorem uses_modify (id : StmtId) (change : Stmt → Stmt) (event : Event) (sqlite : Sqlite)
    (same : ∀ stmt, (change stmt).identity = stmt.identity) (use : event.UseOf id sqlite) :
    Uses id sqlite (sqlite.modify id change event) := by
  refine ⟨fun other different => ?_, fun other => ?_, rfl, [event], rfl, ?_⟩
  · simp [Sqlite.modify, Ne.symm different]
  · simp only [Sqlite.identityOf, Sqlite.modify, List.getElem?_modify]
    cases sqlite.stmts[other]? with
    | none => rfl
    | some stmt =>
        by_cases here : id = other
        · simp [here, same]
        · simp [here]
  · intro found member
    rw [List.mem_singleton.mp member]
    exact use

theorem uses_record (id : StmtId) (event : Event) (sqlite : Sqlite)
    (use : event.UseOf id sqlite) : Uses id sqlite (sqlite.record event) :=
  ⟨fun _ _ => rfl, fun _ => rfl, rfl, [event], rfl, fun found member => by
    rw [List.mem_singleton.mp member]
    exact use⟩

theorem Stmt.bind_identity (limit : Nat) (index : Int) (value : Value) (stmt : Stmt) :
    (stmt.bind limit index value).2.identity = stmt.identity := by
  unfold Stmt.bind
  split
  · rfl
  · split
    · rfl
    · split <;> rfl

theorem uses_reset (id : StmtId) (sqlite : Sqlite) :
    Uses id sqlite (sqlite3Reset (some id) sqlite) :=
  uses_modify id _ _ sqlite (fun _ => rfl) ⟨rfl, rfl, fun _ _ same => by cases same⟩

theorem uses_clearBindings (id : StmtId) (sqlite : Sqlite) :
    Uses id sqlite (sqlite3ClearBindings id sqlite) :=
  uses_modify id _ _ sqlite (fun _ => rfl) ⟨rfl, rfl, fun _ _ same => by cases same⟩

theorem uses_bind (id : StmtId) (index : Int) (value : Value) (sqlite : Sqlite) :
    Uses id sqlite (sqlite3Bind id index value sqlite).2 := by
  unfold sqlite3Bind
  cases sqlite.stmts[id]? with
  | none => exact uses_record id _ sqlite ⟨rfl, rfl, fun _ _ same => by cases same⟩
  | some stmt =>
      exact uses_modify id _ _ sqlite (fun _ => Stmt.bind_identity _ _ _ _)
        ⟨rfl, rfl, fun _ _ same => by cases same⟩

theorem uses_step (answer : StepCall → ResultCode) (id : StmtId) (sqlite : Sqlite) :
    Uses id sqlite (sqlite3Step answer id sqlite).2 := by
  unfold sqlite3Step
  cases present : sqlite.stmts[id]? with
  | none => exact Uses.refl id sqlite
  | some stmt =>
      refine uses_modify id _ _ sqlite (fun _ => rfl) ⟨rfl, rfl, fun source call same => ?_⟩
      cases same
      rw [Sqlite.sourceOf, present, Option.map_some]

end VSQLite
