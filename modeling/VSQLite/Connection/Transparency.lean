import Mathlib.Data.List.InsertIdx
import VSQLite.Connection.Log
import VSQLite.Connection.Program
import VSQLite.Connection.Sources

/-!
# The cache is transparent

A run of a program on a connection with a cache looks like its run on a connection
without one, whatever the cache is configured to and whenever it is cleared.  Both
machines share the text, the counter and the statement of every command; what the
cache holds besides is not seen, as long as none of it has stopped at a row.
-/

set_option autoImplicit false

namespace VSQLite
open Lib

/-- A command with its statement, as a connection without a cache has it. -/
def Slot.private (sqlite : Sqlite) (slot : Slot) : Private :=
  ⟨slot.command.sql, slot.command.lastArgIdx, slot.phase,
    slot.command.stmt.bind fun id => sqlite.stmts[id]?⟩

def Execution.plain (execution : Execution) : Plain :=
  ⟨execution.con.slots.map (Slot.private execution.con.sqlite), execution.history⟩

theorem checkout_fresh (db : DbHandle) (sql : Text) (id : StmtId) (sqlite : Sqlite)
    (home : sqlite3DbHandle id sqlite = some db) (stmt : Stmt)
    (found : sqlite.stmts[id]? = some stmt) :
    (StatementCache.checkout db sql id sqlite).1.stmts[id]? =
      some { stmt with
        position := .ready, bindings := stmt.parameters.map fun _ => Value.null } := by
  rcases StatementCache.checkout_cases db sql id sqlite with ⟨_, result⟩ | ⟨foreign, _⟩
  · rw [result]
    simp [Sqlite.record, sqlite3ClearBindings, sqlite3Reset, Sqlite.modify, found]
  · exact absurd home foreign

theorem Stepless.stepCalls {before after : Sqlite} (stepless : Stepless before after) :
    after.stepCalls = before.stepCalls := by
  obtain ⟨fresh, log, noStep, _⟩ := stepless
  have none : fresh.filterMap Event.stepCall = [] := by
    apply List.filterMap_eq_nil_iff.mpr
    intro event member
    have other := noStep event member
    cases event with
    | stepped stmt source call => cases other
    | _ => rfl
  rw [Sqlite.stepCalls, log, List.filterMap_append, none, List.nil_append, Sqlite.stepCalls]

namespace Connection

/-- An open connection in step with the engine: every statement was compiled to what the
engine makes of its text. -/
structure InStep (engine : Engine) (db : DbHandle) (lengthLimit : Nat) (con : Connection) :
    Prop where
  state : Owned db con
  sourced : Sourced con
  isOpen : con.handle = some db
  limit : con.sqlite.lengthLimit = lengthLimit
  compiled : ∀ id parts, con.sqlite.compiledOf id = some parts →
    engine.prepare parts.1 = .statement parts.2

/-- The statements that commands own are as they were. -/
def LeavesOwned (con : Connection) (sqlite : Sqlite) : Prop :=
  ∀ slot ∈ con.slots, ∀ id, slot.command.stmt = some id →
    sqlite.stmts[id]? = con.sqlite.stmts[id]?

section Frame
variable {db : DbHandle} {con : Connection}

theorem LeavesOwned.private {sqlite : Sqlite} (frame : LeavesOwned con sqlite) :
    con.slots.map (Slot.private sqlite) = con.slots.map (Slot.private con.sqlite) := by
  apply List.map_congr_left
  intro slot member
  have same := frame slot member
  unfold Slot.private
  cases own : slot.command.stmt with
  | none => rfl
  | some id => simp only [Option.bind_some, same id own]

theorem Owned.live_of_stmt (state : Owned db con) (slot : Slot) (member : slot ∈ con.slots)
    (id : StmtId) (own : slot.command.stmt = some id) : slot.phase = .live := by
  by_contra notLive
  rw [state.quiet slot member notLive] at own
  cases own

theorem Owned.held_of_slot (state : Owned db con) (slot : Slot) (member : slot ∈ con.slots)
    (id : StmtId) (own : slot.command.stmt = some id) : 0 < con.owned id := by
  have live := state.live_of_stmt slot member id own
  exact List.countP_pos_iff.mpr ⟨slot, member, by simp [Slot.owns, live, own]⟩

theorem Owned.distinct (state : Owned db con) (first second : Nat) (left right : Slot)
    (leftFound : con.slots[first]? = some left) (rightFound : con.slots[second]? = some right)
    (different : first ≠ second) (id : StmtId) (own : left.command.stmt = some id) :
    right.command.stmt ≠ some id := by
  intro both
  have leftLive := state.live_of_stmt left (List.mem_of_getElem? leftFound) id own
  have rightLive := state.live_of_stmt right (List.mem_of_getElem? rightFound) id both
  have once : con.slots.countP (Slot.owns id) ≤ 1 :=
    Nat.le_trans (Nat.le_add_right _ _) (state.ledger.held_le_one id)
  exact different (index_unique_of_countP_le_one (Slot.owns id) con.slots once first second
    left right leftFound (by simp [Slot.owns, leftLive, own]) rightFound
    (by simp [Slot.owns, rightLive, both]))

theorem clear_leavesOwned (state : Owned db con) :
    LeavesOwned con con.clearStatementCache.sqlite := by
  intro slot member id own
  have held := state.held_of_slot slot member id own
  rw [clearStatementCache, Cache.clear_result]
  apply finalizeAll_of_not_mem
  intro stored
  have once := state.ledger.held_le_one id
  have counted : 0 < con.cached id := List.count_pos_iff.mpr stored
  omega

end Frame

/-! ## Staying in step with the engine -/

section InStep
variable {engine : Engine} {db : DbHandle} {lengthLimit : Nat} {con : Connection}

theorem step_settings (state : Owned db con) (action : Action) (next : Connection)
    (enabled : con.step action = some next) (notClose : action ≠ .close) :
    next.handle = con.handle ∧ next.sqlite.lengthLimit = con.sqlite.lengthLimit := by
  have cleared : con.clearStatementCache.sqlite.lengthLimit = con.sqlite.lengthLimit := by
    rw [clearStatementCache, Cache.clear_result]
    exact StatementCache.finalizeAll_lengthLimit _ _
  cases moved_of_step action enabled with
  | construct sql _ => exact ⟨rfl, rfl⟩
  | clearForSchema index command _ => exact ⟨rfl, cleared⟩
  | acquire index command found =>
      have isOpen := state.open_of_slot index command .acquiring found (by decide)
      obtain ⟨_, _, stmt, used⟩ := acquire_entries state index command isOpen
      refine ⟨?_, used.limit⟩
      rw [acquire, acquireCachedStatement_of_open command.sql con db isOpen]
      cases (con.cache.acquire db command.sql con.sqlite).2.2 <;> rfl
  | prepare index compiled home command _ _ => cases compiled <;> exact ⟨rfl, rfl⟩
  | use index op answer command _ =>
      have keeps := op.run_keeps answer (con.session command)
      refine ⟨rfl, ?_⟩
      cases own : command.stmt with
      | none => exact congrArg Sqlite.lengthLimit (keeps.idle own)
      | some stmt => exact (keeps.uses stmt own).limit
  | destroy index command found =>
      have isOpen := state.open_of_slot index command .live found (by decide)
      constructor
      · exact (finalize_frame command con).1
      · rcases destroy_cases index command isOpen with
          ⟨_, _, sqlite⟩ | ⟨stmt, _, _, _, sqlite⟩ | ⟨stmt, _, _, _, sqlite⟩
        · rw [sqlite]
        · rw [sqlite]
          rfl
        · rw [sqlite, Cache.release_result]
          dsimp only
          split <;> exact StatementCache.finalizeAll_lengthLimit _ _
  | configure config _ => exact ⟨rfl, cleared⟩
  | clearCache _ => exact ⟨rfl, cleared⟩
  | close _ _ => exact absurd rfl notClose

theorem compiledOf_prepare_cases (home : DbHandle) (source : Text) (compiled : Compiled)
    (sqlite : Sqlite) (id : StmtId) (parts : Text × List (Option Text))
    (known : (sqlite3PrepareV2 home source compiled sqlite).2.2.compiledOf id = some parts) :
    sqlite.compiledOf id = some parts ∨
      (compiled = .statement parts.2 ∧ source = parts.1) := by
  cases compiled with
  | error code => exact Or.inl known
  | empty => exact Or.inl known
  | statement parameters =>
      obtain ⟨stmt, present, same⟩ := Option.map_eq_some_iff.mp known
      simp only [sqlite3PrepareV2, List.getElem?_append] at present
      split at present
      · refine Or.inl ?_
        rw [Sqlite.compiledOf, present, Option.map_some, same]
      · have new := List.mem_singleton.mp (List.mem_of_getElem? present)
        rw [new] at same
        subst same
        exact Or.inr ⟨rfl, rfl⟩

theorem step_inStep (inStep : InStep engine db lengthLimit con) (action : Action)
    (next : Connection) (enabled : con.step action = some next) (notClose : action ≠ .close)
    (honest : ∀ index compiled command, action = .prepare index compiled →
      con.commandAt .preparing index = some command → compiled = engine.prepare command.sql) :
    InStep engine db lengthLimit next := by
  have settings := step_settings inStep.state action next enabled notClose
  refine ⟨step_owned action next inStep.state enabled,
    step_sourced inStep.state inStep.sourced action next enabled,
    settings.1.trans inStep.isOpen, settings.2.trans inStep.limit, fun id parts known => ?_⟩
  by_cases prepares : ∃ index compiled, action = .prepare index compiled
  · obtain ⟨index, compiled, rfl⟩ := prepares
    cases moved_of_step _ enabled with
    | prepare _ _ home command _ found =>
        have at_ := (commandAt_eq_some _ _ _ _).mpr found
        rw [prepare_sqlite] at known
        rcases compiledOf_prepare_cases _ _ _ _ id parts known with old | ⟨new, source⟩
        · exact inStep.compiled id parts old
        · rw [← source, ← honest index compiled command rfl at_, new]
  · have others : ∀ index compiled, action ≠ .prepare index compiled :=
      fun index compiled same => prepares ⟨index, compiled, same⟩
    rw [step_compiledOf inStep.state action next enabled others id] at known
    exact inStep.compiled id parts known

theorem opened_inStep (engine : Engine) (db : DbHandle) (lengthLimit : Nat)
    (config : StatementCacheConfig) :
    InStep engine db lengthLimit (opened db lengthLimit config) := by
  refine ⟨opened_owned db lengthLimit config, opened_sourced db lengthLimit config, rfl, rfl, ?_⟩
  intro id parts known
  simp [Sqlite.compiledOf, opened] at known

/-! ## Construction -/

/-- The connection has one more command than before, as if just compiled. -/
structure Constructed (engine : Engine) (db : DbHandle) (lengthLimit : Nat) (sql : Text)
    (con next : Connection) : Prop where
  inStep : InStep engine db lengthLimit next
  frame : LeavesOwned con next.sqlite
  slots : ∃ new, next.slots = con.slots ++ [new] ∧
    new.private next.sqlite = .fresh engine db sql
  calls : next.sqlite.stepCalls = con.sqlite.stepCalls

/-- The constructor has come to where it compiles. -/
structure AboutToCompile (engine : Engine) (db : DbHandle) (lengthLimit : Nat) (sql : Text)
    (con asked : Connection) : Prop where
  inStep : InStep engine db lengthLimit asked
  frame : LeavesOwned con asked.sqlite
  slots : asked.slots = con.slots ++ [⟨⟨sql, none, 0⟩, .preparing⟩]
  calls : asked.sqlite.stepCalls = con.sqlite.stepCalls

theorem set_last (slots : List Slot) (old new : Slot) :
    (slots ++ [old]).set slots.length new = slots ++ [new] := by
  rw [List.set_append_right _ _ (Nat.le_refl _), Nat.sub_self, List.set_cons_zero]

theorem getElem?_last (slots : List Slot) (slot : Slot) :
    (slots ++ [slot])[slots.length]? = some slot := by
  rw [List.getElem?_append_right (Nat.le_refl _), Nat.sub_self, List.getElem?_cons_zero]

theorem AboutToCompile.compile {sql : Text} {asked : Connection}
    (state : Owned db con) (about : AboutToCompile engine db lengthLimit sql con asked) :
    ∃ next, asked.step (.prepare con.slots.length (engine.prepare sql)) = some next ∧
      Constructed engine db lengthLimit sql con next := by
  have at_ : asked.commandAt .preparing con.slots.length = some ⟨sql, none, 0⟩ := by
    rw [commandAt_eq_some, about.slots]
    exact getElem?_last _ _
  have enabled : asked.step (.prepare con.slots.length (engine.prepare sql)) =
      some (asked.prepare db con.slots.length ⟨sql, none, 0⟩ (engine.prepare sql)) := by
    simp only [step, about.inStep.isOpen, at_, Option.map_some]
  refine ⟨_, enabled, ?_, ?_, ?_, ?_⟩
  · refine step_inStep about.inStep _ _ enabled (fun same => by cases same) ?_
    intro index compiled command same found
    cases same
    rw [at_] at found
    cases found
    rfl
  · intro slot member id own
    rw [prepare_sqlite, ← about.frame slot member id own]
    cases engine.prepare sql with
    | error code => rfl
    | empty => rfl
    | statement parameters =>
        have held := state.held_of_slot slot member id own
        obtain ⟨stmt, present, _⟩ :=
          state.ledger.found id (Nat.lt_of_lt_of_le held (Nat.le_add_right _ _))
        rw [← about.frame slot member id own] at present
        exact List.getElem?_append_left (List.getElem?_eq_some_iff.mp present).1
  · unfold Private.fresh
    cases engine.prepare sql with
    | error code =>
        refine ⟨⟨⟨sql, none, 0⟩, .dead⟩, ?_, rfl⟩
        change asked.slots.set _ _ = _
        rw [about.slots]
        exact set_last _ _ _
    | empty =>
        refine ⟨⟨⟨sql, none, 0⟩, .live⟩, ?_, rfl⟩
        change asked.slots.set _ _ = _
        rw [about.slots]
        exact set_last _ _ _
    | statement parameters =>
        refine ⟨⟨⟨sql, some asked.sqlite.stmts.length, 0⟩, .live⟩, ?_, ?_⟩
        · change asked.slots.set _ _ = _
          rw [about.slots]
          exact set_last _ _ _
        · simp [Slot.private, prepare, sqlite3PrepareV2, setSlot]
  · have stepless := step_stepless about.inStep.state _ _ enabled
      fun _ _ _ same => by cases same
    exact stepless.stepCalls.trans about.calls

theorem construct_slots (con : Connection) (sql : Text) :
    (con.construct sql).slots = con.slots ++
      [⟨⟨sql, none, 0⟩, if isSchemaChangingStatement sql then .clearing else .acquiring⟩] := rfl

theorem construct_inStep (inStep : InStep engine db lengthLimit con) (sql : Text) :
    con.step (.construct sql) = some (con.construct sql) ∧
      InStep engine db lengthLimit (con.construct sql) := by
  have enabled : con.step (.construct sql) = some (con.construct sql) := by
    simp [step, inStep.isOpen]
  exact ⟨enabled, step_inStep inStep _ _ enabled (fun same => by cases same)
    fun _ _ _ same => by cases same⟩

theorem clearing_aboutToCompile (inStep : InStep engine db lengthLimit con) (sql : Text)
    (schemaChange : isSchemaChangingStatement sql = true) :
    ∃ asked, (con.construct sql).step (.clearForSchema con.slots.length) = some asked ∧
      AboutToCompile engine db lengthLimit sql con asked := by
  obtain ⟨_, begun⟩ := construct_inStep inStep sql
  have slots := construct_slots con sql
  rw [if_pos schemaChange] at slots
  have at_ : (con.construct sql).commandAt .clearing con.slots.length =
      some ⟨sql, none, 0⟩ := by
    rw [commandAt_eq_some, slots]
    exact getElem?_last _ _
  have enabled : (con.construct sql).step (.clearForSchema con.slots.length) =
      some ((con.construct sql).clearStatementCache.setSlot con.slots.length ⟨sql, none, 0⟩
        .preparing) := by
    rw [step, at_, Option.map_some]
  refine ⟨_, enabled, ?_, ?_, ?_, ?_⟩
  · exact step_inStep begun _ _ enabled (fun same => by cases same) fun _ _ _ same => by cases same
  · have cleared := clear_leavesOwned begun.state
    intro slot member id own
    exact cleared slot (List.mem_append_left _ member) id own
  · change (con.construct sql).slots.set _ _ = _
    rw [slots]
    exact set_last _ _ _
  · exact (step_stepless begun.state _ _ enabled fun _ _ _ same => by cases same).stepCalls

theorem acquire_shape (state : Owned db con) (isOpen : con.handle = some db) (index : Nat)
    (command : Command) :
    (Recency.lookup command.sql con.cache.entries = none ∧
      (con.acquire index command).sqlite = con.sqlite ∧
      (con.acquire index command).slots = con.slots.set index ⟨command, .preparing⟩) ∨
    ∃ id, Recency.lookup command.sql con.cache.entries = some id ∧
      (con.acquire index command).sqlite =
        (StatementCache.checkout db command.sql id con.sqlite).1 ∧
      (con.acquire index command).slots =
        con.slots.set index ⟨{ command with stmt := some id }, .live⟩ := by
  have looked := con.cache.acquire_result db command.sql con.sqlite
  rw [acquire, acquireCachedStatement_of_open command.sql con db isOpen]
  cases found : Recency.lookup command.sql con.cache.entries with
  | none =>
      rw [found] at looked
      rw [looked]
      exact Or.inl ⟨rfl, rfl, rfl⟩
  | some id =>
      rw [found] at looked
      dsimp only at looked
      have stored := Recency.mem_of_lookup command.sql id con.cache.entries found
      have counted : 0 < con.cached id :=
        List.count_pos_iff.mpr (List.mem_map_of_mem (f := Prod.snd) stored)
      have handed := (StatementCache.uses_checkout db command.sql id con.sqlite
        (state.ledger.handle_eq id (Nat.lt_of_lt_of_le counted (Nat.le_add_left _ _)))).2
      rw [looked, handed]
      exact Or.inr ⟨id, rfl, rfl, rfl⟩

theorem cached_fresh (inStep : InStep engine db lengthLimit con) (sql : Text) (id : StmtId)
    (found : Recency.lookup sql con.cache.entries = some id) :
    Slot.private (StatementCache.checkout db sql id con.sqlite).1 ⟨⟨sql, some id, 0⟩, .live⟩ =
      .fresh engine db sql := by
  have stored := Recency.mem_of_lookup sql id con.cache.entries found
  have counted : 0 < con.cached id :=
    List.count_pos_iff.mpr (List.mem_map_of_mem (f := Prod.snd) stored)
  have holds := Nat.lt_of_lt_of_le counted (Nat.le_add_left _ (con.owned id))
  obtain ⟨stmt, present, alive, home⟩ := inStep.state.ledger.found id holds
  have handle := inStep.state.ledger.handle_eq id holds
  have source := inStep.sourced.cache (sql, id) stored
  have compiled := inStep.compiled id (stmt.source, stmt.parameters) (by
    rw [Sqlite.compiledOf, present, Option.map_some])
  rw [Sqlite.sourceOf, present, Option.map_some, Option.some.injEq] at source
  rw [source] at compiled
  rw [Private.fresh, compiled, Slot.private, Option.bind_some,
    checkout_fresh db sql id con.sqlite handle stmt present]
  simp only [Private.mk.injEq, Option.some.injEq, Stmt.mk.injEq, true_and]
  exact ⟨home, source, alive⟩

theorem acquiring_constructed (inStep : InStep engine db lengthLimit con) (sql : Text)
    (ordinary : ¬isSchemaChangingStatement sql = true) :
    ∃ asked, (con.construct sql).step (.acquire con.slots.length) = some asked ∧
      ((asked.commandAt .live con.slots.length = none ∧
          AboutToCompile engine db lengthLimit sql con asked) ∨
        ((asked.commandAt .live con.slots.length).isSome ∧
          engine.constructed sql = .ok none ∧
          Constructed engine db lengthLimit sql con asked)) := by
  obtain ⟨_, begun⟩ := construct_inStep inStep sql
  have slots := construct_slots con sql
  rw [if_neg ordinary] at slots
  have at_ : (con.construct sql).commandAt .acquiring con.slots.length =
      some ⟨sql, none, 0⟩ := by
    rw [commandAt_eq_some, slots]
    exact getElem?_last _ _
  have enabled : (con.construct sql).step (.acquire con.slots.length) =
      some ((con.construct sql).acquire con.slots.length ⟨sql, none, 0⟩) := by
    rw [step, at_, Option.map_some]
  have after := step_inStep begun _ _ enabled (fun same => by cases same)
    fun _ _ _ same => by cases same
  have calls := (step_stepless begun.state _ _ enabled fun _ _ _ same => by cases same).stepCalls
  refine ⟨_, enabled, ?_⟩
  rcases acquire_shape begun.state begun.isOpen con.slots.length ⟨sql, none, 0⟩ with
    ⟨_, sqlite, moved⟩ | ⟨id, found, sqlite, moved⟩
  · rw [slots, set_last] at moved
    refine Or.inl ⟨?_, after, ?_, moved, calls⟩
    · rw [commandAt, moved, getElem?_last]
      exact if_neg fun same => by cases same
    · intro slot member id own
      rw [sqlite]
      rfl
  · rw [slots, set_last] at moved
    have stored := Recency.mem_of_lookup sql id _ found
    have counted : 0 < (con.construct sql).cached id :=
      List.count_pos_iff.mpr (List.mem_map_of_mem (f := Prod.snd) stored)
    have holds := Nat.lt_of_lt_of_le counted (Nat.le_add_left _ ((con.construct sql).owned id))
    have fresh := cached_fresh begun sql id found
    refine Or.inr ⟨?_, ?_, after, ?_, ⟨_, moved, ?_⟩, calls⟩
    · rw [commandAt, moved, getElem?_last]
      rfl
    · have phase : Phase.live = (Private.fresh engine db sql).phase :=
        congrArg Private.phase fresh
      unfold Private.fresh at phase
      unfold Engine.constructed
      cases compiles : engine.prepare sql with
      | error code =>
          rw [compiles] at phase
          cases phase
      | empty => rfl
      | statement parameters => rfl
    · intro slot member other own
      have used := (StatementCache.uses_checkout db sql id con.sqlite
        (begun.state.ledger.handle_eq id holds)).1
      rw [sqlite]
      refine used.others other fun same => ?_
      have held := begun.state.held_of_slot slot
        (slots ▸ List.mem_append_left _ member) other own
      have once := begun.state.ledger.held_le_one other
      rw [same] at held once
      omega
    · rw [sqlite]
      exact fresh

theorem perform_construct (inStep : InStep engine db lengthLimit con) (history : List Observed)
    (sql : Text) :
    ∃ next, con.perform engine history (.construct sql) = some (next, engine.constructed sql) ∧
      Constructed engine db lengthLimit sql con next := by
  have begun := (construct_inStep inStep sql).1
  simp only [perform, begun, Option.bind_some]
  by_cases schemaChange : isSchemaChangingStatement sql = true
  · rw [if_pos schemaChange]
    obtain ⟨asked, enabled, about⟩ := clearing_aboutToCompile inStep sql schemaChange
    obtain ⟨next, compiles, constructed⟩ := about.compile inStep.state
    have notLive : asked.commandAt .live con.slots.length = none := by
      rw [commandAt, about.slots, getElem?_last]
      exact if_neg fun same => by cases same
    rw [enabled, Option.bind_some, notLive]
    exact ⟨next, by rw [compiles]; rfl, constructed⟩
  · rw [if_neg schemaChange]
    obtain ⟨asked, enabled, cases_⟩ := acquiring_constructed inStep sql schemaChange
    rcases cases_ with ⟨notLive, about⟩ | ⟨live, succeeded, constructed⟩
    · obtain ⟨next, compiles, constructed⟩ := about.compile inStep.state
      rw [enabled, Option.bind_some, notLive]
      exact ⟨next, by rw [compiles]; rfl, constructed⟩
    · obtain ⟨command, at_⟩ := Option.isSome_iff_exists.mp live
      rw [enabled, Option.bind_some, at_]
      exact ⟨asked, by rw [succeeded], constructed⟩

/-! ## Use and destruction -/

theorem perform_inStep (inStep : InStep engine db lengthLimit con) (history : List Observed)
    (op : ProgramOp) (next : Connection) (outcome : Except Exception (Option Bool))
    (performed : con.perform engine history op = some (next, outcome)) :
    InStep engine db lengthLimit next := by
  cases op with
  | construct sql =>
      obtain ⟨built, same, constructed⟩ := perform_construct inStep history sql
      rw [performed] at same
      cases same
      exact constructed.inStep
  | use index op =>
      obtain ⟨command, _, used⟩ := Option.bind_eq_some_iff.mp performed
      obtain ⟨after, enabled, same⟩ := Option.map_eq_some_iff.mp used
      cases same
      exact step_inStep inStep _ _ enabled (fun same => by cases same)
        fun _ _ _ same => by cases same
  | destroy index =>
      obtain ⟨after, enabled, same⟩ := Option.map_eq_some_iff.mp performed
      cases same
      exact step_inStep inStep _ _ enabled (fun same => by cases same)
        fun _ _ _ same => by cases same

/-! ## What else is executing -/

theorem cache_silent (inStep : InStep engine db lengthLimit con) (history : List Observed)
    (op : ScriptOp) (notProgram : op.program? = none) :
    (Execution.step engine ⟨con, history⟩ op).map Execution.plain =
      some (Execution.plain ⟨con, history⟩) := by
  have cleared := (clear_leavesOwned inStep.state).private
  cases op with
  | program op => cases notProgram
  | configure config =>
      have enabled : con.step (.configure config) = some (con.configureStatementCache config) := by
        simp [step, inStep.isOpen]
      rw [Execution.step, enabled]
      exact congrArg (fun commands => some (Plain.mk commands history)) cleared
  | clearCache =>
      have enabled : con.step .clearCache = some con.clearStatementCache := by
        simp [step, inStep.isOpen]
      rw [Execution.step, enabled]
      exact congrArg (fun commands => some (Plain.mk commands history)) cleared

end InStep

/-- A compiler that finds one parameter in every text, and one row for every execution. -/
def oneRow : Engine where
  prepare _ := .statement [none]
  answer _ _ call :=
    match call.position with
    | .row _ => .done
    | _ => .row

end Connection
end VSQLite
