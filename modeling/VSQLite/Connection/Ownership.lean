import VSQLite.Connection.Model
import VSQLite.Lib.Census
import VSQLite.StatementCache.Ownership

/-!
# Every statement has one place

A statement is owned by a live command, stored in the cache, or finalized.  The
invariant is the ledger of the connection with the commands and the cache as its
holders; each atomic piece keeps it, so it holds after every run.
-/

set_option autoImplicit false

namespace VSQLite
open Lib

def Slot.owns (id : StmtId) (slot : Slot) : Bool :=
  decide (slot.phase = .live) && decide (slot.command.stmt = some id)

namespace Connection

theorem acquireCachedStatement_of_open (sql : Text) (con : Connection) (db : DbHandle)
    (isOpen : con.handle = some db) :
    con.acquireCachedStatement sql =
      ({ con with
        cache := (con.cache.acquire db sql con.sqlite).1
        sqlite := (con.cache.acquire db sql con.sqlite).2.1 },
        (con.cache.acquire db sql con.sqlite).2.2) := by
  unfold acquireCachedStatement
  split
  · rename_i closed
    rw [isOpen] at closed
    cases closed
  · rename_i found same
    rw [isOpen] at same
    cases same
    rfl

theorem releaseCachedStatement_of_open (sql : Text) (stmt : StmtId) (con : Connection)
    (db : DbHandle) (isOpen : con.handle = some db) :
    con.releaseCachedStatement sql stmt =
      { con with
        cache := (con.cache.release sql stmt con.sqlite).1
        sqlite := (con.cache.release sql stmt con.sqlite).2 } := by
  unfold releaseCachedStatement
  split
  · rename_i closed
    rw [isOpen] at closed
    cases closed
  · rfl

theorem finalize_of_none (command : Command) (con : Connection) (own : command.stmt = none) :
    con.finalize command = con := by
  unfold finalize Session.accessCheck session
  simp only [own]
  split
  · rfl
  · rename_i passed
    split at passed <;> cases passed

theorem finalize_of_some (command : Command) (con : Connection) (db : DbHandle)
    (isOpen : con.handle = some db) (stmt : StmtId) (own : command.stmt = some stmt) :
    con.finalize command =
      if isSchemaChangingStatement command.sql then
        { con with sqlite := sqlite3Finalize (some stmt) con.sqlite }
      else con.releaseCachedStatement command.sql stmt := by
  have passed : (con.session command).accessCheck = .ok stmt := by
    unfold Session.accessCheck session
    simp [isOpen, own]
  unfold finalize
  rw [passed]

/-! ## What a piece comes to -/

/-- The pieces that are enabled, each with what makes it so. -/
inductive Moved (con : Connection) : Action → Connection → Prop where
  | construct (sql : Text) (isOpen : con.handle.isSome) :
      Moved con (.construct sql) (con.construct sql)
  | clearForSchema (index : Nat) (command : Command)
      (found : con.slots[index]? = some ⟨command, .clearing⟩) :
      Moved con (.clearForSchema index) (con.clearStatementCache.setSlot index command .preparing)
  | acquire (index : Nat) (command : Command)
      (found : con.slots[index]? = some ⟨command, .acquiring⟩) :
      Moved con (.acquire index) (con.acquire index command)
  | prepare (index : Nat) (compiled : Compiled) (home : DbHandle) (command : Command)
      (isOpen : con.handle = some home) (found : con.slots[index]? = some ⟨command, .preparing⟩) :
      Moved con (.prepare index compiled) (con.prepare home index command compiled)
  | use (index : Nat) (op : CommandOp) (answer : StepCall → ResultCode) (command : Command)
      (found : con.slots[index]? = some ⟨command, .live⟩) :
      Moved con (.use index op answer) (con.use answer index command op)
  | destroy (index : Nat) (command : Command)
      (found : con.slots[index]? = some ⟨command, .live⟩) :
      Moved con (.destroy index) (con.destroy index command)
  | configure (config : StatementCacheConfig) (isOpen : con.handle.isSome) :
      Moved con (.configure config) (con.configureStatementCache config)
  | clearCache (isOpen : con.handle.isSome) : Moved con .clearCache con.clearStatementCache
  | close (isOpen : con.handle.isSome) (dead : ∀ slot ∈ con.slots, slot.phase = .dead) :
      Moved con .close con.close.1

theorem commandAt_eq_some (phase : Phase) (index : Nat) (con : Connection) (command : Command) :
    con.commandAt phase index = some command ↔ con.slots[index]? = some ⟨command, phase⟩ := by
  unfold commandAt
  cases con.slots[index]? with
  | none => simp
  | some slot =>
      obtain ⟨other, found⟩ := slot
      by_cases same : found = phase
      · simp [same]
      · simp [same]

theorem moved_of_step {con next : Connection} (action : Action)
    (enabled : con.step action = some next) : Moved con action next := by
  cases action with
  | construct sql =>
      simp only [step] at enabled
      split at enabled
      · rename_i isOpen
        cases enabled
        exact .construct sql isOpen
      · cases enabled
  | clearForSchema index =>
      obtain ⟨command, at_, rfl⟩ := Option.map_eq_some_iff.mp enabled
      exact .clearForSchema index command ((commandAt_eq_some _ _ _ _).mp at_)
  | acquire index =>
      obtain ⟨command, at_, rfl⟩ := Option.map_eq_some_iff.mp enabled
      exact .acquire index command ((commandAt_eq_some _ _ _ _).mp at_)
  | prepare index compiled =>
      simp only [step] at enabled
      split at enabled
      · cases enabled
      · rename_i home isOpen
        obtain ⟨command, at_, rfl⟩ := Option.map_eq_some_iff.mp enabled
        exact .prepare index compiled home command isOpen ((commandAt_eq_some _ _ _ _).mp at_)
  | use index op answer =>
      obtain ⟨command, at_, rfl⟩ := Option.map_eq_some_iff.mp enabled
      exact .use index op answer command ((commandAt_eq_some _ _ _ _).mp at_)
  | destroy index =>
      obtain ⟨command, at_, rfl⟩ := Option.map_eq_some_iff.mp enabled
      exact .destroy index command ((commandAt_eq_some _ _ _ _).mp at_)
  | configure config =>
      simp only [step] at enabled
      split at enabled
      · rename_i isOpen
        cases enabled
        exact .configure config isOpen
      · cases enabled
  | clearCache =>
      simp only [step] at enabled
      split at enabled
      · rename_i isOpen
        cases enabled
        exact .clearCache isOpen
      · cases enabled
  | close =>
      simp only [step] at enabled
      split at enabled
      · rename_i allowed
        cases enabled
        exact .close allowed.1 allowed.2
      · cases enabled

theorem finalize_frame (command : Command) (con : Connection) :
    (con.finalize command).handle = con.handle ∧ (con.finalize command).slots = con.slots := by
  unfold finalize releaseCachedStatement
  repeat' split
  all_goals exact ⟨rfl, rfl⟩

theorem close_sqlite (con : Connection) (isOpen : con.handle.isSome) :
    con.close.1.sqlite = con.clearStatementCache.sqlite := by
  unfold close
  split
  · rename_i closed
    rw [closed] at isOpen
    cases isOpen
  · dsimp only
    split <;> rfl

theorem close_slots (con : Connection) : con.close.1.slots = con.slots := by
  unfold close
  split
  · rfl
  · dsimp only
    split <;> rfl

/-! ## The owners of a statement -/

def owned (con : Connection) (id : StmtId) : Nat := con.slots.countP (Slot.owns id)

def cached (con : Connection) (id : StmtId) : Nat := con.cache.holds id

structure Owned (db : DbHandle) (con : Connection) : Prop where
  ledger : Ledger db (fun id => con.owned id + con.cached id) con.sqlite
  handle : con.handle = some db ∨
    (con.handle = none ∧ con.cache.entries = [] ∧ ∀ slot ∈ con.slots, slot.phase = .dead)
  quiet : ∀ slot ∈ con.slots, slot.phase ≠ .live → slot.command.stmt = none

theorem owned_setSlot (index : Nat) (command new : Command) (phase after : Phase)
    (con : Connection) (found : con.slots[index]? = some ⟨command, phase⟩) (id : StmtId) :
    (con.setSlot index new after).owned id + (if Slot.owns id ⟨command, phase⟩ then 1 else 0) =
      con.owned id + (if Slot.owns id ⟨new, after⟩ then 1 else 0) :=
  countP_set_add (Slot.owns id) con.slots index ⟨command, phase⟩ ⟨new, after⟩ found

theorem owns_live (id : StmtId) (command : Command) :
    (if Slot.owns id ⟨command, .live⟩ then 1 else 0) = inHand command.stmt id := by
  simp [Slot.owns, inHand]

theorem owns_other (id : StmtId) (command : Command) (phase : Phase) (other : phase ≠ .live) :
    Slot.owns id ⟨command, phase⟩ = false := by
  simp [Slot.owns, other]

theorem quiet_setSlot (index : Nat) (command : Command) (phase : Phase) (con : Connection)
    (quiet : ∀ slot ∈ con.slots, slot.phase ≠ .live → slot.command.stmt = none)
    (new : phase ≠ .live → command.stmt = none) :
    ∀ slot ∈ (con.setSlot index command phase).slots,
      slot.phase ≠ .live → slot.command.stmt = none := by
  intro slot member notLive
  rcases List.mem_or_eq_of_mem_set member with old | rfl
  · exact quiet slot old notLive
  · exact new notLive

theorem owned_pos (index : Nat) (command : Command) (con : Connection)
    (found : con.slots[index]? = some ⟨command, .live⟩) (stmt : StmtId)
    (own : command.stmt = some stmt) : 0 < con.owned stmt :=
  countP_pos_of_getElem? (Slot.owns stmt) con.slots index ⟨command, .live⟩ found
    (by simp [Slot.owns, own])

section Steps
variable {db : DbHandle} {con : Connection}

theorem Owned.open_of_slot (state : Owned db con) (index : Nat) (command : Command)
    (phase : Phase) (found : con.slots[index]? = some ⟨command, phase⟩)
    (present : phase ≠ .dead) : con.handle = some db := by
  rcases state.handle with isOpen | ⟨_, _, dead⟩
  · exact isOpen
  · exact absurd (dead _ (List.mem_of_getElem? found)) present

theorem Owned.handle_of_isSome (state : Owned db con) (isOpen : con.handle.isSome) :
    con.handle = some db := by
  rcases state.handle with same | ⟨closed, _⟩
  · exact same
  · rw [closed] at isOpen
    cases isOpen

theorem Owned.stmt_none (state : Owned db con) (index : Nat) (command : Command)
    (phase : Phase) (found : con.slots[index]? = some ⟨command, phase⟩)
    (notLive : phase ≠ .live) : command.stmt = none :=
  state.quiet _ (List.mem_of_getElem? found) notLive

theorem opened_owned (db : DbHandle) (lengthLimit : Nat) (config : StatementCacheConfig) :
    Owned db (opened db lengthLimit config) := by
  refine ⟨⟨fun id => rfl, trivial, fun id stmt present => ?_, fun stmt member => ?_⟩,
    Or.inl rfl, fun slot member => ?_⟩
  · simp [opened] at present
  · cases member
  · cases member

theorem construct_owned (state : Owned db con) (isOpen : con.handle = some db) (sql : Text) :
    Owned db (con.construct sql) := by
  have same : ∀ id, (con.construct sql).owned id = con.owned id := by
    intro id
    have newSlot : Slot.owns id
        ⟨⟨sql, none, 0⟩, if isSchemaChangingStatement sql then .clearing else .acquiring⟩ =
          false := by
      simp [Slot.owns]
    simp only [owned, construct, List.countP_append, List.countP_singleton, newSlot]
    simp
  refine ⟨state.ledger.congr fun id => ?_, Or.inl isOpen, fun slot member notLive => ?_⟩
  · rw [same id]
    rfl
  · rcases List.mem_append.mp member with old | new
    · exact state.quiet slot old notLive
    · rw [List.mem_singleton.mp new]

theorem clearStatementCache_owned (state : Owned db con) : Owned db con.clearStatementCache :=
  ⟨con.cache.ledger_clear con.owned state.ledger,
    state.handle.imp id fun ⟨closed, _, dead⟩ => ⟨closed, rfl, dead⟩, state.quiet⟩

theorem configureStatementCache_owned (state : Owned db con) (config : StatementCacheConfig) :
    Owned db (con.configureStatementCache config) :=
  ⟨con.cache.ledger_clear con.owned state.ledger,
    state.handle.imp id fun ⟨closed, _, dead⟩ => ⟨closed, rfl, dead⟩, state.quiet⟩

theorem setSlot_owned (state : Owned db con) (index : Nat) (command : Command)
    (phase after : Phase) (found : con.slots[index]? = some ⟨command, phase⟩)
    (before : phase ≠ .live ∧ phase ≠ .dead) (notLive : after ≠ .live) :
    Owned db (con.setSlot index command after) := by
  have absent := state.stmt_none index command phase found before.1
  refine ⟨state.ledger.congr fun id => ?_,
    Or.inl (state.open_of_slot index command phase found before.2),
    quiet_setSlot index command after con state.quiet fun _ => absent⟩
  have moved := owned_setSlot index command command phase after con found id
  rw [owns_other id command phase before.1, owns_other id command after notLive] at moved
  have sameCache : (con.setSlot index command after).cached id = con.cached id := rfl
  simp only [Bool.false_eq_true, if_false, Nat.add_zero] at moved
  rw [moved, sameCache]

theorem acquire_owned (state : Owned db con) (index : Nat) (command : Command)
    (found : con.slots[index]? = some ⟨command, .acquiring⟩) :
    Owned db (con.acquire index command) := by
  have isOpen := state.open_of_slot index command .acquiring found (by decide)
  have absent := state.stmt_none index command .acquiring found (by decide)
  obtain ⟨ledger, _⟩ := con.cache.ledger_acquire command.sql con.owned state.ledger
  rw [acquire, acquireCachedStatement_of_open command.sql con db isOpen]
  generalize con.cache.acquire db command.sql con.sqlite = result at ledger ⊢
  obtain ⟨cache, sqlite, stmt⟩ := result
  cases stmt with
  | none =>
      have taken : Owned db { con with cache := cache, sqlite := sqlite } :=
        ⟨ledger, Or.inl isOpen, state.quiet⟩
      exact setSlot_owned taken index command .acquiring .preparing found
        ⟨by decide, by decide⟩ (by decide)
  | some stmt =>
      refine ⟨ledger.congr fun id => ?_, Or.inl isOpen,
        quiet_setSlot index _ .live con state.quiet fun notLive => absurd rfl notLive⟩
      have moved := owned_setSlot index command { command with stmt := some stmt }
        .acquiring .live con found id
      rw [owns_other id command .acquiring (by decide), owns_live] at moved
      simp only [Bool.false_eq_true, if_false, Nat.add_zero] at moved
      change (con.setSlot index { command with stmt := some stmt } .live).owned id +
        cache.holds id = _
      rw [moved]
      dsimp only
      omega

theorem prepare_owned (state : Owned db con) (index : Nat) (command : Command)
    (compiled : Compiled) (found : con.slots[index]? = some ⟨command, .preparing⟩) :
    Owned db (con.prepare db index command compiled) := by
  have isOpen := state.open_of_slot index command .preparing found (by decide)
  have absent := state.stmt_none index command .preparing found (by decide)
  cases compiled with
  | error code =>
      exact setSlot_owned state index command .preparing .dead found
        ⟨by decide, by decide⟩ (by decide)
  | empty =>
      refine ⟨state.ledger.congr fun id => ?_, Or.inl isOpen,
        quiet_setSlot index _ .live con state.quiet fun notLive => absurd rfl notLive⟩
      have moved := owned_setSlot index command { command with stmt := none }
        .preparing .live con found id
      rw [owns_other id command .preparing (by decide), owns_live] at moved
      simp only [Bool.false_eq_true, if_false, Nat.add_zero, inHand_none] at moved
      change (con.setSlot index { command with stmt := none } .live).owned id +
        con.cached id = _
      rw [moved]
  | statement parameters =>
      have ledger := state.ledger.prepare command.sql parameters
      refine ⟨ledger.congr fun id => ?_, Or.inl isOpen,
        quiet_setSlot index _ .live con state.quiet fun notLive => absurd rfl notLive⟩
      have moved := owned_setSlot index command
        { command with stmt := some con.sqlite.stmts.length } .preparing .live con found id
      rw [owns_other id command .preparing (by decide), owns_live] at moved
      simp only [Bool.false_eq_true, if_false, Nat.add_zero] at moved
      change (con.setSlot index { command with stmt := some con.sqlite.stmts.length }
        .live).owned id + con.cached id = _
      rw [moved, inHand]
      simp only [Option.some.injEq, eq_comm (a := id)]
      omega

theorem use_owned (state : Owned db con) (index : Nat) (command : Command) (op : CommandOp)
    (answer : StepCall → ResultCode) (found : con.slots[index]? = some ⟨command, .live⟩) :
    Owned db (con.use answer index command op) := by
  have isOpen := state.open_of_slot index command .live found (by decide)
  have keeps := op.run_keeps answer (con.session command)
  have ledger : Ledger db (fun id => con.owned id + con.cached id)
      (op.run answer (con.session command)).1.sqlite := by
    cases own : command.stmt with
    | none =>
        rw [keeps.idle own]
        exact state.ledger
    | some stmt =>
        have holds := owned_pos index command con found stmt own
        exact state.ledger.uses (Nat.lt_of_lt_of_le holds (Nat.le_add_right _ _))
          (keeps.uses stmt own)
  refine ⟨ledger.congr fun id => ?_, Or.inl isOpen,
    quiet_setSlot index _ .live con state.quiet fun notLive => absurd rfl notLive⟩
  have moved := owned_setSlot index command (op.run answer (con.session command)).1.command
    .live .live con found id
  rw [owns_live, owns_live, keeps.stmt] at moved
  have same := Nat.add_right_cancel moved
  change (con.setSlot index (op.run answer (con.session command)).1.command .live).owned id +
    con.cached id = _
  rw [same]

theorem destroy_owned (state : Owned db con) (index : Nat) (command : Command)
    (found : con.slots[index]? = some ⟨command, .live⟩) :
    Owned db (con.destroy index command) := by
  have isOpen := state.open_of_slot index command .live found (by decide)
  have moved := owned_setSlot index command { command with stmt := none } .live .dead con found
  have quiet := quiet_setSlot index { command with stmt := none } .dead con state.quiet
    fun _ => rfl
  rw [destroy]
  cases own : command.stmt with
  | none =>
      rw [finalize_of_none command con own]
      refine ⟨state.ledger.congr fun id => ?_, Or.inl isOpen, quiet⟩
      have here := moved id
      rw [owns_live, owns_other _ _ _ (by decide : Phase.dead ≠ .live), own] at here
      simp only [inHand_none, Bool.false_eq_true, if_false, Nat.add_zero] at here
      change (con.setSlot index { command with stmt := none } .dead).owned id +
        con.cached id = _
      rw [here]
  | some stmt =>
      have released : ∀ id,
          (con.setSlot index { command with stmt := none } .dead).owned id +
            inHand (some stmt) id = con.owned id := by
        intro id
        have here := moved id
        rw [owns_live, owns_other _ _ _ (by decide : Phase.dead ≠ .live), own] at here
        simpa only [Bool.false_eq_true, if_false, Nat.add_zero] using here
      rw [finalize_of_some command con db isOpen stmt own]
      by_cases schemaChange : isSchemaChangingStatement command.sql = true
      · rw [if_pos schemaChange]
        have holds := owned_pos index command con found stmt own
        have freed := state.ledger.finalize (Nat.lt_of_lt_of_le holds (Nat.le_add_right _ _))
        refine ⟨freed.congr fun id => ?_, Or.inl isOpen, quiet⟩
        have here := released id
        rw [inHand] at here
        simp only [Option.some.injEq, eq_comm (a := stmt)] at here
        change (con.setSlot index { command with stmt := none } .dead).owned id +
          con.cached id = _
        omega
      · rw [if_neg schemaChange, releaseCachedStatement_of_open command.sql stmt con db isOpen]
        have before : Ledger db (fun id =>
            (con.setSlot index { command with stmt := none } .dead).owned id +
              con.cache.holds id + inHand (some stmt) id) con.sqlite :=
          state.ledger.congr fun id => by
            have here := released id
            have same : con.cached id = con.cache.holds id := rfl
            omega
        have after := con.cache.ledger_release command.sql stmt
          (con.setSlot index { command with stmt := none } .dead).owned before
        exact ⟨after, Or.inl isOpen, quiet⟩

/-- Once no command is left, closing finds nothing but finalized statements. -/
theorem close_owned (state : Owned db con) (isOpen : con.handle = some db)
    (dead : ∀ slot ∈ con.slots, slot.phase = .dead) :
    Owned db con.close.1 ∧ con.close.1.handle = none := by
  have cleared := clearStatementCache_owned state
  have unowned : ∀ id, con.clearStatementCache.owned id = 0 := by
    intro id
    apply List.countP_eq_zero.mpr
    intro slot member
    simp [Slot.owns, dead slot member]
  have none : ∀ id, con.clearStatementCache.cached id = 0 := fun id => rfl
  have closes : sqlite3Close db con.clearStatementCache.sqlite = .ok := by
    rw [sqlite3Close, if_neg]
    intro busy
    obtain ⟨stmt, member, unfinished⟩ := List.any_eq_true.mp busy
    obtain ⟨id, present⟩ := List.mem_iff_getElem?.mp member
    have total := cleared.ledger.place id
    have bounded := (List.getElem?_eq_some_iff.mp present).1
    rw [unowned id, none id, if_pos bounded] at total
    have finished := (cleared.ledger.flag id stmt present).mpr (by omega)
    simp [finished] at unfinished
  have result : con.close.1 = { con.clearStatementCache with handle := Option.none } := by
    simp [close, isOpen, closes]
  rw [result]
  exact ⟨⟨cleared.ledger, Or.inr ⟨rfl, rfl, dead⟩, cleared.quiet⟩, rfl⟩

theorem step_owned (action : Action) (next : Connection) (state : Owned db con)
    (enabled : con.step action = some next) : Owned db next := by
  cases moved_of_step action enabled with
  | construct sql isOpen => exact construct_owned state (state.handle_of_isSome isOpen) sql
  | clearForSchema index command found =>
      exact setSlot_owned (clearStatementCache_owned state) index command .clearing .preparing
        found ⟨by decide, by decide⟩ (by decide)
  | acquire index command found => exact acquire_owned state index command found
  | prepare index compiled home command isOpen found =>
      have same := state.open_of_slot index command .preparing found (by decide)
      rw [isOpen] at same
      cases same
      exact prepare_owned state index command compiled found
  | use index op answer command found => exact use_owned state index command op answer found
  | destroy index command found => exact destroy_owned state index command found
  | configure config _ => exact configureStatementCache_owned state config
  | clearCache _ => exact clearStatementCache_owned state
  | close isOpen dead => exact (close_owned state (state.handle_of_isSome isOpen) dead).1

end Steps

theorem reached_owned (db : DbHandle) (con : Connection) (reached : Reached db con) :
    Owned db con := by
  obtain ⟨lengthLimit, config, reachable⟩ := reached
  exact reachable_invariant step (Owned db) _ con (opened_owned db lengthLimit config)
    (fun _ action next state enabled => step_owned action next state enabled) reachable

/-- In every reachable state each prepared statement is owned by one live command, or
stored in one cache entry, or has been finalized once; nothing happens to a statement
after it was finalized; and closing the connection, which is possible once no command
is left, succeeds and leaves every statement finalized once. -/
theorem statement_ownership_linear (db : DbHandle) (con : Connection)
    (reached : Reached db con) :
    (∀ id, id < con.sqlite.stmts.length →
      con.owned id + con.cached id + con.sqlite.freed id = 1) ∧
    (∀ id, con.sqlite.stmts.length ≤ id → con.owned id + con.cached id = 0) ∧
    Linear con.sqlite.log ∧
    (∀ closed, con.step .close = some closed → closed.handle = none ∧
      ∀ id, id < closed.sqlite.stmts.length → closed.sqlite.freed id = 1) := by
  have state := reached_owned db con reached
  refine ⟨fun id bounded => ?_, fun id beyond => ?_, state.ledger.linear,
    fun closed enabled => ?_⟩
  · have total := state.ledger.place id
    rwa [if_pos bounded] at total
  · have total := state.ledger.place id
    rw [if_neg (Nat.not_lt.mpr beyond)] at total
    exact (Nat.add_eq_zero_iff.mp total).1
  · have after := step_owned .close closed state enabled
    cases moved_of_step .close enabled with
    | close isOpen allDead =>
        have shut := (close_owned state (state.handle_of_isSome isOpen) allDead).2
        refine ⟨shut, fun id bounded => ?_⟩
        rcases after.handle with stillOpen | ⟨_, empty, dead⟩
        · rw [shut] at stillOpen
          cases stillOpen
        · have total := after.ledger.place id
          have unowned : con.close.1.owned id = 0 := by
            apply List.countP_eq_zero.mpr
            intro slot member
            simp [Slot.owns, dead slot member]
          have uncached : con.close.1.cached id = 0 := by
            rw [cached, Cache.holds, empty]
            rfl
          rwa [if_pos bounded, unowned, uncached, Nat.zero_add] at total

/-- Two overlapping commands on one text: the second one's statement finds the text
cached again and is finalized. -/
def overlappingRun : List Action :=
  [.construct (ascii "SELECT 1"), .construct (ascii "SELECT 1"), .acquire 0, .acquire 1,
    .prepare 0 (.statement []), .prepare 1 (.statement []),
    .use 0 .stepOnce (fun _ => .row), .destroy 0, .destroy 1]

theorem statement_ownership_linear_overlapping :
    ∃ con, exec step overlappingRun (opened 0 1000 {}) = some con ∧
      (∀ id, id < con.sqlite.stmts.length →
        con.owned id + con.cached id + con.sqlite.freed id = 1) ∧
      con.cached 0 = 1 ∧ con.sqlite.freed 1 = 1 :=
  ⟨_, rfl, (statement_ownership_linear 0 _ ⟨1000, {}, overlappingRun, rfl⟩).1,
    by decide, by decide⟩

end Connection
end VSQLite
