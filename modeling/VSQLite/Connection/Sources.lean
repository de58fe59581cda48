import VSQLite.Connection.CacheContents

/-!
# Statements stay with their text

No piece changes what a statement was compiled from.  So a command owns a statement
of its own text, and the cache files a statement under the text it was compiled from.
-/

set_option autoImplicit false

namespace VSQLite
open Lib

namespace Connection

/-- Commands own, and the cache files under a text, only statements of that text. -/
structure Sourced (con : Connection) : Prop where
  commands : ∀ slot ∈ con.slots, ∀ id, slot.command.stmt = some id →
    con.sqlite.sourceOf id = some slot.command.sql
  cache : ∀ entry ∈ con.cache.entries, con.sqlite.sourceOf entry.2 = some entry.1

section Steps
variable {db : DbHandle} {con : Connection}

theorem acquireCachedStatement_result (state : Owned db con) (sql : Text) :
    (con.acquireCachedStatement sql).2 = Recency.lookup sql con.cache.entries := by
  rcases state.handle with isOpen | ⟨closed, empty, _⟩
  · rw [acquireCachedStatement_of_open sql con db isOpen]
    exact (con.cache.ledger_acquire sql con.owned state.ledger).2
  · rw [acquireCachedStatement, closed, empty]
    rfl

theorem step_compiledOf (state : Owned db con) (action : Action) (next : Connection)
    (enabled : con.step action = some next)
    (other : ∀ index compiled, action ≠ .prepare index compiled) (id : StmtId) :
    next.sqlite.compiledOf id = con.sqlite.compiledOf id := by
  have cleared : con.clearStatementCache.sqlite.compiledOf id = con.sqlite.compiledOf id := by
    rw [clearStatementCache, Cache.clear_result]
    exact compiledOf_finalizeAll _ _ id
  cases moved_of_step action enabled with
  | construct sql _ => rfl
  | clearForSchema index command _ => exact cleared
  | acquire index command found =>
      have isOpen := state.open_of_slot index command .acquiring found (by decide)
      obtain ⟨_, _, stmt, used⟩ := acquire_entries state index command isOpen
      exact used.compiled id
  | prepare index compiled home command _ _ => exact absurd rfl (other index compiled)
  | use index op answer command _ =>
      have keeps := op.run_keeps answer (con.session command)
      cases own : command.stmt with
      | none => exact congrArg (Sqlite.compiledOf id) (keeps.idle own)
      | some stmt => exact (keeps.uses stmt own).compiled id
  | destroy index command found =>
      have isOpen := state.open_of_slot index command .live found (by decide)
      rcases destroy_cases index command isOpen with
        ⟨_, _, sqlite⟩ | ⟨stmt, _, _, _, sqlite⟩ | ⟨stmt, _, _, _, sqlite⟩
      · rw [sqlite]
      · rw [sqlite, compiledOf_finalize]
      · rw [sqlite, Sqlite.compiledOf, Cache.release_stmts]
        exact compiledOf_finalizeAll _ _ id
  | configure config _ => exact cleared
  | clearCache _ => exact cleared
  | close isOpen _ =>
      rw [close_sqlite con isOpen]
      exact cleared

theorem prepare_sqlite (index : Nat) (command : Command) (compiled : Compiled) (home : DbHandle) :
    (con.prepare home index command compiled).sqlite =
      (sqlite3PrepareV2 home command.sql compiled con.sqlite).2.2 := by
  cases compiled <;> rfl

theorem step_compiled (state : Owned db con) (action : Action) (next : Connection)
    (enabled : con.step action = some next) (id : StmtId) (parts : Text × List (Option Text))
    (known : con.sqlite.compiledOf id = some parts) : next.sqlite.compiledOf id = some parts := by
  by_cases prepares : ∃ index compiled, action = .prepare index compiled
  · obtain ⟨index, compiled, rfl⟩ := prepares
    cases moved_of_step _ enabled with
    | prepare _ _ home command _ _ =>
        rw [prepare_sqlite]
        exact compiledOf_prepare home command.sql compiled con.sqlite id parts known
  · rw [step_compiledOf state action next enabled
      (fun index compiled same => prepares ⟨index, compiled, same⟩) id]
    exact known

theorem step_source (state : Owned db con) (action : Action) (next : Connection)
    (enabled : con.step action = some next) (id : StmtId) (source : Text)
    (known : con.sqlite.sourceOf id = some source) : next.sqlite.sourceOf id = some source := by
  rw [Sqlite.sourceOf_eq_compiledOf] at known ⊢
  obtain ⟨parts, compiled, same⟩ := Option.map_eq_some_iff.mp known
  rw [step_compiled state action next enabled id parts compiled, Option.map_some, same]

/-! ## Statements stay with their text -/

theorem opened_sourced (db : DbHandle) (lengthLimit : Nat) (config : StatementCacheConfig) :
    Sourced (opened db lengthLimit config) := by
  constructor
  · intro slot member
    cases member
  · intro entry member
    cases member

theorem commands_setSlot (sourced : Sourced con) (sqlite : Sqlite)
    (kept : ∀ id source, con.sqlite.sourceOf id = some source →
      sqlite.sourceOf id = some source)
    (index : Nat) (command : Command) (phase : Phase)
    (own : ∀ id, command.stmt = some id → sqlite.sourceOf id = some command.sql) :
    ∀ slot ∈ con.slots.set index ⟨command, phase⟩, ∀ id, slot.command.stmt = some id →
      sqlite.sourceOf id = some slot.command.sql := by
  intro slot member id holds
  rcases List.mem_or_eq_of_mem_set member with old | rfl
  · exact kept id _ (sourced.commands slot old id holds)
  · exact own id holds

theorem acquire_slots (state : Owned db con) (index : Nat) (command : Command) :
    ∃ stmt phase, (stmt = command.stmt ∨ stmt = Recency.lookup command.sql con.cache.entries) ∧
      (con.acquire index command).slots =
        con.slots.set index ⟨{ command with stmt := stmt }, phase⟩ := by
  have handed := acquireCachedStatement_result state command.sql
  have slots : (con.acquireCachedStatement command.sql).1.slots = con.slots := by
    unfold acquireCachedStatement
    split <;> rfl
  rw [acquire]
  generalize con.acquireCachedStatement command.sql = result at handed slots ⊢
  obtain ⟨taken, stmt⟩ := result
  cases stmt with
  | none =>
      refine ⟨command.stmt, .preparing, Or.inl rfl, ?_⟩
      change taken.slots.set index _ = _
      rw [slots]
  | some stmt =>
      refine ⟨some stmt, .live, Or.inr handed, ?_⟩
      change taken.slots.set index _ = _
      rw [slots]

theorem step_commands (state : Owned db con) (sourced : Sourced con) (action : Action)
    (next : Connection) (enabled : con.step action = some next) :
    ∀ slot ∈ next.slots, ∀ id, slot.command.stmt = some id →
      next.sqlite.sourceOf id = some slot.command.sql := by
  have kept := step_source state action next enabled
  have unmoved : next.slots = con.slots → ∀ slot ∈ next.slots, ∀ id,
      slot.command.stmt = some id → next.sqlite.sourceOf id = some slot.command.sql := by
    intro same slot member id holds
    rw [same] at member
    exact kept id _ (sourced.commands slot member id holds)
  cases moved_of_step action enabled with
  | construct sql _ =>
      intro slot member id holds
      rcases List.mem_append.mp member with old | new
      · exact sourced.commands slot old id holds
      · rw [List.mem_singleton.mp new] at holds
        cases holds
  | clearForSchema index command found =>
      exact commands_setSlot sourced _ kept index command .preparing fun id holds =>
        kept id _ (sourced.commands _ (List.mem_of_getElem? found) id holds)
  | acquire index command found =>
      obtain ⟨stmt, phase, origin, slots⟩ := acquire_slots state index command
      rw [slots]
      refine commands_setSlot sourced _ kept index _ phase fun id holds => kept id _ ?_
      rcases origin with own | cached
      · exact sourced.commands _ (List.mem_of_getElem? found) id (own ▸ holds)
      · have looked : Recency.lookup command.sql con.cache.entries = some id := cached ▸ holds
        exact sourced.cache (command.sql, id) (Recency.mem_of_lookup _ _ _ looked)
  | prepare index compiled home command _ found =>
      cases compiled with
      | error code =>
          exact commands_setSlot sourced _ kept index command .dead fun id holds =>
            kept id _ (sourced.commands _ (List.mem_of_getElem? found) id holds)
      | empty =>
          exact commands_setSlot sourced _ kept index _ .live fun id holds => by cases holds
      | statement parameters =>
          refine commands_setSlot sourced _ kept index _ .live fun id holds => ?_
          cases holds
          change ((con.sqlite.stmts ++ [_])[con.sqlite.stmts.length]?).map Stmt.source = _
          rw [List.getElem?_append_right (Nat.le_refl _), Nat.sub_self]
          rfl
  | use index op answer command found =>
      have keeps := op.run_keeps answer (con.session command)
      refine commands_setSlot sourced _ kept index _ .live fun id holds => ?_
      rw [keeps.stmt] at holds
      rw [keeps.sql]
      exact kept id _ (sourced.commands _ (List.mem_of_getElem? found) id holds)
  | destroy index command found =>
      intro slot member
      have moved : slot ∈ con.slots.set index ⟨{ command with stmt := none }, .dead⟩ :=
        (finalize_frame command con).2 ▸ member
      exact commands_setSlot sourced _ kept index _ .dead (fun id holds => by cases holds)
        slot moved
  | configure config _ => exact unmoved rfl
  | clearCache _ => exact unmoved rfl
  | close _ _ => exact unmoved (close_slots con)

theorem step_sourced (state : Owned db con) (sourced : Sourced con) (action : Action)
    (next : Connection) (enabled : con.step action = some next) : Sourced next := by
  refine ⟨step_commands state sourced action next enabled, fun entry member => ?_⟩
  apply step_source state action next enabled
  rcases (step_entries state action next enabled entry member).1 with old | stores
  · exact sourced.cache entry old
  · obtain ⟨index, command, rfl, found, same, own, _⟩ := stores
    rw [same]
    exact sourced.commands _ (List.mem_of_getElem? found) entry.2 own

theorem step_owned_sourced (state : Owned db con ∧ Sourced con) (action : Action)
    (next : Connection) (enabled : con.step action = some next) : Owned db next ∧ Sourced next :=
  ⟨step_owned action next state.1 enabled, step_sourced state.1 state.2 action next enabled⟩

end Steps

theorem reached_sourced (db : DbHandle) (con : Connection) (reached : Reached db con) :
    Owned db con ∧ Sourced con := by
  obtain ⟨lengthLimit, config, reachable⟩ := reached
  refine reachable_invariant step (fun con => Owned db con ∧ Sourced con) _ con
    ⟨opened_owned db lengthLimit config, opened_sourced db lengthLimit config⟩ ?_ reachable
  intro con action next state enabled
  exact step_owned_sourced state action next enabled

end Connection
end VSQLite
