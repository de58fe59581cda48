import VSQLite.Command.Steps
import VSQLite.Connection.CacheContents

/-!
# What the pieces add to the log

Only the use of a command executes anything.
-/

set_option autoImplicit false

namespace VSQLite
open Lib

/-- The log grew by events that neither execute anything nor prepare a statement that
was there before. -/
def Stepless (before after : Sqlite) : Prop :=
  ∃ fresh, after.log = fresh ++ before.log ∧ (∀ event ∈ fresh, event.isStep = false) ∧
    ∀ id, id < before.stmts.length → Event.prepared id ∉ fresh

theorem stepless_refl (sqlite : Sqlite) : Stepless sqlite sqlite :=
  ⟨[], rfl, by simp, by simp⟩

theorem stepless_finalizeAll (stmts : List StmtId) (sqlite : Sqlite) :
    Stepless sqlite (StatementCache.finalizeAll stmts sqlite) := by
  refine ⟨_, StatementCache.finalizeAll_log stmts sqlite, fun event member => ?_,
    fun id _ member => ?_⟩
  · obtain ⟨_, _, rfl⟩ := List.mem_map.mp (List.mem_reverse.mp member)
    rfl
  · obtain ⟨_, _, same⟩ := List.mem_map.mp (List.mem_reverse.mp member)
    cases same

theorem stepless_release (sql : Text) (stmt : StmtId) (cache : Cache) (sqlite : Sqlite) :
    Stepless sqlite (cache.release sql stmt sqlite).2 := by
  obtain ⟨fresh, log, only⟩ := cache.release_log sql stmt sqlite
  refine ⟨fresh, log, fun event member => ?_, fun id _ member => ?_⟩
  · rcases only event member with ⟨_, rfl⟩ | rfl <;> rfl
  · rcases only _ member with ⟨_, same⟩ | same <;> cases same

theorem stepless_acquire (db : DbHandle) (sql : Text) (cache : Cache) (sqlite : Sqlite) :
    Stepless sqlite (cache.acquire db sql sqlite).2.1 := by
  rw [Cache.acquire_result]
  cases Recency.lookup sql cache.entries with
  | none => exact stepless_refl sqlite
  | some stmt =>
      dsimp only
      rcases StatementCache.checkout_cases db sql stmt sqlite with
        ⟨_, result⟩ | ⟨_, result⟩
      · rw [result]
        exact ⟨[.handedOut stmt sql, .clearedBindings stmt, .reset stmt], rfl,
          by simp [Event.isStep], by simp⟩
      · rw [result]
        exact ⟨[.finalized stmt, .clearedBindings stmt, .reset stmt], rfl,
          by simp [Event.isStep], by simp⟩

theorem stepless_prepare (db : DbHandle) (source : Text) (compiled : Compiled)
    (sqlite : Sqlite) : Stepless sqlite (sqlite3PrepareV2 db source compiled sqlite).2.2 := by
  cases compiled with
  | error code => exact stepless_refl sqlite
  | empty => exact stepless_refl sqlite
  | statement parameters =>
      refine ⟨[.prepared sqlite.stmts.length], rfl, by simp [Event.isStep],
        fun id bounded member => ?_⟩
      cases List.mem_singleton.mp member
      exact Nat.lt_irrefl _ bounded

namespace Connection

section Steps
variable {db : DbHandle} {con : Connection}

theorem step_stepless (state : Owned db con) (action : Action) (next : Connection)
    (enabled : con.step action = some next)
    (other : ∀ index op answer, action ≠ .use index op answer) :
    Stepless con.sqlite next.sqlite := by
  have cleared : Stepless con.sqlite con.clearStatementCache.sqlite := by
    rw [clearStatementCache, Cache.clear_result]
    exact stepless_finalizeAll _ _
  cases moved_of_step action enabled with
  | construct sql _ => exact stepless_refl _
  | clearForSchema index command _ => exact cleared
  | acquire index command found =>
      have isOpen := state.open_of_slot index command .acquiring found (by decide)
      have taken := stepless_acquire db command.sql con.cache con.sqlite
      rw [acquire, acquireCachedStatement_of_open command.sql con db isOpen]
      cases (con.cache.acquire db command.sql con.sqlite).2.2 <;> exact taken
  | prepare index compiled home command _ _ =>
      have prepared := stepless_prepare home command.sql compiled con.sqlite
      cases compiled <;> exact prepared
  | use index op answer command _ => exact absurd rfl (other index op answer)
  | destroy index command found =>
      have isOpen := state.open_of_slot index command .live found (by decide)
      rcases destroy_cases index command isOpen with
        ⟨_, _, sqlite⟩ | ⟨stmt, _, _, _, sqlite⟩ | ⟨stmt, _, _, _, sqlite⟩
      · rw [sqlite]
        exact stepless_refl _
      · rw [sqlite]
        exact stepless_finalizeAll [stmt] con.sqlite
      · rw [sqlite]
        exact stepless_release command.sql stmt con.cache con.sqlite
  | configure config _ => exact cleared
  | clearCache _ => exact cleared
  | close isOpen _ =>
      rw [close_sqlite con isOpen]
      exact cleared

theorem session_backed (state : Owned db con) (index : Nat) (command : Command)
    (found : con.slots[index]? = some ⟨command, .live⟩) : (con.session command).Backed := by
  intro id own
  have held := owned_pos index command con found id own
  obtain ⟨stmt, present, _⟩ :=
    state.ledger.found id (Nat.lt_of_lt_of_le held (Nat.le_add_right _ _))
  exact Option.isSome_of_mem present

end Steps
end Connection
end VSQLite
