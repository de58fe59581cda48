import VSQLite.StatementCache.Model

/-!
# Calls of the cache

The member functions of `statement_cache` as calls, and what a call does to the texts and
statements that are cached.
-/

set_option autoImplicit false

namespace VSQLite
open Lib

inductive CacheCall where
  | acquire (db : DbHandle) (sql : Text)
  | release (sql : Text) (stmt : Option StmtId)
  | clear
  | reset (config : StatementCacheConfig)
deriving DecidableEq, Repr

def CacheCall.configured (config : StatementCacheConfig) : CacheCall → StatementCacheConfig
  | .reset given => given
  | _ => config

namespace StatementCache

/-- The call, and the statement it returns; none for the null pointer, and for a function that
returns nothing. -/
def run (cache : StatementCache) (sqlite : Sqlite) :
    CacheCall → Option (StatementCache × Sqlite × Option StmtId)
  | .acquire db sql => cache.acquire db sql sqlite
  | .release sql stmt =>
      (cache.release sql stmt sqlite).map fun (kept, used) => (kept, used, none)
  | .clear => some ((cache.clear sqlite).1, (cache.clear sqlite).2, none)
  | .reset config =>
      some ((cache.reset config sqlite).1, (cache.reset config sqlite).2, none)

def entriesAfter (cache : StatementCache) : CacheCall → List (Text × StmtId)
  | .acquire _ sql => Recency.erase sql cache.entries
  | .release sql (some stmt) => (Recency.insert cache.limit sql stmt cache.entries).1
  | .release _ none => cache.entries
  | .clear => []
  | .reset _ => []

theorem run_spec (cache : StatementCache) (sqlite : Sqlite) (call : CacheCall)
    (wellFormed : cache.WellFormed) :
    ∃ next used returned, cache.run sqlite call = some (next, used, returned) ∧
      next.WellFormed ∧ next.config = call.configured cache.config ∧
      next.entries = cache.entriesAfter call := by
  cases call with
  | acquire db sql =>
      obtain ⟨taken, takenFormed, config, erased, same⟩ :=
        acquire_spec db sql cache sqlite wellFormed
      exact ⟨taken, _, _, same, takenFormed, config, erased⟩
  | release sql stmt =>
      cases stmt with
      | none => exact ⟨cache, sqlite, none, rfl, wellFormed, rfl, rfl⟩
      | some stmt =>
          obtain ⟨kept, keptFormed, config, entries, same⟩ :=
            release_spec sql stmt cache sqlite wellFormed
          have done := congrArg
            (Option.map fun (kept, used) => (kept, used, (none : Option StmtId))) same
          exact ⟨kept, _, none, done, keptFormed, config, entries⟩
  | clear => exact ⟨_, _, none, rfl, clear_wellFormed cache sqlite, rfl, rfl⟩
  | reset config => exact ⟨_, _, none, rfl, reset_wellFormed config cache sqlite, rfl, rfl⟩

theorem run_wellFormed (cache : StatementCache) (sqlite : Sqlite) (call : CacheCall)
    (next : StatementCache) (used : Sqlite) (returned : Option StmtId)
    (wellFormed : cache.WellFormed) (run : cache.run sqlite call = some (next, used, returned)) :
    next.WellFormed ∧ next.entries = cache.entriesAfter call := by
  obtain ⟨_, _, _, same, nextFormed, _, entries⟩ := run_spec cache sqlite call wellFormed
  rw [run] at same
  cases same
  exact ⟨nextFormed, entries⟩

end StatementCache
end VSQLite
