import VSQLite.Connection.CacheContents

/-!
# Executions that outlive their command

`statement_cache::release` stores a statement as it is; it is reset when it is next
handed out.  So a statement can be in the cache in the middle of an execution.  The
theorem here says exactly which destructors leave one there.
-/

set_option autoImplicit false

namespace VSQLite
open Lib

/-- The statement exists and has stopped at a row. -/
def Sqlite.midExecution (id : StmtId) (sqlite : Sqlite) : Bool :=
  match sqlite.stmts[id]? with
  | none => false
  | some stmt => !stmt.finalized && stmt.position.midExecution

namespace Connection

/-- Nothing in the cache is executing, and so whatever executes belongs to a command. -/
structure ExecutionsOwned (con : Connection) : Prop where
  cache : ∀ entry ∈ con.cache.entries, con.sqlite.midExecution entry.2 = false
  commands : ∀ id, con.sqlite.midExecution id = true → 0 < con.owned id

def StoresAtRest (con : Connection) (action : Action) : Prop :=
  ∀ entry, Stores con action entry → con.sqlite.midExecution entry.2 = false

theorem midExecution_congr (id : StmtId) (before after : Sqlite)
    (same : after.stmts[id]? = before.stmts[id]?) :
    after.midExecution id = before.midExecution id := by
  rw [Sqlite.midExecution, same, Sqlite.midExecution]

section Steps
variable {db : DbHandle} {con : Connection}

theorem executionsOwned_iff (state : Owned db con) :
    ExecutionsOwned con ↔
      ∀ entry ∈ con.cache.entries, con.sqlite.midExecution entry.2 = false := by
  refine ⟨ExecutionsOwned.cache, fun atRest => ⟨atRest, fun id running => ?_⟩⟩
  unfold Sqlite.midExecution at running
  split at running
  · cases running
  · rename_i stmt present
    simp only [Bool.and_eq_true, Bool.not_eq_eq_eq_not, Bool.not_true] at running
    have notFreed := (state.ledger.flag id stmt present).not.mp (by simp [running.1])
    have total := state.ledger.place id
    rw [if_pos (List.getElem?_eq_some_iff.mp present).1] at total
    by_contra unowned
    have stored : 0 < (Recency.values con.cache.entries).count id := by
      have same : con.cached id = (Recency.values con.cache.entries).count id := rfl
      omega
    obtain ⟨entry, member, same⟩ := List.mem_map.mp (List.count_pos_iff.mp stored)
    have rest := atRest entry member
    rw [same, Sqlite.midExecution, present] at rest
    simp [running.1, running.2] at rest

theorem executionsOwned_step (action : Action) (next : Connection) (state : Owned db con)
    (good : ExecutionsOwned con) (enabled : con.step action = some next) :
    ExecutionsOwned next ↔ StoresAtRest con action := by
  rw [executionsOwned_iff (step_owned action next state enabled)]
  constructor
  · intro atRest entry stores
    have member := stores_entry state action next enabled entry stores
    have unchanged := (step_entries state action next enabled entry member).2
    rw [← midExecution_congr entry.2 con.sqlite next.sqlite unchanged]
    exact atRest entry member
  · intro atRest entry member
    obtain ⟨origin, unchanged⟩ := step_entries state action next enabled entry member
    rw [midExecution_congr entry.2 con.sqlite next.sqlite unchanged]
    rcases origin with old | new
    · exact good.cache entry old
    · exact atRest entry new

end Steps

theorem opened_executionsOwned (db : DbHandle) (lengthLimit : Nat)
    (config : StatementCacheConfig) : ExecutionsOwned (opened db lengthLimit config) := by
  rw [executionsOwned_iff (opened_owned db lengthLimit config)]
  intro entry member
  cases member

/-- Along a run no cached statement is ever mid-execution exactly when no destructor of
the run hands the cache a statement that has stopped at a row and that the cache
keeps. -/
theorem executions_owned_iff_stored_at_rest (db : DbHandle) (lengthLimit : Nat)
    (config : StatementCacheConfig) (actions : List Action) :
    EveryState step ExecutionsOwned actions (opened db lengthLimit config) ↔
      EveryStep step StoresAtRest actions (opened db lengthLimit config) := by
  refine everyState_iff_everyStep step (Owned db) ExecutionsOwned StoresAtRest ?_ ?_ actions _
    (opened_owned db lengthLimit config) ?_
  · intro state action next owned enabled
    exact step_owned action next owned enabled
  · intro state action next owned good enabled
    exact executionsOwned_step action next owned good enabled
  · exact opened_executionsOwned db lengthLimit config

def abandonedQuery : List Action :=
  [.construct (ascii "SELECT x FROM t"), .acquire 0, .prepare 0 (.statement []),
    .use 0 .stepOnce (fun _ => .row), .destroy 0]

theorem abandoned_query_stays_in_execution :
    ∃ con, exec step abandonedQuery (opened 0 1000 {}) = some con ∧
      (ascii "SELECT x FROM t", 0) ∈ con.cache.entries ∧
      con.sqlite.midExecution 0 = true :=
  ⟨_, rfl, by decide, by decide⟩

end Connection
end VSQLite
