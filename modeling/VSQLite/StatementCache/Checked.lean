import VSQLite.StatementCache.Model

/-!
# Caches whose list and map agree

`Cache` is a statement cache together with the proof that its containers agree, so
its operations have a result on every input.  Each operation is the one of the
source; the specifications say what it does to the bounded store of statements
keyed by text that the two containers represent.
-/

set_option autoImplicit false

namespace VSQLite
open Lib

structure Cache where
  raw : StatementCache
  wellFormed : raw.WellFormed

namespace Cache

def construct (config : StatementCacheConfig) : Cache :=
  ⟨.construct config, StatementCache.construct_wellFormed config⟩

def entries (cache : Cache) : List (Text × StmtId) := cache.raw.entries

def limit (cache : Cache) : Nat := cache.raw.limit

def acquire (db : DbHandle) (sql : Text) (cache : Cache) (sqlite : Sqlite) :
    Cache × Sqlite × Option StmtId :=
  match result : cache.raw.acquire db sql sqlite with
  | some (taken, used) =>
      (⟨taken, by
        obtain ⟨expected, wellFormed, _, _, same⟩ :=
          StatementCache.acquire_spec db sql cache.raw sqlite cache.wellFormed
        rw [result] at same
        cases same
        exact wellFormed⟩, used)
  | none => absurd result (by
      obtain ⟨_, _, _, _, same⟩ :=
        StatementCache.acquire_spec db sql cache.raw sqlite cache.wellFormed
      rw [same]
      exact Option.some_ne_none _)

def release (sql : Text) (stmt : StmtId) (cache : Cache) (sqlite : Sqlite) : Cache × Sqlite :=
  match result : cache.raw.release sql (some stmt) sqlite with
  | some (kept, used) =>
      (⟨kept, by
        obtain ⟨expected, wellFormed, _, _, same⟩ :=
          StatementCache.release_spec sql stmt cache.raw sqlite cache.wellFormed
        rw [result] at same
        cases same
        exact wellFormed⟩, used)
  | none => absurd result (by
      obtain ⟨_, _, _, _, same⟩ :=
        StatementCache.release_spec sql stmt cache.raw sqlite cache.wellFormed
      rw [same]
      exact Option.some_ne_none _)

def clear (cache : Cache) (sqlite : Sqlite) : Cache × Sqlite :=
  (⟨(cache.raw.clear sqlite).1, StatementCache.clear_wellFormed cache.raw sqlite⟩,
    (cache.raw.clear sqlite).2)

def reset (config : StatementCacheConfig) (cache : Cache) (sqlite : Sqlite) : Cache × Sqlite :=
  (⟨(cache.raw.reset config sqlite).1, StatementCache.reset_wellFormed config cache.raw sqlite⟩,
    (cache.raw.reset config sqlite).2)

theorem keyed (cache : Cache) : Recency.Keyed cache.entries := cache.wellFormed.keyed

theorem raw_acquire (db : DbHandle) (sql : Text) (cache : Cache) (sqlite : Sqlite) :
    cache.raw.acquire db sql sqlite =
      some ((cache.acquire db sql sqlite).1.raw, (cache.acquire db sql sqlite).2) := by
  unfold acquire
  split
  · rename_i result
    exact result
  · rename_i result
    obtain ⟨_, _, _, _, same⟩ :=
      StatementCache.acquire_spec db sql cache.raw sqlite cache.wellFormed
    rw [same] at result
    cases result

theorem raw_release (sql : Text) (stmt : StmtId) (cache : Cache) (sqlite : Sqlite) :
    cache.raw.release sql (some stmt) sqlite =
      some ((cache.release sql stmt sqlite).1.raw, (cache.release sql stmt sqlite).2) := by
  unfold release
  split
  · rename_i result
    exact result
  · rename_i result
    obtain ⟨_, _, _, _, same⟩ :=
      StatementCache.release_spec sql stmt cache.raw sqlite cache.wellFormed
    rw [same] at result
    cases result

theorem acquire_entries (db : DbHandle) (sql : Text) (cache : Cache) (sqlite : Sqlite) :
    (cache.acquire db sql sqlite).1.entries = Recency.erase sql cache.entries := by
  obtain ⟨taken, _, _, erased, same⟩ :=
    StatementCache.acquire_spec db sql cache.raw sqlite cache.wellFormed
  rw [raw_acquire, Option.some.injEq, Prod.mk.injEq] at same
  rw [entries, same.1, erased]
  rfl

theorem acquire_limit (db : DbHandle) (sql : Text) (cache : Cache) (sqlite : Sqlite) :
    (cache.acquire db sql sqlite).1.limit = cache.limit := by
  obtain ⟨taken, _, config, _, same⟩ :=
    StatementCache.acquire_spec db sql cache.raw sqlite cache.wellFormed
  rw [raw_acquire, Option.some.injEq, Prod.mk.injEq] at same
  rw [limit, same.1, StatementCache.limit, config]
  rfl

theorem acquire_result (db : DbHandle) (sql : Text) (cache : Cache) (sqlite : Sqlite) :
    (cache.acquire db sql sqlite).2 =
      match Recency.lookup sql cache.entries with
      | none => (sqlite, none)
      | some stmt => StatementCache.checkout db sql stmt sqlite := by
  obtain ⟨_, _, _, _, same⟩ :=
    StatementCache.acquire_spec db sql cache.raw sqlite cache.wellFormed
  rw [raw_acquire, Option.some.injEq, Prod.mk.injEq] at same
  exact same.2

theorem release_entries (sql : Text) (stmt : StmtId) (cache : Cache) (sqlite : Sqlite) :
    (cache.release sql stmt sqlite).1.entries =
      (Recency.insert cache.limit sql stmt cache.entries).1 := by
  obtain ⟨_, _, _, kept, same⟩ :=
    StatementCache.release_spec sql stmt cache.raw sqlite cache.wellFormed
  rw [raw_release, Option.some.injEq, Prod.mk.injEq] at same
  rw [entries, same.1, kept]
  rfl

theorem release_limit (sql : Text) (stmt : StmtId) (cache : Cache) (sqlite : Sqlite) :
    (cache.release sql stmt sqlite).1.limit = cache.limit := by
  obtain ⟨_, _, config, _, same⟩ :=
    StatementCache.release_spec sql stmt cache.raw sqlite cache.wellFormed
  rw [raw_release, Option.some.injEq, Prod.mk.injEq] at same
  rw [limit, same.1, StatementCache.limit, config]
  rfl

theorem release_result (sql : Text) (stmt : StmtId) (cache : Cache) (sqlite : Sqlite) :
    (cache.release sql stmt sqlite).2 =
      let freed := StatementCache.finalizeAll
        (Recency.insert cache.limit sql stmt cache.entries).2 sqlite
      if Recency.Accepts cache.limit sql cache.entries then freed.record (.cached stmt sql)
      else freed := by
  obtain ⟨_, _, _, _, same⟩ :=
    StatementCache.release_spec sql stmt cache.raw sqlite cache.wellFormed
  rw [raw_release, Option.some.injEq, Prod.mk.injEq] at same
  exact same.2

theorem clear_result (cache : Cache) (sqlite : Sqlite) :
    (cache.clear sqlite).2 =
      StatementCache.finalizeAll (Recency.values cache.entries) sqlite := by
  simp [clear, StatementCache.clear, entries, StatementCache.entries, Recency.values,
    Function.comp_def]

end Cache

/-! ## The statements a cache operation reaches -/

namespace StatementCache

theorem finalizeAll_log (stmts : List StmtId) (sqlite : Sqlite) :
    (finalizeAll stmts sqlite).log = (stmts.map Event.finalized).reverse ++ sqlite.log := by
  induction stmts generalizing sqlite with
  | nil => rfl
  | cons stmt rest ih =>
      have tail := ih (sqlite3Finalize (some stmt) sqlite)
      simpa [finalizeAll, sqlite3Finalize, Sqlite.modify] using tail

theorem finalizeAll_lengthLimit (stmts : List StmtId) (sqlite : Sqlite) :
    (finalizeAll stmts sqlite).lengthLimit = sqlite.lengthLimit := by
  induction stmts generalizing sqlite with
  | nil => rfl
  | cons stmt rest ih => exact ih (sqlite3Finalize (some stmt) sqlite)

theorem finalizeAll_getElem? (stmts : List StmtId) (sqlite : Sqlite) (id : StmtId) :
    (finalizeAll stmts sqlite).stmts[id]? =
      sqlite.stmts[id]?.map fun stmt =>
        { stmt with finalized := stmt.finalized || decide (id ∈ stmts) } := by
  induction stmts generalizing sqlite with
  | nil =>
      cases found : sqlite.stmts[id]? with
      | none => simp [finalizeAll, found]
      | some stmt => simp [finalizeAll, found]
  | cons stmt rest ih =>
      have tail := ih (sqlite3Finalize (some stmt) sqlite)
      simp only [finalizeAll, List.foldl_cons] at tail ⊢
      rw [tail]
      simp only [sqlite3Finalize, Sqlite.modify, List.getElem?_modify]
      cases sqlite.stmts[id]? with
      | none => rfl
      | some found =>
          by_cases here : stmt = id
          · subst here
            simp
          · simp [here, Ne.symm here]

theorem checkout_cases (db : DbHandle) (sql : Text) (stmt : StmtId) (sqlite : Sqlite) :
    let cleared := sqlite3ClearBindings stmt (sqlite3Reset (some stmt) sqlite)
    (sqlite3DbHandle stmt sqlite = some db ∧
      checkout db sql stmt sqlite = (cleared.record (.handedOut stmt sql), some stmt)) ∨
    (sqlite3DbHandle stmt sqlite ≠ some db ∧
      checkout db sql stmt sqlite = (sqlite3Finalize (some stmt) cleared, none)) := by
  intro cleared
  have sameHandle : sqlite3DbHandle stmt cleared = sqlite3DbHandle stmt sqlite := by
    have identity := ((uses_reset stmt sqlite).trans (uses_clearBindings stmt _)).identity stmt
    have projected := congrArg (Option.map Prod.fst) identity
    simpa [sqlite3DbHandle, Sqlite.identityOf, Option.map_map, Function.comp_def,
      Stmt.identity] using projected
  by_cases own : sqlite3DbHandle stmt sqlite = some db
  · refine Or.inl ⟨own, ?_⟩
    rw [checkout, if_neg]
    rw [sameHandle]
    exact fun foreign => foreign own
  · refine Or.inr ⟨own, ?_⟩
    rw [checkout, if_pos]
    rw [sameHandle]
    exact own

theorem uses_checkout (db : DbHandle) (sql : Text) (stmt : StmtId) (sqlite : Sqlite)
    (own : sqlite3DbHandle stmt sqlite = some db) :
    Uses stmt sqlite (checkout db sql stmt sqlite).1 ∧
      (checkout db sql stmt sqlite).2 = some stmt := by
  rcases checkout_cases db sql stmt sqlite with ⟨_, result⟩ | ⟨foreign, _⟩
  · rw [result]
    exact ⟨((uses_reset stmt sqlite).trans (uses_clearBindings stmt _)).trans
      (uses_record stmt _ _ ⟨rfl, rfl, fun _ _ same => by cases same⟩), rfl⟩
  · exact absurd own foreign

end StatementCache
end VSQLite
