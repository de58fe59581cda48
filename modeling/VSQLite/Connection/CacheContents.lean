import VSQLite.Connection.Ownership

/-!
# How the contents of the cache change

Which statements a piece leaves in the cache, what it does to them, and which text
a statement was compiled from.  The executions that change the schema are read off
the log.
-/

set_option autoImplicit false

namespace VSQLite
open Lib

def Sqlite.compiledOf (id : StmtId) (sqlite : Sqlite) : Option (Text × List (Option Text)) :=
  sqlite.stmts[id]?.map fun stmt => (stmt.source, stmt.parameters)

theorem Sqlite.compiledOf_eq (id : StmtId) (sqlite : Sqlite) :
    sqlite.compiledOf id = (sqlite.identityOf id).map fun parts => (parts.2.1, parts.2.2.1) := by
  simp [compiledOf, identityOf, Function.comp_def, Stmt.identity]

theorem Sqlite.sourceOf_eq_compiledOf (id : StmtId) (sqlite : Sqlite) :
    sqlite.sourceOf id = (sqlite.compiledOf id).map Prod.fst := by
  simp [compiledOf, sourceOf, Function.comp_def]

theorem Uses.compiled {id : StmtId} {before after : Sqlite} (uses : Uses id before after)
    (other : StmtId) : after.compiledOf other = before.compiledOf other := by
  rw [Sqlite.compiledOf_eq, uses.identity other, Sqlite.compiledOf_eq]

theorem compiledOf_finalizeAll (stmts : List StmtId) (sqlite : Sqlite) (id : StmtId) :
    (StatementCache.finalizeAll stmts sqlite).compiledOf id = sqlite.compiledOf id := by
  simp [Sqlite.compiledOf, StatementCache.finalizeAll_getElem?, Function.comp_def]

theorem compiledOf_finalize (stmt : StmtId) (sqlite : Sqlite) (id : StmtId) :
    (sqlite3Finalize (some stmt) sqlite).compiledOf id = sqlite.compiledOf id :=
  compiledOf_finalizeAll [stmt] sqlite id

theorem compiledOf_prepare (db : DbHandle) (source : Text) (compiled : Compiled)
    (sqlite : Sqlite) (id : StmtId) (parts : Text × List (Option Text))
    (known : sqlite.compiledOf id = some parts) :
    (sqlite3PrepareV2 db source compiled sqlite).2.2.compiledOf id = some parts := by
  cases compiled with
  | error code => exact known
  | empty => exact known
  | statement parameters =>
      obtain ⟨stmt, present, same⟩ := Option.map_eq_some_iff.mp known
      have bounded := (List.getElem?_eq_some_iff.mp present).1
      simp only [Sqlite.compiledOf, sqlite3PrepareV2, List.getElem?_append_left bounded, present,
        Option.map_some, same]

/-! ## Finalization and release -/

theorem finalizeAll_of_not_mem (stmts : List StmtId) (sqlite : Sqlite) (id : StmtId)
    (kept : id ∉ stmts) :
    (StatementCache.finalizeAll stmts sqlite).stmts[id]? = sqlite.stmts[id]? := by
  rw [StatementCache.finalizeAll_getElem?]
  cases sqlite.stmts[id]? with
  | none => rfl
  | some stmt => simp [kept]

namespace Cache

theorem release_stmts (sql : Text) (stmt : StmtId) (cache : Cache) (sqlite : Sqlite) :
    (cache.release sql stmt sqlite).2.stmts =
      (StatementCache.finalizeAll
        (Recency.insert cache.limit sql stmt cache.entries).2 sqlite).stmts := by
  rw [release_result]
  dsimp only
  split <;> rfl

theorem release_log (sql : Text) (stmt : StmtId) (cache : Cache) (sqlite : Sqlite) :
    ∃ fresh, (cache.release sql stmt sqlite).2.log = fresh ++ sqlite.log ∧
      ∀ event ∈ fresh, (∃ id, event = .finalized id) ∨ event = .cached stmt sql := by
  have finalizedOnly : ∀ event ∈ ((Recency.insert cache.limit sql stmt cache.entries).2.map
      Event.finalized).reverse, ∃ id, event = .finalized id := by
    intro event member
    obtain ⟨id, _, same⟩ := List.mem_map.mp (List.mem_reverse.mp member)
    exact ⟨id, same.symm⟩
  rw [release_result]
  dsimp only
  split
  · refine ⟨.cached stmt sql :: _, congrArg _ (StatementCache.finalizeAll_log _ _), ?_⟩
    intro event member
    rcases List.mem_cons.mp member with new | freed
    · exact Or.inr new
    · exact Or.inl (finalizedOnly event freed)
  · exact ⟨_, StatementCache.finalizeAll_log _ _,
      fun event member => Or.inl (finalizedOnly event member)⟩

theorem release_keeps {db : DbHandle} (sql : Text) (stmt : StmtId) (cache : Cache)
    (sqlite : Sqlite) (rest : StmtId → Nat)
    (ledger : Ledger db (fun id => rest id + cache.holds id + inHand (some stmt) id) sqlite)
    (entry : Text × StmtId) (member : entry ∈ (cache.release sql stmt sqlite).1.entries) :
    (cache.release sql stmt sqlite).2.stmts[entry.2]? = sqlite.stmts[entry.2]? := by
  rw [release_stmts]
  apply finalizeAll_of_not_mem
  intro freed
  have counted := Recency.count_insert cache.limit sql stmt entry.2 cache.entries
  rw [← release_entries sql stmt cache sqlite] at counted
  have stored : 0 < (Recency.values (cache.release sql stmt sqlite).1.entries).count entry.2 :=
    List.count_pos_iff.mpr (List.mem_map_of_mem member)
  have twice := List.count_pos_iff.mpr freed
  have once := ledger.held_le_one entry.2
  rw [← inHand_toList] at once
  simp only [Option.toList_some, Cache.holds] at once
  omega

end Cache

namespace Connection

/-- The piece is a destructor that puts its statement into the cache. -/
def Stores (con : Connection) (action : Action) (entry : Text × StmtId) : Prop :=
  ∃ index command, action = .destroy index ∧ con.slots[index]? = some ⟨command, .live⟩ ∧
    entry = (command.sql, entry.2) ∧ command.stmt = some entry.2 ∧
    isSchemaChangingStatement command.sql = false ∧
    Recency.Accepts con.cache.limit command.sql con.cache.entries

section Steps
variable {db : DbHandle} {con : Connection}

theorem Owned.cached_ne (state : Owned db con) (stmt : StmtId) (held : 0 < con.owned stmt)
    (entry : Text × StmtId) (member : entry ∈ con.cache.entries) : entry.2 ≠ stmt := by
  intro same
  have once := state.ledger.held_le_one stmt
  have stored : 0 < con.cached stmt :=
    List.count_pos_iff.mpr (same ▸ List.mem_map_of_mem (f := Prod.snd) member)
  omega

theorem acquire_entries (state : Owned db con) (index : Nat) (command : Command)
    (isOpen : con.handle = some db) :
    (con.acquire index command).cache.entries =
        Recency.erase command.sql con.cache.entries ∧
      (∀ entry ∈ (con.acquire index command).cache.entries,
        (con.acquire index command).sqlite.stmts[entry.2]? = con.sqlite.stmts[entry.2]?) ∧
      ∃ stmt, Uses stmt con.sqlite (con.acquire index command).sqlite := by
  have erased := con.cache.acquire_entries db command.sql con.sqlite
  have counted : ∀ stmt, (Recency.values (Recency.erase command.sql con.cache.entries)).count stmt +
      (Recency.lookup command.sql con.cache.entries).toList.count stmt =
        (Recency.values con.cache.entries).count stmt :=
    fun stmt => Recency.count_erase command.sql stmt con.cache.entries con.cache.keyed
  have looked := con.cache.acquire_result db command.sql con.sqlite
  have shape : (con.acquire index command).cache =
        (con.cache.acquire db command.sql con.sqlite).1 ∧
      (con.acquire index command).sqlite =
        (con.cache.acquire db command.sql con.sqlite).2.1 := by
    rw [acquire, acquireCachedStatement_of_open command.sql con db isOpen]
    cases (con.cache.acquire db command.sql con.sqlite).2.2 <;> exact ⟨rfl, rfl⟩
  rw [shape.1, shape.2, erased, looked]
  cases found : Recency.lookup command.sql con.cache.entries with
  | none => exact ⟨rfl, fun _ _ => rfl, 0, Uses.refl 0 con.sqlite⟩
  | some stmt =>
      have stored := Recency.mem_of_lookup command.sql stmt con.cache.entries found
      have holds : 0 < con.cached stmt :=
        List.count_pos_iff.mpr (List.mem_map_of_mem (f := Prod.snd) stored)
      obtain ⟨used, _⟩ := StatementCache.uses_checkout db command.sql stmt con.sqlite
        (state.ledger.handle_eq stmt (Nat.lt_of_lt_of_le holds (Nat.le_add_left _ _)))
      refine ⟨rfl, fun entry member => used.others entry.2 fun same => ?_, stmt, used⟩
      have taken := counted stmt
      have still : 0 < (Recency.values (Recency.erase command.sql con.cache.entries)).count
          stmt := List.count_pos_iff.mpr (same ▸ List.mem_map_of_mem (f := Prod.snd) member)
      have once := state.ledger.held_le_one stmt
      rw [found, inHand_toList, inHand_self] at taken
      have held : con.cached stmt = (Recency.values con.cache.entries).count stmt := rfl
      omega

theorem destroy_cases (index : Nat) (command : Command) (isOpen : con.handle = some db) :
    (command.stmt = none ∧ (con.destroy index command).cache = con.cache ∧
      (con.destroy index command).sqlite = con.sqlite) ∨
    (∃ stmt, command.stmt = some stmt ∧ isSchemaChangingStatement command.sql = true ∧
      (con.destroy index command).cache = con.cache ∧
      (con.destroy index command).sqlite = sqlite3Finalize (some stmt) con.sqlite) ∨
    (∃ stmt, command.stmt = some stmt ∧ isSchemaChangingStatement command.sql = false ∧
      (con.destroy index command).cache = (con.cache.release command.sql stmt con.sqlite).1 ∧
      (con.destroy index command).sqlite =
        (con.cache.release command.sql stmt con.sqlite).2) := by
  rw [destroy]
  cases own : command.stmt with
  | none =>
      rw [finalize_of_none command con own]
      exact Or.inl ⟨rfl, rfl, rfl⟩
  | some stmt =>
      rw [finalize_of_some command con db isOpen stmt own]
      by_cases schemaChange : isSchemaChangingStatement command.sql = true
      · rw [if_pos schemaChange]
        exact Or.inr (Or.inl ⟨stmt, rfl, schemaChange, rfl, rfl⟩)
      · rw [if_neg schemaChange, releaseCachedStatement_of_open command.sql stmt con db isOpen]
        exact Or.inr (Or.inr ⟨stmt, rfl, Bool.eq_false_iff.mpr schemaChange, rfl, rfl⟩)

theorem release_ledger (state : Owned db con) (index : Nat) (command : Command)
    (found : con.slots[index]? = some ⟨command, .live⟩) (stmt : StmtId)
    (own : command.stmt = some stmt) :
    Ledger db (fun id =>
      (con.setSlot index { command with stmt := none } .dead).owned id + con.cache.holds id +
        inHand (some stmt) id) con.sqlite := by
  refine state.ledger.congr fun id => ?_
  have moved := owned_setSlot index command { command with stmt := none } .live .dead con found id
  rw [owns_live, owns_other _ _ _ (by decide : Phase.dead ≠ .live), own] at moved
  have same : con.cached id = con.cache.holds id := rfl
  simp only [Bool.false_eq_true, if_false, Nat.add_zero] at moved
  omega

theorem destroy_entries (state : Owned db con) (index : Nat) (command : Command)
    (found : con.slots[index]? = some ⟨command, .live⟩) (entry : Text × StmtId)
    (member : entry ∈ (con.destroy index command).cache.entries) :
    (entry ∈ con.cache.entries ∨ Stores con (.destroy index) entry) ∧
      (con.destroy index command).sqlite.stmts[entry.2]? = con.sqlite.stmts[entry.2]? := by
  have isOpen := state.open_of_slot index command .live found (by decide)
  rcases destroy_cases index command isOpen with
    ⟨_, cache, sqlite⟩ | ⟨stmt, own, _, cache, sqlite⟩ | ⟨stmt, own, ordinary, cache, sqlite⟩
  · rw [cache] at member
    rw [sqlite]
    exact ⟨Or.inl member, rfl⟩
  · rw [cache] at member
    rw [sqlite]
    have held := owned_pos index command con found stmt own
    refine ⟨Or.inl member, finalizeAll_of_not_mem [stmt] con.sqlite entry.2 ?_⟩
    rw [List.mem_singleton]
    exact state.cached_ne stmt held entry member
  · rw [cache] at member
    rw [sqlite]
    refine ⟨?_, con.cache.release_keeps command.sql stmt con.sqlite _
      (release_ledger state index command found stmt own) entry member⟩
    rw [Cache.release_entries] at member
    rcases Recency.mem_insert _ _ _ _ entry member with old | ⟨new, accepted⟩
    · exact Or.inl old
    · subst new
      exact Or.inr ⟨index, command, rfl, found, rfl, own, ordinary, accepted⟩

theorem step_entries (state : Owned db con) (action : Action) (next : Connection)
    (enabled : con.step action = some next) (entry : Text × StmtId)
    (member : entry ∈ next.cache.entries) :
    (entry ∈ con.cache.entries ∨ Stores con action entry) ∧
      next.sqlite.stmts[entry.2]? = con.sqlite.stmts[entry.2]? := by
  cases moved_of_step action enabled with
  | construct sql _ => exact ⟨Or.inl member, rfl⟩
  | clearForSchema index command _ => cases member
  | acquire index command found =>
      have isOpen := state.open_of_slot index command .acquiring found (by decide)
      obtain ⟨entries, same, _⟩ := acquire_entries state index command isOpen
      refine ⟨Or.inl ?_, same entry member⟩
      rw [entries] at member
      exact ((Recency.mem_erase _ _ _).mp member).1
  | prepare index compiled home command _ _ =>
      cases compiled with
      | error code => exact ⟨Or.inl member, rfl⟩
      | empty => exact ⟨Or.inl member, rfl⟩
      | statement parameters =>
          have stored : entry ∈ con.cache.entries := member
          have bounded := state.ledger.lt_length entry.2 (Nat.lt_of_lt_of_le
            (List.count_pos_iff.mpr (List.mem_map_of_mem (f := Prod.snd) stored))
            (Nat.le_add_left _ _))
          exact ⟨Or.inl stored, List.getElem?_append_left bounded⟩
  | use index op answer command found =>
      have stored : entry ∈ con.cache.entries := member
      have keeps := op.run_keeps answer (con.session command)
      refine ⟨Or.inl stored, ?_⟩
      cases own : command.stmt with
      | none =>
          have idle := keeps.idle own
          exact congrArg (fun sqlite : Sqlite => sqlite.stmts[entry.2]?) idle
      | some stmt =>
          exact (keeps.uses stmt own).others entry.2
            (state.cached_ne stmt (owned_pos index command con found stmt own) entry stored)
  | destroy index command found => exact destroy_entries state index command found entry member
  | configure config _ => cases member
  | clearCache _ => cases member
  | close isOpen dead =>
      obtain ⟨after, closed⟩ := close_owned state (state.handle_of_isSome isOpen) dead
      rcases after.handle with stillOpen | ⟨_, empty, _⟩
      · rw [closed] at stillOpen
        cases stillOpen
      · rw [empty] at member
        cases member

theorem stores_entry (state : Owned db con) (action : Action) (next : Connection)
    (enabled : con.step action = some next) (entry : Text × StmtId)
    (stores : Stores con action entry) : entry ∈ next.cache.entries := by
  obtain ⟨index, command, rfl, found, same, own, ordinary, accepted⟩ := stores
  obtain ⟨other, at_, rfl⟩ := Option.map_eq_some_iff.mp enabled
  have again := (commandAt_eq_some _ _ _ _).mp at_
  rw [found] at again
  cases again
  have isOpen := state.open_of_slot index command .live found (by decide)
  rcases destroy_cases index command isOpen with
    ⟨absent, _⟩ | ⟨_, _, schemaChange, _⟩ | ⟨stmt, owned, _, cache, _⟩
  · rw [own] at absent
    cases absent
  · rw [ordinary] at schemaChange
    cases schemaChange
  · rw [own] at owned
    cases owned
    rw [cache, Cache.release_entries, same]
    exact Recency.mem_insert_new _ _ _ _ accepted

end Steps
end Connection
end VSQLite
