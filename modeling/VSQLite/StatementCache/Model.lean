import Mathlib.Logic.Function.Basic
import VSQLite.Lib.Recency
import VSQLite.Sqlite.Statement

/-!
# The statement cache

`statement_cache` with its two containers: the list `lru_`, whose nodes carry an
identity that an iterator can name, and the map `map_` from texts to iterators.
Dereferencing or erasing through an iterator that names no node, and `back()` of
an empty list, are undefined in the source and have no result here.
-/

set_option autoImplicit false

namespace VSQLite
open Lib

structure StatementCacheConfig where
  capacity : Nat := 32
  enabled : Bool := true
deriving DecidableEq, Repr

structure CacheEntry where
  sql : Text
  stmt : StmtId
deriving DecidableEq, Repr

structure StatementCache where
  config : StatementCacheConfig
  lru : List (Nat × CacheEntry)
  map : Text → Option Nat
  nextNode : Nat

namespace StatementCache

def construct (config : StatementCacheConfig) : StatementCache := ⟨config, [], fun _ => none, 0⟩

/-- The end of `acquire`, once the node of a cached statement has been taken out. -/
def checkout (db : DbHandle) (sql : Text) (stmt : StmtId) (sqlite : Sqlite) :
    Sqlite × Option StmtId :=
  let cleared := sqlite3ClearBindings stmt (sqlite3Reset (some stmt) sqlite)
  if sqlite3DbHandle stmt cleared ≠ some db then (sqlite3Finalize (some stmt) cleared, none)
  else (cleared.record (.handedOut stmt sql), some stmt)

def acquire (db : DbHandle) (sql : Text) (cache : StatementCache) (sqlite : Sqlite) :
    Option (StatementCache × Sqlite × Option StmtId) :=
  if !cache.config.enabled || cache.config.capacity == 0 then some (cache, sqlite, none)
  else
    match cache.map sql with
    | none => some (cache, sqlite, none)
    | some iterator =>
        match Recency.lookup iterator cache.lru with
        | none => none
        | some node =>
            some ({ cache with
              lru := Recency.erase iterator cache.lru
              map := Function.update cache.map sql none },
              checkout db sql node.stmt sqlite)

/-- Makes room when the list is full: the last node is finalized and unlinked. -/
def evict (cache : StatementCache) (sqlite : Sqlite) : Option (StatementCache × Sqlite) :=
  if cache.config.capacity ≤ cache.lru.length then
    match cache.lru.getLast? with
    | none => none
    | some (_, back) =>
        some ({ cache with
          lru := cache.lru.dropLast
          map := Function.update cache.map back.sql none },
          sqlite3Finalize (some back.stmt) sqlite)
  else some (cache, sqlite)

def pushFront (sql : Text) (stmt : StmtId) (cache : StatementCache) : StatementCache :=
  { cache with
    lru := (cache.nextNode, ⟨sql, stmt⟩) :: cache.lru
    map := Function.update cache.map sql (some cache.nextNode)
    nextNode := cache.nextNode + 1 }

def release (sql : Text) (stmt : Option StmtId) (cache : StatementCache) (sqlite : Sqlite) :
    Option (StatementCache × Sqlite) :=
  match stmt with
  | none => some (cache, sqlite3Finalize none sqlite)
  | some id =>
      if !cache.config.enabled || cache.config.capacity == 0 then
        some (cache, sqlite3Finalize (some id) sqlite)
      else if (cache.map sql).isSome then some (cache, sqlite3Finalize (some id) sqlite)
      else do
        let (roomy, evicted) ← evict cache sqlite
        some (roomy.pushFront sql id, evicted.record (.cached id sql))

def finalizeAll (stmts : List StmtId) (sqlite : Sqlite) : Sqlite :=
  stmts.foldl (fun sqlite stmt => sqlite3Finalize (some stmt) sqlite) sqlite

def clear (cache : StatementCache) (sqlite : Sqlite) : StatementCache × Sqlite :=
  ({ cache with lru := [], map := fun _ => none },
    finalizeAll (cache.lru.map fun node => node.2.stmt) sqlite)

def reset (config : StatementCacheConfig) (cache : StatementCache) (sqlite : Sqlite) :
    StatementCache × Sqlite :=
  ({ (cache.clear sqlite).1 with config := config }, (cache.clear sqlite).2)

/-! ## The list and the map agree -/

def limit (cache : StatementCache) : Nat :=
  if cache.config.enabled then cache.config.capacity else 0

/-- The cache as a bounded store of statements keyed by text. -/
def entries (cache : StatementCache) : List (Text × StmtId) :=
  cache.lru.map fun node => (node.2.sql, node.2.stmt)

structure WellFormed (cache : StatementCache) : Prop where
  nodes : Recency.Keyed cache.lru
  fresh : ∀ node ∈ cache.lru, node.1 < cache.nextNode
  keyed : Recency.Keyed cache.entries
  iterators : ∀ sql iterator, cache.map sql = some iterator ↔
    ∃ stmt, (iterator, ⟨sql, stmt⟩) ∈ cache.lru
  bounded : cache.lru.length ≤ cache.limit

theorem construct_wellFormed (config : StatementCacheConfig) : (construct config).WellFormed :=
  ⟨List.nodup_nil, fun _ member => (by cases member), List.nodup_nil,
    fun _ _ => by simp [construct], Nat.zero_le _⟩

theorem limit_eq_zero_iff (cache : StatementCache) :
    (!cache.config.enabled || cache.config.capacity == 0) = true ↔ cache.limit = 0 := by
  unfold limit
  cases cache.config.enabled <;> simp

theorem mem_entries (cache : StatementCache) (sql : Text) (stmt : StmtId) :
    (sql, stmt) ∈ cache.entries ↔ ∃ iterator, (iterator, ⟨sql, stmt⟩) ∈ cache.lru := by
  simp only [entries, List.mem_map, Prod.exists, Prod.mk.injEq]
  constructor
  · rintro ⟨iterator, entry, member, rfl, rfl⟩
    exact ⟨iterator, member⟩
  · rintro ⟨iterator, member⟩
    exact ⟨iterator, ⟨sql, stmt⟩, member, rfl, rfl⟩

theorem WellFormed.entries_eq_nil {cache : StatementCache} (wellFormed : cache.WellFormed)
    (closed : cache.limit = 0) : cache.entries = [] := by
  have short := wellFormed.bounded
  rw [closed, Nat.le_zero, List.length_eq_zero_iff] at short
  simp [entries, short]

theorem WellFormed.map_eq_none_iff {cache : StatementCache} (wellFormed : cache.WellFormed)
    (sql : Text) : cache.map sql = none ↔ Recency.lookup sql cache.entries = none := by
  rw [Recency.lookup_eq_none_iff]
  constructor
  · intro absent member
    obtain ⟨⟨key, stmt⟩, found, rfl⟩ := List.mem_map.mp member
    obtain ⟨iterator, node⟩ := (mem_entries cache key stmt).mp found
    rw [(wellFormed.iterators key iterator).mpr ⟨stmt, node⟩] at absent
    cases absent
  · intro absent
    cases found : cache.map sql with
    | none => rfl
    | some iterator =>
        obtain ⟨stmt, node⟩ := (wellFormed.iterators sql iterator).mp found
        exact absurd (List.mem_map_of_mem
          ((mem_entries cache sql stmt).mpr ⟨iterator, node⟩)) absent

theorem WellFormed.node_eq_iff {cache : StatementCache} (wellFormed : cache.WellFormed)
    {iterator : Nat} {entry : CacheEntry} (node : (iterator, entry) ∈ cache.lru)
    {other : Nat × CacheEntry} (member : other ∈ cache.lru) :
    other.1 = iterator ↔ other.2.sql = entry.sql := by
  obtain ⟨otherIterator, otherEntry⟩ := other
  constructor
  · intro same
    have first := Recency.lookup_of_mem iterator entry cache.lru wellFormed.nodes node
    have second := Recency.lookup_of_mem otherIterator otherEntry cache.lru wellFormed.nodes member
    dsimp only at same
    rw [same, first] at second
    exact congrArg CacheEntry.sql (Option.some.inj second).symm
  · intro same
    have first := (wellFormed.iterators entry.sql iterator).mpr ⟨entry.stmt, node⟩
    have second := (wellFormed.iterators otherEntry.sql otherIterator).mpr
      ⟨otherEntry.stmt, member⟩
    dsimp only at same
    rw [same, first] at second
    exact (Option.some.inj second).symm

theorem WellFormed.unlink {cache : StatementCache} (wellFormed : cache.WellFormed)
    {iterator : Nat} {entry : CacheEntry} (node : (iterator, entry) ∈ cache.lru) :
    let unlinked : StatementCache := { cache with
      lru := Recency.erase iterator cache.lru
      map := Function.update cache.map entry.sql none }
    unlinked.WellFormed ∧ unlinked.entries = Recency.erase entry.sql cache.entries := by
  intro unlinked
  have sameFilter : Recency.erase iterator cache.lru =
      cache.lru.filter fun other => other.2.sql ≠ entry.sql := by
    apply List.filter_congr
    intro other member
    simp only [ne_eq, decide_not, Bool.not_eq_eq_eq_not, Bool.not_not,
      decide_eq_decide]
    exact wellFormed.node_eq_iff node member
  have erased : unlinked.entries = Recency.erase entry.sql cache.entries := by
    change List.map _ (Recency.erase iterator cache.lru) = _
    rw [sameFilter]
    simp only [Recency.erase, entries, List.filter_map]
    rfl
  refine ⟨⟨Recency.keyed_erase _ _ wellFormed.nodes, ?_, ?_, ?_, ?_⟩, erased⟩
  · intro other member
    exact wellFormed.fresh other ((Recency.mem_erase _ _ _).mp member).1
  · rw [erased]
    exact Recency.keyed_erase _ _ wellFormed.keyed
  · intro sql found
    change Function.update cache.map entry.sql none sql = some found ↔
      ∃ stmt, (found, ⟨sql, stmt⟩) ∈ Recency.erase iterator cache.lru
    by_cases same : sql = entry.sql
    · subst same
      simp only [Function.update_self, sameFilter, List.mem_filter]
      simp
    · rw [Function.update_of_ne same, wellFormed.iterators sql found, sameFilter]
      simp [List.mem_filter, same]
  · exact Nat.le_trans (List.length_filter_le _ _) wellFormed.bounded

theorem WellFormed.pushFront {cache : StatementCache} (wellFormed : cache.WellFormed)
    (sql : Text) (stmt : StmtId) (absent : Recency.lookup sql cache.entries = none)
    (room : cache.lru.length < cache.limit) :
    (cache.pushFront sql stmt).WellFormed := by
  have newText := (Recency.lookup_eq_none_iff _ _).mp absent
  refine ⟨?_, ?_, ?_, ?_, ?_⟩
  · refine List.nodup_cons.mpr ⟨?_, wellFormed.nodes⟩
    intro member
    obtain ⟨node, inList, same⟩ := List.mem_map.mp member
    have older := wellFormed.fresh node inList
    omega
  · intro node member
    rcases List.mem_cons.mp member with rfl | old
    · exact Nat.lt_succ_self _
    · exact Nat.lt_succ_of_lt (wellFormed.fresh node old)
  · exact List.nodup_cons.mpr ⟨newText, wellFormed.keyed⟩
  · intro key iterator
    change Function.update cache.map sql (some cache.nextNode) key = some iterator ↔
      ∃ found, (iterator, ⟨key, found⟩) ∈ (cache.nextNode, ⟨sql, stmt⟩) :: cache.lru
    by_cases same : key = sql
    · subst same
      simp only [Function.update_self, Option.some.injEq, List.mem_cons, Prod.mk.injEq,
        CacheEntry.mk.injEq, true_and]
      constructor
      · rintro rfl
        exact ⟨stmt, Or.inl ⟨rfl, rfl⟩⟩
      · rintro ⟨found, ⟨rfl, _⟩ | old⟩
        · rfl
        · exact absurd (List.mem_map_of_mem
            ((mem_entries cache key found).mpr ⟨iterator, old⟩)) newText
    · rw [Function.update_of_ne same, wellFormed.iterators key iterator]
      simp [same]
  · exact room

theorem acquire_spec (db : DbHandle) (sql : Text) (cache : StatementCache) (sqlite : Sqlite)
    (wellFormed : cache.WellFormed) :
    ∃ taken : StatementCache, taken.WellFormed ∧ taken.config = cache.config ∧
      taken.entries = Recency.erase sql cache.entries ∧
      cache.acquire db sql sqlite = some (taken,
        match Recency.lookup sql cache.entries with
        | none => (sqlite, none)
        | some stmt => checkout db sql stmt sqlite) := by
  have miss : Recency.lookup sql cache.entries = none →
      Recency.erase sql cache.entries = cache.entries := fun absent =>
    Recency.erase_eq_self _ _ ((Recency.lookup_eq_none_iff _ _).mp absent)
  unfold acquire
  by_cases off : (!cache.config.enabled || cache.config.capacity == 0) = true
  · have empty := wellFormed.entries_eq_nil ((limit_eq_zero_iff cache).mp off)
    have absent : Recency.lookup sql cache.entries = none := by rw [empty]; rfl
    refine ⟨cache, wellFormed, rfl, (miss absent).symm, ?_⟩
    rw [if_pos off, absent]
  · rw [if_neg off]
    cases found : cache.map sql with
    | none =>
        have absent := (wellFormed.map_eq_none_iff sql).mp found
        exact ⟨cache, wellFormed, rfl, (miss absent).symm, by rw [absent]⟩
    | some iterator =>
        obtain ⟨stmt, node⟩ := (wellFormed.iterators sql iterator).mp found
        have dereferenced := Recency.lookup_of_mem _ _ _ wellFormed.nodes node
        have stored := Recency.lookup_of_mem sql stmt cache.entries wellFormed.keyed
          ((mem_entries cache sql stmt).mpr ⟨iterator, node⟩)
        obtain ⟨unlinked, erased⟩ := wellFormed.unlink node
        refine ⟨_, unlinked, rfl, erased, ?_⟩
        simp only [dereferenced, stored]

theorem evict_spec (cache : StatementCache) (sqlite : Sqlite) (wellFormed : cache.WellFormed)
    (caching : 0 < cache.limit) :
    ∃ roomy : StatementCache, roomy.WellFormed ∧ roomy.config = cache.config ∧
      roomy.lru.length < cache.limit ∧
      roomy.entries = (if cache.limit ≤ cache.entries.length then cache.entries.dropLast
        else cache.entries) ∧
      cache.evict sqlite = some (roomy, finalizeAll (if cache.limit ≤ cache.entries.length
        then (Recency.values cache.entries).getLast?.toList else []) sqlite) := by
  have sameLimit : cache.config.capacity = cache.limit := by
    unfold limit at caching ⊢
    split at caching
    · rename_i enabled
      rw [if_pos enabled]
    · cases caching
  have sameLength : cache.entries.length = cache.lru.length := by simp [entries]
  rw [evict, sameLimit, sameLength]
  by_cases full : cache.limit ≤ cache.lru.length
  · simp only [if_pos full]
    cases last : cache.lru.getLast? with
    | none =>
        rw [List.getLast?_eq_none_iff] at last
        rw [last, List.length_nil] at full
        omega
    | some node =>
        obtain ⟨iterator, back⟩ := node
        obtain ⟨front, whole⟩ := List.getLast?_eq_some_iff.mp last
        have member : (iterator, back) ∈ cache.lru := by simp [whole]
        have dropped : Recency.erase iterator cache.lru = cache.lru.dropLast := by
          have nodes := wellFormed.nodes
          simp only [Recency.Keyed, whole, List.map_append, List.map_cons, List.map_nil] at nodes
          have notInFront : iterator ∉ front.map Prod.fst := fun inFront =>
            (List.nodup_append.mp nodes).2.2 iterator inFront iterator (by simp) rfl
          have frontKept := Recency.erase_eq_self iterator front notInFront
          rw [whole, List.dropLast_concat]
          simpa [Recency.erase] using frontKept
        obtain ⟨unlinked, _⟩ := wellFormed.unlink member
        rw [dropped] at unlinked
        refine ⟨_, unlinked, rfl, ?_, ?_, ?_⟩
        · have positive : 0 < cache.lru.length := by omega
          have bounded := wellFormed.bounded
          simp only [List.length_dropLast]
          omega
        · simp [entries, List.map_dropLast]
        · have lastValue : (Recency.values cache.entries).getLast? = some back.stmt := by
            simp [Recency.values, entries, List.getLast?_map, last]
          simp [lastValue, finalizeAll]
  · simp only [if_neg full]
    exact ⟨cache, wellFormed, rfl, by omega, rfl, rfl⟩

theorem release_spec (sql : Text) (stmt : StmtId) (cache : StatementCache) (sqlite : Sqlite)
    (wellFormed : cache.WellFormed) :
    ∃ kept : StatementCache, kept.WellFormed ∧ kept.config = cache.config ∧
      kept.entries = (Recency.insert cache.limit sql stmt cache.entries).1 ∧
      cache.release sql (some stmt) sqlite = some (kept,
        let freed := finalizeAll (Recency.insert cache.limit sql stmt cache.entries).2 sqlite
        if Recency.Accepts cache.limit sql cache.entries then freed.record (.cached stmt sql)
        else freed) := by
  by_cases accepted : Recency.Accepts cache.limit sql cache.entries
  · have caching := accepted.1
    have absent := accepted.2
    obtain ⟨roomy, roomyFormed, config, room, remaining, evicted⟩ :=
      evict_spec cache sqlite wellFormed caching
    have notThere : Recency.lookup sql roomy.entries = none := by
      rw [Recency.lookup_eq_none_iff] at absent ⊢
      rw [remaining]
      split
      · exact fun member => absent (((List.dropLast_sublist _).map _).subset member)
      · exact absent
    have sameLimit : roomy.limit = cache.limit := by unfold limit; rw [config]
    have on : ¬(!cache.config.enabled || cache.config.capacity == 0) = true := by
      rw [limit_eq_zero_iff]
      omega
    have missing : ¬(cache.map sql).isSome = true := by
      rw [(wellFormed.map_eq_none_iff sql).mpr absent]
      exact Bool.false_ne_true
    refine ⟨roomy.pushFront sql stmt,
      roomyFormed.pushFront sql stmt notThere (by omega), config, ?_, ?_⟩
    · change (sql, stmt) :: roomy.entries = _
      rw [remaining, Recency.insert_of_accepts _ _ _ _ accepted]
    · simp only [release, if_neg on, if_neg missing, evicted, if_pos accepted,
        Recency.insert_of_accepts _ _ _ _ accepted]
      rfl
  · have refused := Recency.insert_of_not_accepts cache.limit sql stmt cache.entries accepted
    refine ⟨cache, wellFormed, rfl, by rw [refused], ?_⟩
    simp only [release, if_neg accepted, refused]
    by_cases off : (!cache.config.enabled || cache.config.capacity == 0) = true
    · rw [if_pos off]
      rfl
    · have present : (cache.map sql).isSome = true := by
        rw [limit_eq_zero_iff] at off
        rw [Option.isSome_iff_ne_none, ne_eq, wellFormed.map_eq_none_iff]
        exact fun absent => accepted ⟨Nat.pos_of_ne_zero off, absent⟩
      rw [if_neg off, if_pos present]
      rfl

theorem clear_wellFormed (cache : StatementCache) (sqlite : Sqlite) :
    (cache.clear sqlite).1.WellFormed :=
  ⟨List.nodup_nil, fun _ member => (by cases member), List.nodup_nil,
    fun _ _ => by simp [clear], Nat.zero_le _⟩

theorem reset_wellFormed (config : StatementCacheConfig) (cache : StatementCache)
    (sqlite : Sqlite) : (cache.reset config sqlite).1.WellFormed :=
  ⟨List.nodup_nil, fun _ member => (by cases member), List.nodup_nil,
    fun _ _ => by simp [reset, clear], Nat.zero_le _⟩

end StatementCache
end VSQLite
