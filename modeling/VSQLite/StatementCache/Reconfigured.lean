import VSQLite.Command.Keyword
import VSQLite.Lib.Linearizable
import VSQLite.StatementCache.Calls

/-!
# Reconfiguration among threads

`acquire` and `release` test `config_` before they lock the mutex, and do not test it again
once they have it.  A `reset` of another thread may come between.
-/

set_option autoImplicit false

namespace VSQLite
open Lib

namespace StatementCache

def off (cache : StatementCache) : Bool := !cache.config.enabled || cache.config.capacity == 0

def acquireLocked (db : DbHandle) (sql : Text) (cache : StatementCache) (sqlite : Sqlite) :
    Option (StatementCache × Sqlite × Option StmtId) :=
  match cache.map sql with
  | none => some (cache, sqlite, none)
  | some iterator =>
      match Recency.lookup iterator cache.lru with
      | none => none
      | some node =>
          some ({ cache with
            lru := Recency.erase iterator cache.lru
            map := Function.update cache.map sql none },
            checkout db sql node.stmt sqlite)

def releaseLocked (sql : Text) (stmt : StmtId) (cache : StatementCache) (sqlite : Sqlite) :
    Option (StatementCache × Sqlite) :=
  if (cache.map sql).isSome then some (cache, sqlite3Finalize (some stmt) sqlite)
  else do
    let (roomy, evicted) ← evict cache sqlite
    some (roomy.pushFront sql stmt, evicted.record (.cached stmt sql))

theorem acquire_eq (db : DbHandle) (sql : Text) (cache : StatementCache) (sqlite : Sqlite) :
    cache.acquire db sql sqlite =
      if cache.off then some (cache, sqlite, none) else cache.acquireLocked db sql sqlite := rfl

theorem release_eq (sql : Text) (stmt : StmtId) (cache : StatementCache) (sqlite : Sqlite) :
    cache.release sql (some stmt) sqlite =
      if cache.off then some (cache, sqlite3Finalize (some stmt) sqlite)
      else cache.releaseLocked sql stmt sqlite := rfl

theorem off_iff (cache : StatementCache) : cache.off = true ↔ cache.limit = 0 :=
  limit_eq_zero_iff cache

end StatementCache

/-- The cache, and SQLite with what has been finalized. -/
abbrev CacheObject := StatementCache × Sqlite

namespace CacheObject

/-- A call with no other thread about. -/
def alone (object : CacheObject) (call : CacheCall) : Option (CacheObject × Option StmtId) :=
  (object.1.run object.2 call).map fun (cache, sqlite, returned) => ((cache, sqlite), returned)

/-- The test of `config_`, where the call returns with it; `clear` and `reset` lock at once. -/
def first (object : CacheObject) : CacheCall → Option (CacheObject × Option StmtId)
  | .acquire _ _ => if object.1.off then some (object, none) else none
  | .release _ stmt =>
      if object.1.off || stmt.isNone then
        some ((object.1, sqlite3Finalize stmt object.2), none)
      else none
  | .clear => some (object.1.clear object.2, none)
  | .reset config => some (object.1.reset config object.2, none)

/-- What follows once the mutex is locked. -/
def locked (object : CacheObject) : CacheCall → Option (CacheObject × Option StmtId)
  | .acquire db sql =>
      (object.1.acquireLocked db sql object.2).map fun (cache, sqlite, returned) =>
        ((cache, sqlite), returned)
  | .release sql (some stmt) =>
      (object.1.releaseLocked sql stmt object.2).map fun kept => (kept, none)
  | .release _ none => some (object, none)
  | .clear => some (object.1.clear object.2, none)
  | .reset config => some (object.1.reset config object.2, none)

/-- A statement is kept only by a cache that is on. -/
def KeepsWhileOn (object : CacheObject) : CacheCall → Prop
  | .release _ (some _) => 0 < object.1.limit
  | _ => True

theorem first_eq_alone (object : CacheObject) (call : CacheCall)
    (result : CacheObject × Option StmtId) (ended : object.first call = some result) :
    object.alone call = some result := by
  obtain ⟨cache, sqlite⟩ := object
  cases call with
  | acquire db sql =>
      simp only [first] at ended
      split at ended
      · rename_i off
        simp only [alone, StatementCache.run, StatementCache.acquire_eq, if_pos off]
        exact ended
      · cases ended
  | release sql stmt =>
      cases stmt with
      | none =>
          simp only [first, Option.isNone_none, Bool.or_true, if_true] at ended
          exact ended
      | some stmt =>
          simp only [first, Option.isNone_some, Bool.or_false] at ended
          split at ended
          · rename_i off
            simp only [alone, StatementCache.run, StatementCache.release_eq, if_pos off]
            exact ended
          · cases ended
  | clear => exact ended
  | reset config => exact ended

theorem locked_eq_alone (object : CacheObject) (wellFormed : object.1.WellFormed)
    (call : CacheCall) (on : object.KeepsWhileOn call) :
    object.locked call = object.alone call := by
  obtain ⟨cache, sqlite⟩ := object
  cases call with
  | acquire db sql =>
      simp only [locked, alone, StatementCache.run, StatementCache.acquire_eq]
      by_cases off : cache.off = true
      · have empty := wellFormed.entries_eq_nil (cache.off_iff.mp off)
        have missing : cache.map sql = none := by
          rw [wellFormed.map_eq_none_iff sql, empty]
          rfl
        rw [if_pos off, StatementCache.acquireLocked, missing]
      · rw [if_neg off]
  | release sql stmt =>
      cases stmt with
      | none => rfl
      | some stmt =>
          have caching : 0 < cache.limit := on
          have notOff : ¬cache.off = true := by
            rw [cache.off_iff]
            omega
          simp only [locked, alone, StatementCache.run, StatementCache.release_eq, if_neg notOff,
            Option.map_map]
          rfl
  | clear => rfl
  | reset config => rfl

theorem alone_wellFormed (object : CacheObject) (call : CacheCall) (next : CacheObject)
    (returned : Option StmtId) (wellFormed : object.1.WellFormed)
    (ran : object.alone call = some (next, returned)) : next.1.WellFormed := by
  obtain ⟨⟨cache, sqlite, value⟩, run, same⟩ := Option.map_eq_some_iff.mp ran
  cases same
  exact (StatementCache.run_wellFormed _ _ call cache sqlite returned wellFormed run).1

theorem alone_defined (object : CacheObject) (call : CacheCall) (wellFormed : object.1.WellFormed) :
    object.alone call ≠ none := by
  obtain ⟨_, _, _, run, _⟩ := StatementCache.run_spec object.1 object.2 call wellFormed
  simp [alone, run]

/-- The cache has been switched off between the test of a `release` and its lock: either the
last entry of an empty list is taken, or the statement stays in the cache. -/
theorem locked_of_off (object : CacheObject) (wellFormed : object.1.WellFormed) (sql : Text)
    (stmt : StmtId) (off : object.1.limit = 0) :
    object.locked (.release sql (some stmt)) = none ∨
      ∃ next : CacheObject, object.locked (.release sql (some stmt)) = some (next, none) ∧
        next.1.limit = 0 ∧ next.1.entries ≠ [] := by
  obtain ⟨cache, sqlite⟩ := object
  have empty := wellFormed.entries_eq_nil off
  have missing : cache.map sql = none := by
    rw [wellFormed.map_eq_none_iff sql, empty]
    rfl
  have noNodes : cache.lru = [] := List.map_eq_nil_iff.mp empty
  simp only [locked, StatementCache.releaseLocked, missing, Option.isSome_none,
    Bool.false_eq_true, if_false]
  by_cases full : cache.config.capacity ≤ 0
  · left
    simp [StatementCache.evict, noNodes, full]
  · right
    refine ⟨(cache.pushFront sql stmt, sqlite.record (.cached stmt sql)), ?_, off, ?_⟩
    · simp [StatementCache.evict, noNodes, full]
    · simp [StatementCache.entries, StatementCache.pushFront]

end CacheObject

/-- One cache, and the threads that call it. -/
abbrev SharedCache (Thread : Type) := Shared Thread CacheObject CacheCall (Option StmtId)

namespace SharedCache
open CacheObject

section Threads
variable {Thread : Type}

def start (config : StatementCacheConfig) (sqlite : Sqlite) : SharedCache Thread :=
  Shared.initial (.construct config, sqlite)

def Sound (shared : SharedCache Thread) : Prop :=
  shared.undefined = false ∧ (shared.object.1.limit = 0 → shared.object.1.entries = [])

/-- What the calls that have returned have done is what a sequential order of them does. -/
def LinearizableFrom (initial : CacheObject) (shared : SharedCache Thread) : Prop :=
  Linearizable alone initial shared.object shared.completed

/-- A `release` that has passed its test finds the cache on also when it has the mutex. -/
def LocksWhileOn : SharedCache Thread → ThreadStep Thread CacheCall → Prop :=
  Shared.Resumes KeepsWhileOn

/-- What a run keeps as long as the cache is on at every lock of a `release`. -/
structure Carried (initial : CacheObject) (shared : SharedCache Thread) : Prop where
  wellFormed : shared.object.1.WellFormed
  inOrder : shared.InOrder alone initial
  defined : shared.undefined = false

theorem linearizableFrom_wellFormed {initial : CacheObject} {shared : SharedCache Thread}
    (start : initial.1.WellFormed) (linearizable : LinearizableFrom initial shared) :
    shared.object.1.WellFormed :=
  linearizable.preserves alone (fun object => object.1.WellFormed)
    (fun object call next returned formed ran =>
      alone_wellFormed object call next returned formed ran) start

theorem Carried.good {initial : CacheObject} {shared : SharedCache Thread}
    (carried : Carried initial shared) : LinearizableFrom initial shared ∧ Sound shared :=
  ⟨carried.inOrder.linearizable, carried.defined, carried.wellFormed.entries_eq_nil⟩

variable [DecidableEq Thread]

def step : SharedCache Thread → ThreadStep Thread CacheCall → Option (SharedCache Thread) :=
  Shared.step first locked

section Steps
variable {initial : CacheObject} {shared next : SharedCache Thread}

theorem Carried.step (carried : Carried initial shared) (start : initial.1.WellFormed)
    (action : ThreadStep Thread CacheCall) (whileOn : LocksWhileOn shared action)
    (taken : shared.step action = some next) : Carried initial next := by
  have same : ∀ object call, (object.1.WellFormed ∧ KeepsWhileOn object call) →
      locked object call = alone object call := fun object call met =>
    locked_eq_alone object met.1 call met.2
  have resumes : shared.Resumes (fun object call =>
      object.1.WellFormed ∧ KeepsWhileOn object call) action :=
    whileOn.mono fun call on => ⟨carried.wellFormed, on⟩
  have inOrder : next.InOrder alone initial := by
    refine carried.inOrder.step first_eq_alone ?_ action resumes taken
    intro object call result met ended
    rw [← same object call met]
    exact ended
  refine ⟨linearizableFrom_wellFormed start inOrder.linearizable, inOrder, ?_⟩
  rw [Shared.step_defined_iff carried.defined action taken]
  refine resumes.mono fun call met => ?_
  rw [same shared.object call met]
  exact alone_defined shared.object call met.1

theorem Carried.lost (carried : Carried initial shared) (action : ThreadStep Thread CacheCall)
    (late : ¬LocksWhileOn shared action) (taken : shared.step action = some next) :
    ¬Sound next := by
  cases action with
  | start thread call => exact absurd trivial late
  | resume thread =>
      simp only [LocksWhileOn, Shared.Resumes, not_forall] at late
      obtain ⟨call, started, waits, switchedOff⟩ := late
      rw [SharedCache.step, Shared.step_resume carried.defined waits] at taken
      cases call with
      | release sql stmt =>
          cases stmt with
          | none => exact absurd trivial switchedOff
          | some stmt =>
              have off : shared.object.1.limit = 0 := Nat.eq_zero_of_not_pos switchedOff
              rcases locked_of_off shared.object carried.wellFormed sql stmt off with
                undefined | ⟨left, kept, stillOff, entries⟩
              · rw [undefined] at taken
                cases taken
                rintro ⟨defined, _⟩
                cases defined
              · rw [kept] at taken
                cases taken
                rintro ⟨_, empty⟩
                exact entries (empty stillOff)
      | _ => exact absurd trivial switchedOff

end Steps

/-- However the threads' steps interleave, a run is linearizable all along and never leaves an
entry in a cache that is off nor takes the last of an empty list, exactly if every `release`
that has passed its test finds the cache still on when it locks the mutex. -/
theorem linearizable_iff (config : StatementCacheConfig) (sqlite : Sqlite)
    (steps : List (ThreadStep Thread CacheCall)) :
    EveryState step
        (fun shared => LinearizableFrom (.construct config, sqlite) shared ∧ Sound shared)
        steps (start config sqlite) ↔
      EveryStep step LocksWhileOn steps (start config sqlite) := by
  have empty := StatementCache.construct_wellFormed config
  refine everyState_iff_of_carried step (Carried (.construct config, sqlite)) _ LocksWhileOn
    (fun shared carried => carried.good) ?_ ?_ steps _ ?_
  · intro shared action next carried whileOn taken
    exact carried.step empty action whileOn taken
  · intro shared action next carried late taken good
    exact carried.lost action late taken good.2
  · exact ⟨empty, Shared.inOrder_initial alone _, rfl⟩

end Threads

/-- Thread 0 has tested `config_` for its `release` when thread 1 switches the cache off. -/
def resetBetween (config : StatementCacheConfig) : List (ThreadStep Nat CacheCall) :=
  [.start 0 (.release (ascii "A") (some 0)), .start 1 (.reset config), .resume 0]

theorem release_after_reset :
    (∃ final : SharedCache Nat,
      exec step (resetBetween ⟨32, false⟩) (start ⟨32, true⟩ ⟨[], 0, []⟩) = some final ∧
        final.object.1.config = ⟨32, false⟩ ∧
        final.object.1.entries = [(ascii "A", 0)] ∧
        ¬LinearizableFrom (.construct ⟨32, true⟩, ⟨[], 0, []⟩) final) ∧
      ∃ final : SharedCache Nat,
        exec step (resetBetween ⟨0, true⟩) (start ⟨32, true⟩ ⟨[], 0, []⟩) = some final ∧
          final.undefined = true := by
  refine ⟨⟨_, rfl, rfl, rfl, fun linearizable => ?_⟩, _, rfl, rfl⟩
  have wellFormed := linearizableFrom_wellFormed
    (StatementCache.construct_wellFormed ⟨32, true⟩) linearizable
  cases wellFormed.entries_eq_nil rfl

end SharedCache
end VSQLite
