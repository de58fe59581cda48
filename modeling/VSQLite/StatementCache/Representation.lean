import VSQLite.Lib.Run
import VSQLite.StatementCache.Calls

/-!
# The list and the map of the cache

`lru_` and `map_` through every sequence of calls.  Between two calls the program may have done
anything with SQLite.
-/

set_option autoImplicit false

namespace VSQLite
open Lib

namespace StatementCache

def texts (cache : StatementCache) : List Text := cache.lru.map fun node => node.2.sql

/-- The two containers correspond one to one, as far as the configuration lets them grow. -/
structure Represented (cache : StatementCache) : Prop where
  nodes : (cache.lru.map Prod.fst).Nodup
  distinct : cache.texts.Nodup
  keys : ∀ sql, (cache.map sql).isSome = true ↔ sql ∈ cache.texts
  iterators : ∀ sql iterator, cache.map sql = some iterator →
    ∃ stmt, Recency.lookup iterator cache.lru = some ⟨sql, stmt⟩
  bounded : cache.lru.length ≤ cache.config.capacity
  off : cache.config.enabled = false ∨ cache.config.capacity = 0 → cache.lru = []

def call (cache : StatementCache) (made : Sqlite × CacheCall) : Option StatementCache :=
  (cache.run made.1 made.2).map Prod.fst

section Representation
variable {cache : StatementCache}

theorem texts_eq (cache : StatementCache) : cache.texts = cache.entries.map Prod.fst := by
  simp [texts, entries]

theorem limit_le_capacity (cache : StatementCache) : cache.limit ≤ cache.config.capacity := by
  unfold limit
  split
  · exact Nat.le_refl _
  · exact Nat.zero_le _

theorem WellFormed.isSome_iff (wellFormed : cache.WellFormed) (sql : Text) :
    (cache.map sql).isSome = true ↔ sql ∈ cache.texts := by
  rw [Option.isSome_iff_ne_none, ne_eq, wellFormed.map_eq_none_iff, Recency.lookup_eq_none_iff,
    Classical.not_not, texts_eq]

theorem WellFormed.dereferenced (wellFormed : cache.WellFormed) (sql : Text) (iterator : Nat)
    (found : cache.map sql = some iterator) :
    ∃ stmt, Recency.lookup iterator cache.lru = some ⟨sql, stmt⟩ := by
  obtain ⟨stmt, node⟩ := (wellFormed.iterators sql iterator).mp found
  exact ⟨stmt, Recency.lookup_of_mem iterator _ cache.lru wellFormed.nodes node⟩

theorem WellFormed.represented (wellFormed : cache.WellFormed) : cache.Represented := by
  refine ⟨wellFormed.nodes, ?_, wellFormed.isSome_iff, wellFormed.dereferenced,
    Nat.le_trans wellFormed.bounded cache.limit_le_capacity, ?_⟩
  · rw [texts_eq]
    exact wellFormed.keyed
  · intro off
    have closed : cache.limit = 0 := by
      unfold limit
      rcases off with disabled | nothing
      · rw [disabled]
        rfl
      · rw [nothing, ite_self]
    exact List.map_eq_nil_iff.mp (wellFormed.entries_eq_nil closed)

end Representation

theorem call_defined (cache : StatementCache) (made : Sqlite × CacheCall)
    (wellFormed : cache.WellFormed) :
    ∃ next, cache.call made = some next ∧ next.WellFormed ∧
      next.config = made.2.configured cache.config := by
  obtain ⟨next, _, _, run, nextFormed, current, _⟩ := run_spec cache made.1 made.2 wellFormed
  refine ⟨next, ?_, nextFormed, current⟩
  rw [call, run]
  rfl

/-- Whatever the calls, no iterator is used that names no entry and no last entry is taken of an
empty list, and the list and the map correspond, within the configuration given last. -/
theorem calls_represented (config : StatementCacheConfig) (calls : List (Sqlite × CacheCall)) :
    ∃ cache, exec call calls (construct config) = some cache ∧ cache.Represented ∧
      cache.config = calls.foldl (fun config made => made.2.configured config) config := by
  obtain ⟨cache, run, wellFormed, current⟩ := exec_total call WellFormed StatementCache.config
    (fun config made => made.2.configured config)
    (fun cache made wellFormed => call_defined cache made wellFormed)
    calls (construct config) (construct_wellFormed config)
  exact ⟨cache, run, wellFormed.represented, current⟩

end StatementCache
end VSQLite
