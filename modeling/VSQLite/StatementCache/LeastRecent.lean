import VSQLite.Command.Keyword
import VSQLite.Lib.Run
import VSQLite.Lib.Usage
import VSQLite.StatementCache.Calls

/-!
# What is evicted

`release` evicts the last entry of the list.  A text is used by an `acquire` that returns a
statement for it, and by a `release` of one, also where that finds the text cached.
-/

set_option autoImplicit false

namespace VSQLite
open Lib

/-- A cache, and the texts used so far, the newest use first. -/
structure CacheHistory where
  cache : StatementCache
  sqlite : Sqlite
  uses : List Text

namespace CacheHistory

def texts (history : CacheHistory) : List Text := history.cache.entries.map Prod.fst

def usedBy (returned : Option StmtId) : CacheCall → List Text
  | .acquire _ sql => if returned.isSome then [sql] else []
  | .release sql stmt => if stmt.isSome then [sql] else []
  | .clear => []
  | .reset _ => []

def step (history : CacheHistory) (call : CacheCall) : Option CacheHistory :=
  (history.cache.run history.sqlite call).map fun (next, used, returned) =>
    ⟨next, used, usedBy returned call ++ history.uses⟩

def start (config : StatementCacheConfig) (sqlite : Sqlite) : CacheHistory :=
  ⟨.construct config, sqlite, []⟩

/-- A release evicts none but the text whose last use is the oldest. -/
def EvictsOldest (history : CacheHistory) : CacheCall → Prop
  | .release sql stmt =>
      ∀ next, history.step (.release sql stmt) = some next →
        ∀ text ∈ history.texts, text ∉ next.texts →
          ∀ other ∈ history.texts, other ≠ text → UsedBefore history.uses text other
  | _ => True

def Ordered (history : CacheHistory) : Prop := ByLastUse history.uses history.texts

/-- A release that finds its text cached finds it in front. -/
def FindsInFront (history : CacheHistory) : CacheCall → Prop
  | .release sql (some _) => sql ∈ history.texts → history.texts.head? = some sql
  | _ => True

/-! ## One call -/

section Steps
variable {history : CacheHistory} (wellFormed : history.cache.WellFormed)
include wellFormed

theorem step_eq_some (call : CacheCall) (next : CacheHistory)
    (taken : history.step call = some next) :
    next.cache.WellFormed ∧ next.cache.entries = history.cache.entriesAfter call ∧
      ∃ returned, next.uses = usedBy returned call ++ history.uses := by
  obtain ⟨⟨cache, used, returned⟩, run, rfl⟩ := Option.map_eq_some_iff.mp taken
  obtain ⟨nextFormed, entries⟩ :=
    StatementCache.run_wellFormed _ _ call cache used returned wellFormed run
  exact ⟨nextFormed, entries, returned, rfl⟩

theorem release_texts (sql : Text) (stmt : StmtId) (next : CacheHistory)
    (taken : history.step (.release sql (some stmt)) = some next) :
    next.uses = sql :: history.uses ∧
      ((sql ∉ history.texts ∧ (next.texts = sql :: history.texts ∨
          next.texts = sql :: history.texts.dropLast)) ∨
        (next.texts = history.texts ∧ (sql ∈ history.texts ∨ history.texts = []))) := by
  obtain ⟨_, entries, returned, uses⟩ := step_eq_some wellFormed _ next taken
  refine ⟨uses, ?_⟩
  have texts : next.texts =
      (Recency.insert history.cache.limit sql stmt history.cache.entries).1.map Prod.fst := by
    rw [CacheHistory.texts, entries]
    rfl
  by_cases accepted : Recency.Accepts history.cache.limit sql history.cache.entries
  · have absent := (Recency.lookup_eq_none_iff sql history.cache.entries).mp accepted.2
    refine Or.inl ⟨absent, ?_⟩
    rw [texts, Recency.insert_of_accepts _ _ _ _ accepted]
    simp only [List.map_cons]
    split
    · right
      rw [List.map_dropLast]
      rfl
    · exact Or.inl rfl
  · refine Or.inr ⟨by rw [texts, Recency.insert_of_not_accepts _ _ _ _ accepted]; rfl, ?_⟩
    by_cases present : sql ∈ history.texts
    · exact Or.inl present
    · right
      have missing := (Recency.lookup_eq_none_iff sql history.cache.entries).mpr present
      have closed : history.cache.limit = 0 := by
        by_contra caching
        exact accepted ⟨Nat.pos_of_ne_zero caching, missing⟩
      rw [CacheHistory.texts, wellFormed.entries_eq_nil closed]
      rfl

theorem ordered_step (ordered : Ordered history) (call : CacheCall) (next : CacheHistory)
    (taken : history.step call = some next) : Ordered next ↔ FindsInFront history call := by
  have stays := step_eq_some wellFormed call next taken
  cases call with
  | acquire db sql =>
      obtain ⟨_, entries, returned, uses⟩ := stays
      refine ⟨fun _ => trivial, fun _ => ?_⟩
      have texts : next.texts = (Recency.erase sql history.cache.entries).map Prod.fst := by
        rw [CacheHistory.texts, entries]
        rfl
      have fewer : ByLastUse history.uses next.texts := by
        rw [texts]
        exact ordered.sublist (List.filter_sublist.map Prod.fst)
      have absent : sql ∉ next.texts := by
        rw [texts]
        intro member
        obtain ⟨entry, kept, same⟩ := List.mem_map.mp member
        exact ((Recency.mem_erase sql entry _).mp kept).2 same
      rw [Ordered, uses]
      cases returned with
      | none => exact fewer
      | some stmt => exact fewer.use_absent absent
  | release sql stmt =>
      cases stmt with
      | none =>
          obtain ⟨_, entries, returned, uses⟩ := stays
          refine ⟨fun _ => trivial, fun _ => ?_⟩
          rw [Ordered, CacheHistory.texts, entries, uses]
          exact ordered
      | some stmt =>
          obtain ⟨uses, cases_⟩ := release_texts wellFormed sql stmt next taken
          rw [Ordered, uses]
          rcases cases_ with ⟨absent, grown⟩ | ⟨same, present⟩
          · refine ⟨fun _ member => absurd member absent, fun _ => ?_⟩
            rcases grown with whole | evicted
            · rw [whole]
              exact ordered.use_front absent
            · rw [evicted]
              exact (ordered.sublist (List.dropLast_sublist _)).use_front
                fun member => absent (List.dropLast_subset _ member)
          · rw [same]
            rcases present with member | empty
            · have front := ordered.use_kept_iff wellFormed.keyed member
              exact ⟨fun after _ => front.mp after, fun found => front.mpr (found member)⟩
            · refine ⟨fun _ member => ?_, fun _ => ?_⟩
              · rw [empty] at member
                cases member
              · rw [empty]
                exact List.Pairwise.nil
  | clear =>
      obtain ⟨_, entries, returned, uses⟩ := stays
      refine ⟨fun _ => trivial, fun _ => ?_⟩
      rw [Ordered, CacheHistory.texts, entries]
      exact List.Pairwise.nil
  | reset config =>
      obtain ⟨_, entries, returned, uses⟩ := stays
      refine ⟨fun _ => trivial, fun _ => ?_⟩
      rw [Ordered, CacheHistory.texts, entries]
      exact List.Pairwise.nil

omit wellFormed in
theorem getLast?_of_not_mem_dropLast {text : Text} {texts : List Text} (member : text ∈ texts)
    (dropped : text ∉ texts.dropLast) : texts.getLast? = some text := by
  cases last : texts.getLast? with
  | none =>
      rw [List.getLast?_eq_none_iff.mp last] at member
      cases member
  | some found =>
      obtain ⟨front, rfl⟩ := List.getLast?_eq_some_iff.mp last
      rw [List.dropLast_concat] at dropped
      rcases List.mem_append.mp member with early | late
      · exact absurd early dropped
      · rw [List.mem_singleton.mp late]

theorem evictsOldest_of_ordered (ordered : Ordered history) (call : CacheCall) :
    EvictsOldest history call := by
  cases call with
  | release sql stmt =>
      intro next taken text cached gone other member different
      cases stmt with
      | none =>
          obtain ⟨_, entries, _⟩ := step_eq_some wellFormed _ next taken
          exfalso
          apply gone
          rw [CacheHistory.texts, entries]
          exact cached
      | some stmt =>
          obtain ⟨_, cases_⟩ := release_texts wellFormed sql stmt next taken
          have last : history.texts.getLast? = some text := by
            rcases cases_ with ⟨absent, whole | evicted⟩ | ⟨same, _⟩
            · rw [whole] at gone
              exact absurd (List.mem_cons_of_mem _ cached) gone
            · rw [evicted] at gone
              have notKept : text ∉ history.texts.dropLast :=
                fun member => gone (List.mem_cons_of_mem _ member)
              exact getLast?_of_not_mem_dropLast cached notKept
            · rw [same] at gone
              exact absurd cached gone
          exact ordered.oldest_last last other member different
  | _ => exact trivial

end Steps

/-- In every run in which a release that finds its text cached finds it in front, each eviction
takes the text whose last use is the oldest.  Exactly in these runs the list always stands in
the order of last uses. -/
theorem eviction_is_least_recent (config : StatementCacheConfig) (sqlite : Sqlite)
    (calls : List CacheCall) :
    (EveryStep step FindsInFront calls (start config sqlite) →
      EveryStep step EvictsOldest calls (start config sqlite)) ∧
    (EveryState step Ordered calls (start config sqlite) ↔
      EveryStep step FindsInFront calls (start config sqlite)) := by
  have formed : ∀ history call next, history.cache.WellFormed →
      step history call = some next → next.cache.WellFormed :=
    fun history call next wellFormed taken => (step_eq_some wellFormed call next taken).1
  constructor
  · refine everyStep_mono step (fun history => history.cache.WellFormed ∧ Ordered history)
      FindsInFront EvictsOldest ?_ ?_ calls _
      ⟨StatementCache.construct_wellFormed config, List.Pairwise.nil⟩
    · rintro history call next ⟨wellFormed, ordered⟩ inFront taken
      exact ⟨formed history call next wellFormed taken,
        (ordered_step wellFormed ordered call next taken).mpr inFront⟩
    · rintro history call next ⟨wellFormed, ordered⟩ _ _
      exact evictsOldest_of_ordered wellFormed ordered call
  · exact everyState_iff_everyStep step (fun history => history.cache.WellFormed) Ordered
      FindsInFront formed
      (fun history call next wellFormed ordered taken =>
        ordered_step wellFormed ordered call next taken)
      calls _ (StatementCache.construct_wellFormed config) List.Pairwise.nil

/-- Statement 2 for the text of statement 0 is released when that is cached, and then the text is
evicted although the other one was used before. -/
def releasedTwice : List CacheCall :=
  [.release (ascii "A") (some 0), .release (ascii "B") (some 1), .release (ascii "A") (some 2),
    .release (ascii "C") (some 3)]

theorem text_in_use_is_evicted :
    ∃ before after,
      exec step (releasedTwice.take 3) (start ⟨2, true⟩ ⟨[], 0, []⟩) = some before ∧
      before.uses = [ascii "A", ascii "B", ascii "A"] ∧
      before.texts = [ascii "B", ascii "A"] ∧
      step before (.release (ascii "C") (some 3)) = some after ∧
      after.texts = [ascii "C", ascii "B"] ∧
      ¬EveryStep step EvictsOldest releasedTwice (start ⟨2, true⟩ ⟨[], 0, []⟩) := by
  refine ⟨_, _, rfl, rfl, rfl, rfl, rfl, fun all => ?_⟩
  have evicts := (((all _ rfl).2 _ rfl).2 _ rfl).2 _ rfl
  have oldest := evicts.1 _ rfl (ascii "A") (by decide) (by decide) (ascii "B") (by decide)
    (by decide)
  revert oldest
  unfold UsedBefore
  decide

end CacheHistory
end VSQLite
