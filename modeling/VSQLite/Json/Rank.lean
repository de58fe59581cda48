import Mathlib.Algebra.BigOperators.Group.List.Basic
import Mathlib.Algebra.GroupWithZero.Nat
import Mathlib.Algebra.Order.BigOperators.Group.List
import Mathlib.Algebra.Order.Group.Nat

/-!
# The rank function

`simple_rank` counts the instances of every phrase of a full-text query in the current row.
FTS5 tells them one after the other; what it returns when it is asked for the first one of a
phrase is not looked at.
-/

set_option autoImplicit false

namespace VSQLite

/-- An instance of a phrase: its column, and its offset there. -/
structure PhraseInstance where
  column : Nat
  offset : Nat
deriving DecidableEq, Repr

/-- `Fts5PhraseIter`: the instances that have not been told yet. -/
abbrev PhraseIter := List PhraseInstance

/-- What FTS5 knows of the current row.  Where asking for the first instance of a phrase fails,
it stores nothing in the iterator, and the column is this one. -/
structure Fts5ExtensionApi where
  phraseCount : Nat
  phrase : Nat → Except Int (List PhraseInstance)

namespace Fts5ExtensionApi

/-- `xPhraseNext`, with what it stores in `col` and `off`. -/
def phraseNext : PhraseIter → PhraseIter × Int × Int
  | [] => ([], -1, -1)
  | found :: rest => (rest, found.column, found.offset)

/-- `xPhraseFirst`. -/
def phraseFirst (api : Fts5ExtensionApi) (phrase : Nat) (iter : Option PhraseIter) (off : Int) :
    Option PhraseIter × Int × Int :=
  match api.phrase phrase with
  | .error col => (iter, col, off)
  | .ok instances => (some (phraseNext instances).1, (phraseNext instances).2)

end Fts5ExtensionApi

/-- A call that has no result: its loop goes on after that many rounds, or it passes FTS5 an
iterator in which nothing was stored. -/
inductive RankFailure where
  | goesOn
  | iteratorUnset
deriving DecidableEq, Repr

/-- `2^53`, up to which a `double` is counted. -/
def doubleLimit : Nat := 9007199254740992

/-- `score += 1.0`. -/
def addOne (score : Nat) : Nat := if score < doubleLimit then score + 1 else score

/-- `while (col >= 0)`. -/
def phraseLoop : Nat → Option PhraseIter → Int → Nat → Except RankFailure Nat
  | 0, _, col, score => if col < 0 then .ok score else .error .goesOn
  | rounds + 1, iter, col, score =>
      if col < 0 then .ok score
      else
        match iter with
        | none => .error .iteratorUnset
        | some iter =>
            phraseLoop rounds (some (Fts5ExtensionApi.phraseNext iter).1)
              (Fts5ExtensionApi.phraseNext iter).2.1 (addOne score)

/-- `for (int i = 0; i < phrase_count; ++i)`, with as many phrases to go.  The iterator and both
numbers are new in each round. -/
def phrasesLoop (rounds : Nat) (api : Fts5ExtensionApi) :
    Nat → Nat → Nat → Except RankFailure Nat
  | 0, _, score => .ok score
  | left + 1, phrase, score =>
      (phraseLoop rounds (api.phraseFirst phrase none 0).1 (api.phraseFirst phrase none 0).2.1
        score).bind fun counted => phrasesLoop rounds api left (phrase + 1) counted

def simpleRank (rounds : Nat) (api : Fts5ExtensionApi) : Except RankFailure Nat :=
  phrasesLoop rounds api api.phraseCount 0 0

/-! ## What it counts -/

namespace Fts5ExtensionApi

/-- How many instances of the phrase FTS5 can tell. -/
def count (api : Fts5ExtensionApi) (phrase : Nat) : Nat :=
  match api.phrase phrase with
  | .error _ => 0
  | .ok instances => instances.length

/-- The loop over the instances of the phrase has an iterator, or is not entered. -/
def starts (api : Fts5ExtensionApi) (phrase : Nat) : Bool :=
  match api.phrase phrase with
  | .error col => decide (col < 0)
  | .ok _ => true

end Fts5ExtensionApi

theorem phraseLoop_counts (instances : List PhraseInstance) (rounds score : Nat)
    (enough : instances.length < rounds) (bounded : score ≤ doubleLimit) :
    phraseLoop rounds (some (Fts5ExtensionApi.phraseNext instances).1)
        (Fts5ExtensionApi.phraseNext instances).2.1 score =
      .ok (min (score + instances.length) doubleLimit) := by
  induction instances generalizing rounds score with
  | nil =>
      have kept : min score doubleLimit = score := Nat.min_eq_left bounded
      cases rounds with
      | zero => simp [phraseLoop, Fts5ExtensionApi.phraseNext, kept]
      | succ rounds => simp [phraseLoop, Fts5ExtensionApi.phraseNext, kept]
  | cons found rest ih =>
      cases rounds with
      | zero => cases enough
      | succ rounds =>
          have inColumn : ¬(found.column : Int) < 0 := by omega
          have one : addOne score ≤ doubleLimit ∧
              min (addOne score + rest.length) doubleLimit =
                min (score + (rest.length + 1)) doubleLimit := by
            unfold addOne
            split <;> omega
          have later := ih rounds (addOne score) (Nat.lt_of_succ_lt_succ enough) one.1
          rw [one.2] at later
          rw [Fts5ExtensionApi.phraseNext, phraseLoop, if_neg inColumn]
          exact later

theorem phraseLoop_phrase (api : Fts5ExtensionApi) (phrase rounds score : Nat)
    (enough : api.count phrase < rounds) (bounded : score ≤ doubleLimit) :
    phraseLoop rounds (api.phraseFirst phrase none 0).1 (api.phraseFirst phrase none 0).2.1 score =
      if api.starts phrase then .ok (min (score + api.count phrase) doubleLimit)
      else .error .iteratorUnset := by
  unfold Fts5ExtensionApi.phraseFirst Fts5ExtensionApi.starts
  unfold Fts5ExtensionApi.count at enough ⊢
  cases told : api.phrase phrase with
  | ok instances =>
      rw [told] at enough
      exact phraseLoop_counts instances rounds score enough bounded
  | error col =>
      cases rounds with
      | zero => cases enough
      | succ rounds =>
          dsimp only [phraseLoop]
          by_cases skipped : col < 0
          · simp [skipped, Nat.min_eq_left bounded]
          · simp [skipped]

theorem phrasesLoop_counts (api : Fts5ExtensionApi) (rounds left phrase score : Nat)
    (enough : ∀ other, phrase ≤ other → other < phrase + left → api.count other < rounds)
    (bounded : score ≤ doubleLimit) :
    phrasesLoop rounds api left phrase score =
      if (List.range' phrase left).all api.starts then
        .ok (min (score + ((List.range' phrase left).map api.count).sum) doubleLimit)
      else .error .iteratorUnset := by
  induction left generalizing phrase score with
  | zero =>
      have kept : min score doubleLimit = score := Nat.min_eq_left bounded
      simp [phrasesLoop, kept]
  | succ left ih =>
      have first := phraseLoop_phrase api phrase rounds score
        (enough phrase (Nat.le_refl _) (by omega)) bounded
      rw [phrasesLoop, first, List.range'_succ, List.all_cons, List.map_cons, List.sum_cons]
      cases starts : api.starts phrase with
      | false => rfl
      | true =>
          have later := ih (phrase + 1) (min (score + api.count phrase) doubleLimit)
            (fun other above below => enough other (by omega) (by omega)) (Nat.min_le_right _ _)
          have summed : min (min (score + api.count phrase) doubleLimit +
              ((List.range' (phrase + 1) left).map api.count).sum) doubleLimit =
                min
                  (score + (api.count phrase + ((List.range' (phrase + 1) left).map api.count).sum))
                  doubleLimit := by omega
          rw [summed] at later
          exact later

/-- How many instances the row has of all phrases. -/
def Fts5ExtensionApi.total (api : Fts5ExtensionApi) : Nat :=
  ((List.range api.phraseCount).map api.count).sum

/-- The score of a row is the number of instances of all phrases in it, as far as a `double`
counts; more rounds of a loop than that are not made.  A phrase that FTS5 does not tell about,
without saying so by the column, has the function use an iterator that was never set. -/
theorem simple_rank_counts (api : Fts5ExtensionApi) (rounds : Nat) (enough : api.total < rounds) :
    simpleRank rounds api =
      if (List.range api.phraseCount).all api.starts then .ok (min api.total doubleLimit)
      else .error .iteratorUnset := by
  have counted := phrasesLoop_counts api rounds api.phraseCount 0 0 (fun other _ below => ?_)
    (Nat.zero_le _)
  · rw [← List.range_eq_range', Nat.zero_add] at counted
    exact counted
  · have member : other ∈ List.range api.phraseCount := List.mem_range.mpr (by omega)
    have single := List.le_sum_of_mem (List.mem_map_of_mem (f := api.count) member)
    exact Nat.lt_of_le_of_lt single enough

/-- Two phrases: one is twice in the row, and the other is a phrase that FTS5 knows nothing of. -/
def twicePresent : Fts5ExtensionApi where
  phraseCount := 2
  phrase
    | 0 => .ok [⟨0, 3⟩, ⟨1, 0⟩]
    | _ => .error (-1)

theorem simple_rank_counts_twice : simpleRank 3 twicePresent = .ok 2 :=
  simple_rank_counts twicePresent 3 (by decide)

end VSQLite
