import VSQLite.Cursor.Lifetime

/-!
# The rights of a cursor

An operation has a right to a query that exists, to a result somebody owns, and to a
statement that the query owns and that is neither cached nor finalized nor another
command's.
-/

set_option autoImplicit false

namespace VSQLite
open Lib

namespace Cursors

def Rightful (cursors : Cursors) : Touch → Prop
  | .query index => (cursors.query index).isSome = true
  | .result id => cursors.alive id = true
  | .statement index stmt =>
      (∃ command, cursors.query index = some command ∧ command.stmt = some stmt) ∧
        cursors.con.owned stmt = 1 ∧ cursors.con.cached stmt = 0 ∧
        cursors.con.sqlite.freed stmt = 0

/-- Every touch of the operation is one it has a right to. -/
def Rights (cursors : Cursors) (action : CursorAction) : Prop :=
  ∀ touch ∈ cursors.touches action, cursors.Rightful touch

def cacheNames (cache : Option Nat) (cursors : Cursors) : List Text :=
  match cache with
  | some cache => cursors.columnNames cache
  | none => []

/-- The result whose query the operation calls, where what the program already holds
does not settle it: the result is exhausted, the range was begun, no column is to be
named, the view is unbound or has no such column. -/
def calls (cursors : Cursors) : CursorAction → Option Nat
  | .nextRow object _ =>
      match cursors.resultAt object with
      | some (id, result) => if result.ended then none else some id
      | none => none
  | .get object _ => (cursors.resultAt object).map Prod.fst
  | .begin object _ _ =>
      match cursors.objects[object]? with
      | some (.range (some id) false cache) =>
          match cursors.results[id]? with
          | some result =>
              if result.ended = false ∨ (cursors.cacheNames cache = [] ∧ 0 < result.columns) then
                some id
              else none
          | none => none
      | _ => none
  | .increment object _ =>
      match cursors.objects[object]? with
      | some (.iterator (some id) _ _ _) =>
          match cursors.results[id]? with
          | some result => if result.ended then none else some id
          | none => none
      | _ => none
  | .viewGet object column =>
      match cursors.viewAt object with
      | some view =>
          match cursors.columnIndex view column with
          | .ok _ => view.result
          | .error _ => none
      | none => none
  | _ => none

/-- A result's query is called only while the result has an owner and the query exists. -/
def Careful (cursors : Cursors) (action : CursorAction) : Prop :=
  ∀ id, cursors.calls action = some id → cursors.alive id = true ∧
    ∀ result, cursors.results[id]? = some result → (cursors.query result.query).isSome = true

section Touches
variable {db : DbHandle} {cursors : Cursors}

theorem statement_rightful (sound : Sound db cursors) (index : Nat) (command : Command)
    (stmt : StmtId) (found : cursors.query index = some command)
    (own : command.stmt = some stmt) : cursors.Rightful (.statement index stmt) := by
  have slot := (Connection.commandAt_eq_some _ _ _ _).mp found
  have holds := Connection.owned_pos index command cursors.con slot stmt own
  have total := sound.owned.ledger.place stmt
  refine ⟨⟨command, found, own⟩, ?_⟩
  split at total <;> omega

theorem stepTouches_rightful (sound : Sound db cursors) (index : Nat) (command : Command)
    (found : cursors.query index = some command) :
    ∀ touch ∈ cursors.stepTouches index command, cursors.Rightful touch := by
  have live : cursors.Rightful (.query index) := Option.isSome_of_eq_some found
  unfold stepTouches
  split
  · intro touch member
    rw [List.mem_singleton.mp member]
    exact live
  · rename_i stmt passed
    intro touch member
    rcases List.mem_cons.mp member with rfl | last
    · exact live
    · rw [List.mem_singleton.mp last]
      exact statement_rightful sound index command stmt found
        (Session.accessCheck_ok _ stmt passed)

theorem nextRow_touches (answer : StepCall → ResultCode) (id : Nat) (result : Result)
    (cursors : Cursors) :
    (cursors.nextRow answer id result).touches =
      if result.ended then []
      else
        match cursors.query result.query with
        | none => [.query result.query]
        | some command => cursors.stepTouches result.query command := by
  unfold nextRow
  cases result.ended with
  | true => rfl
  | false =>
      simp only [Bool.false_eq_true, if_false]
      cases cursors.query result.query with
      | none => rfl
      | some command =>
          dsimp only
          split
          · rfl
          · rfl

theorem nextRow_touches_congr (answer : StepCall → ResultCode) (id : Nat) (result : Result)
    (other : Cursors) (same : other.con = cursors.con) :
    (other.nextRow answer id result).touches = (cursors.nextRow answer id result).touches := by
  simp only [nextRow_touches, query, stepTouches, same]

/-- Advancing touches what it has a right to exactly if it is settled or the query exists. -/
theorem nextRow_rights (sound : Sound db cursors) (answer : StepCall → ResultCode) (id : Nat)
    (result : Result) :
    (∀ touch ∈ (cursors.nextRow answer id result).touches, cursors.Rightful touch) ↔
      (result.ended = false → (cursors.query result.query).isSome = true) := by
  rw [nextRow_touches]
  cases result.ended with
  | true =>
      rw [if_pos rfl]
      exact ⟨fun _ running => absurd running (by simp),
        fun _ touch member => absurd member List.not_mem_nil⟩
  | false =>
      rw [if_neg Bool.false_ne_true]
      cases found : cursors.query result.query with
      | none =>
          constructor
          · intro all _
            have dangling := all _ (List.mem_singleton_self _)
            rw [Rightful, found] at dangling
            exact dangling
          · intro live
            cases live rfl
      | some command =>
          exact ⟨fun _ _ => rfl, fun _ => stepTouches_rightful sound result.query command found⟩

theorem getter_rights (sound : Sound db cursors) (result : Result)
    (bound : Bound cursors.con result) (idx : Int) :
    (∀ touch ∈ (cursors.getter result idx).2, cursors.Rightful touch) ↔
      (cursors.query result.query).isSome = true := by
  unfold getter
  split
  · rename_i gone
    rw [gone]
    constructor
    · intro all
      have dangling := all _ (List.mem_singleton_self _)
      rw [Rightful, gone] at dangling
      cases dangling
    · intro live
      cases live
  · rename_i command found
    have live : cursors.Rightful (.query result.query) := Option.isSome_of_eq_some found
    refine ⟨fun _ => Option.isSome_of_eq_some found, fun _ => ?_⟩
    split
    · intro touch member
      rw [List.mem_singleton.mp member]
      exact live
    · split
      · intro touch member
        rw [List.mem_singleton.mp member]
        exact live
      · intro touch member
        rcases List.mem_cons.mp member with rfl | last
        · exact live
        · rw [List.mem_singleton.mp last]
          obtain ⟨slot, at_, settled⟩ := bound
          have same := (Connection.commandAt_eq_some _ _ _ _).mp found
          rw [at_] at same
          cases same
          rcases settled with dead | ⟨_, own⟩
          · cases dead
          · exact statement_rightful sound result.query command result.statement found own

theorem nameColumns_rights (sound : Sound db cursors) (result : Result)
    (bound : Bound cursors.con result) (names : Nat → Text) (columns : List Nat) :
    (∀ touch ∈ (cursors.nameColumns result names columns).2.2, cursors.Rightful touch) ↔
      (columns ≠ [] → (cursors.query result.query).isSome = true) := by
  induction columns with
  | nil => exact ⟨fun _ some => absurd rfl some, fun _ _ member => absurd member List.not_mem_nil⟩
  | cons idx rest ih =>
      have first := getter_rights sound result bound idx
      simp only [nameColumns]
      split
      · rename_i value touches read
        rw [read] at first
        constructor
        · intro all _
          exact first.mp fun touch member => all touch (List.mem_append_left _ member)
        · intro live touch member
          have exists_ := live (List.cons_ne_nil _ _)
          rcases List.mem_append.mp member with here | later
          · exact first.mpr exists_ touch here
          · exact ih.mpr (fun _ => exists_) touch later
      · rename_i outcome touches read
        rw [read] at first
        exact ⟨fun all _ => first.mp all, fun live => first.mpr (live (List.cons_ne_nil _ _))⟩

theorem primeCache_rights (sound : Sound db cursors) (result : Result)
    (bound : Bound cursors.con result) (cache : Nat) (names : Nat → Text) (other : Cursors)
    (same : other.con = cursors.con) :
    (∀ touch ∈ (other.primeCache result cache names).touches, cursors.Rightful touch) ↔
      (other.columnNames cache = [] ∧ 0 < result.columns →
        (cursors.query result.query).isSome = true) := by
  have getters : ∀ idx, other.getter result idx = cursors.getter result idx := by
    intro idx
    simp only [getter, query, same]
  have loops : ∀ columns, other.nameColumns result names columns =
      cursors.nameColumns result names columns := by
    intro columns
    induction columns with
    | nil => rfl
    | cons idx rest ih => simp only [nameColumns, getters, ih]
  have named := nameColumns_rights sound result bound names (List.range result.columns)
  unfold primeCache
  split
  · rename_i filled
    exact ⟨fun _ needed => absurd needed.1 filled,
      fun _ touch member => absurd member List.not_mem_nil⟩
  · rename_i empty
    rw [loops, named]
    have some_ : List.range result.columns ≠ [] ↔ 0 < result.columns := by
      rw [Ne, List.range_eq_nil]
      exact Nat.pos_iff_ne_zero.symm
    rw [some_]
    exact ⟨fun live needed => live needed.2, fun live needed => live ⟨not_not.mp empty, needed⟩⟩

end Touches

/-! ## The operations -/

section Operations
variable {db : DbHandle} {cursors : Cursors}

theorem alive_of_holder (object id : Nat) (held : Object)
    (found : cursors.objects[object]? = some held) (holds : held.holds id = true) :
    cursors.alive id = true :=
  List.any_eq_true.mpr ⟨held, List.mem_of_getElem? found, holds⟩

theorem careful_of_holder (action : CursorAction) (object id : Nat) (held : Object)
    (found : cursors.objects[object]? = some held) (holds : held.holds id = true)
    (result : Result) (made : cursors.results[id]? = some result) (needs : Prop)
    [Decidable needs] (called : cursors.calls action = if needs then some id else none) :
    Careful cursors action ↔ (needs → (cursors.query result.query).isSome = true) := by
  unfold Careful
  rw [called]
  constructor
  · intro careful needed
    rw [if_pos needed] at careful
    exact (careful id rfl).2 result made
  · intro live other same
    by_cases needed : needs
    · rw [if_pos needed] at same
      cases same
      refine ⟨alive_of_holder object id held found holds, fun other also => ?_⟩
      rw [made] at also
      cases also
      exact live needed
    · rw [if_neg needed] at same
      cases same

theorem careful_of_none (action : CursorAction) (silent : cursors.calls action = none) :
    Careful cursors action := by
  intro id called
  rw [silent] at called
  cases called

theorem rights_of_nil (action : CursorAction) (silent : cursors.touches action = []) :
    Rights cursors action := by
  intro touch member
  rw [silent] at member
  cases member

theorem touches_of_run (action : CursorAction) (effect : Effect)
    (enabled : cursors.run action = some effect) : cursors.touches action = effect.touches := by
  rw [touches, enabled]

theorem nextRow_agrees (sound : Sound db cursors) (object : Nat)
    (answer : StepCall → ResultCode) (effect : Effect)
    (enabled : cursors.run (.nextRow object answer) = some effect) :
    Rights cursors (.nextRow object answer) ↔ Careful cursors (.nextRow object answer) := by
  have touches := touches_of_run _ effect enabled
  obtain ⟨⟨id, result⟩, held, rfl⟩ := Option.map_eq_some_iff.mp enabled
  obtain ⟨found, made⟩ := resultAt_found object id result held
  have called : cursors.calls (.nextRow object answer) =
      if result.ended = false then some id else none := by
    simp only [calls, held]
    cases result.ended <;> rfl
  rw [careful_of_holder _ object id _ found (by simp [Object.holds]) result made _ called,
    Rights, touches]
  exact nextRow_rights sound answer id result

theorem get_agrees (sound : Sound db cursors) (object : Nat) (idx : Int) (effect : Effect)
    (enabled : cursors.run (.get object idx) = some effect) :
    Rights cursors (.get object idx) ↔ Careful cursors (.get object idx) := by
  have touches := touches_of_run _ effect enabled
  obtain ⟨⟨id, result⟩, held, rfl⟩ := Option.map_eq_some_iff.mp enabled
  obtain ⟨found, made⟩ := resultAt_found object id result held
  have called : cursors.calls (.get object idx) = if True then some id else none := by
    simp only [calls, held, Option.map_some, if_true]
  rw [careful_of_holder _ object id _ found (by simp [Object.holds]) result made _ called,
    Rights, touches]
  have rights := getter_rights sound result
    (sound.results result (List.mem_of_getElem? made)) idx
  exact rights.trans ⟨fun live _ => live, fun live => live trivial⟩

theorem increment_agrees (sound : Sound db cursors) (object : Nat)
    (answer : StepCall → ResultCode) (effect : Effect)
    (enabled : cursors.run (.increment object answer) = some effect) :
    Rights cursors (.increment object answer) ↔ Careful cursors (.increment object answer) := by
  have touches := touches_of_run _ effect enabled
  simp only [run, increment] at enabled
  split at enabled
  · rename_i isEnd cache current found
    cases enabled
    exact ⟨fun _ => careful_of_none _ (by simp only [calls, found]),
      fun _ => rights_of_nil _ touches⟩
  · rename_i id isEnd cache current found
    obtain ⟨result, made, same⟩ := Option.map_eq_some_iff.mp enabled
    have moved : effect.touches = (cursors.nextRow answer id result).touches := by
      rw [← same]
      split <;> rfl
    have called : cursors.calls (.increment object answer) =
        if result.ended = false then some id else none := by
      simp only [calls, found, made]
      cases result.ended <;> rfl
    rw [careful_of_holder _ object id _ found (by simp [Object.holds]) result made _ called,
      Rights, touches, moved]
    exact nextRow_rights sound answer id result
  · cases enabled

theorem viewGet_agrees (sound : Sound db cursors) (object : Nat) (column : Column)
    (effect : Effect) (enabled : cursors.run (.viewGet object column) = some effect) :
    Rights cursors (.viewGet object column) ↔ Careful cursors (.viewGet object column) := by
  have touched := touches_of_run _ effect enabled
  obtain ⟨view, held, rfl⟩ := Option.map_eq_some_iff.mp enabled
  change cursors.touches (.viewGet object column) = (cursors.viewGet view column).2 at touched
  have silent : (cursors.viewGet view column).2 = [] →
      cursors.calls (.viewGet object column) = none →
      (Rights cursors (.viewGet object column) ↔ Careful cursors (.viewGet object column)) :=
    fun nothing nobody => ⟨fun _ => careful_of_none _ nobody,
      fun _ => rights_of_nil _ (touched.trans nothing)⟩
  cases bound : view.result with
  | none =>
      apply silent
      · simp only [viewGet, bound]
      · simp only [calls, held]
        split
        · exact bound
        · rfl
  | some id =>
      cases index : cursors.columnIndex view column with
      | error thrown =>
          apply silent
          · simp only [viewGet, bound, index]
          · simp only [calls, held, index]
      | ok idx =>
          have called : cursors.calls (.viewGet object column) = some id := by
            simp only [calls, held, index, bound]
          rw [Rights, touched]
          unfold Careful viewGet
          rw [bound, called]
          simp only [index, Option.some.injEq, forall_eq']
          cases owned : cursors.alive id with
          | false =>
              constructor
              · intro all
                have dangling := all _ (List.mem_singleton_self _)
                rw [Rightful, owned] at dangling
                cases dangling
              · intro careful
                cases careful.1
          | true =>
              cases made : cursors.results[id]? with
              | none =>
                  refine ⟨fun _ => ⟨rfl, fun result same => by cases same⟩,
                    fun _ touch member => ?_⟩
                  rw [List.mem_singleton.mp member]
                  exact owned
              | some result =>
                  have rights := getter_rights sound result
                    (sound.results result (List.mem_of_getElem? made)) idx
                  constructor
                  · intro all
                    refine ⟨rfl, fun other same => ?_⟩
                    cases same
                    exact rights.mp fun touch member => all touch (List.mem_cons_of_mem _ member)
                  · intro careful touch member
                    rcases List.mem_cons.mp member with rfl | read
                    · exact owned
                    · exact rights.mpr (careful.2 result rfl) touch read

/-! ## Beginning a range -/

theorem beginAt_touches (answer : StepCall → ResultCode) (names : Nat → Text) (index id : Nat)
    (result : Result) (cache : Option Nat) (primed : Effect)
    (fills : primed = ((cursors.rangeCache cache).1.setObject index
      (.range (some id) true (some (cursors.rangeCache cache).2))).primeCache result
        (cursors.rangeCache cache).2 names) :
    (cursors.beginAt answer names index id result cache).touches =
      primed.touches ++
        match primed.outcome with
        | .returned _ => (primed.cursors.nextRow answer id result).touches
        | _ => [] := by
  unfold beginAt
  dsimp only
  rw [← fills]
  cases primed.outcome with
  | returned value =>
      dsimp only
      split <;> rfl
  | threw thrown => exact (List.append_nil _).symm
  | undefined => exact (List.append_nil _).symm

theorem primeCache_settled (result : Result) (cache : Nat) (names : Nat → Text)
    (cursors : Cursors) (settled : ¬(cursors.columnNames cache = [] ∧ 0 < result.columns)) :
    (cursors.primeCache result cache names).outcome = .returned none := by
  unfold primeCache
  split
  · rfl
  · rename_i empty
    have none : result.columns = 0 := by
      by_contra some_
      exact settled ⟨not_not.mp empty, Nat.pos_of_ne_zero some_⟩
    rw [none]
    rfl

theorem rangeCache_names (cache : Option Nat) (cursors : Cursors) (index : Nat)
    (object : Object) :
    ((cursors.rangeCache cache).1.setObject index object).columnNames
      (cursors.rangeCache cache).2 = cursors.cacheNames cache := by
  cases cache with
  | none =>
      change ((cursors.caches ++ [[]])[cursors.caches.length]?).getD [] = []
      rw [List.getElem?_concat_length]
      rfl
  | some cache => rfl

theorem beginAt_rights (sound : Sound db cursors) (answer : StepCall → ResultCode)
    (names : Nat → Text) (index id : Nat) (result : Result) (cache : Option Nat)
    (bound : Bound cursors.con result) :
    (∀ touch ∈ (cursors.beginAt answer names index id result cache).touches,
        cursors.Rightful touch) ↔
      (result.ended = false ∨ (cursors.cacheNames cache = [] ∧ 0 < result.columns) →
        (cursors.query result.query).isSome = true) := by
  have begunCon : ((cursors.rangeCache cache).1.setObject index
      (.range (some id) true (some (cursors.rangeCache cache).2))).con = cursors.con :=
    (rangeCache_keeps cache cursors).1
  have names_ := rangeCache_names cache cursors index
    (.range (some id) true (some (cursors.rangeCache cache).2))
  generalize fills : ((cursors.rangeCache cache).1.setObject index
      (.range (some id) true (some (cursors.rangeCache cache).2))) = begun at begunCon names_
  have prime := primeCache_rights sound result bound (cursors.rangeCache cache).2 names begun
    begunCon
  rw [names_] at prime
  have primedCon := (primeCache_keeps result (cursors.rangeCache cache).2 names begun).1.trans
    begunCon
  have moves := nextRow_rights sound answer id result
  rw [← nextRow_touches_congr answer id result _ primedCon] at moves
  rw [beginAt_touches answer names index id result cache
    (begun.primeCache result (cursors.rangeCache cache).2 names) (by rw [fills])]
  constructor
  · intro all needed
    by_cases naming : cursors.cacheNames cache = [] ∧ 0 < result.columns
    · exact prime.mp (fun touch member => all touch (List.mem_append_left _ member)) naming
    · have running := needed.resolve_right naming
      have settled := primeCache_settled result (cursors.rangeCache cache).2 names begun
        (names_ ▸ naming)
      rw [settled] at all
      exact moves.mp (fun touch member => all touch (List.mem_append_right _ member)) running
  · intro live touch member
    rcases List.mem_append.mp member with primed | moved
    · exact prime.mpr (fun naming => live (Or.inr naming)) touch primed
    · split at moved
      · exact moves.mpr (fun running => live (Or.inl running)) touch moved
      · cases moved

theorem begin_agrees (sound : Sound db cursors) (object : Nat) (answer : StepCall → ResultCode)
    (names : Nat → Text) (effect : Effect)
    (enabled : cursors.run (.begin object answer names) = some effect) :
    Rights cursors (.begin object answer names) ↔
      Careful cursors (.begin object answer names) := by
  have touched := touches_of_run _ effect enabled
  simp only [run, begin] at enabled
  split at enabled
  · rename_i beginCalled cache found
    cases enabled
    exact ⟨fun _ => careful_of_none _ (by simp only [calls, found]),
      fun _ => rights_of_nil _ touched⟩
  · rename_i id beginCalled cache found
    split at enabled
    · rename_i begun
      cases enabled
      exact ⟨fun _ => careful_of_none _ (by simp only [calls, found, begun]),
        fun _ => rights_of_nil _ touched⟩
    · rename_i notBegun
      obtain ⟨result, made, rfl⟩ := Option.map_eq_some_iff.mp enabled
      have fresh : beginCalled = false := Bool.eq_false_iff.mpr notBegun
      have called : cursors.calls (.begin object answer names) =
          if result.ended = false ∨ (cursors.cacheNames cache = [] ∧ 0 < result.columns) then
            some id
          else none := by
        simp only [calls, found, fresh, made]
      rw [careful_of_holder _ object id _ found (by simp [Object.holds]) result made _ called,
        Rights, touched]
      exact beginAt_rights sound answer names object id result cache
        (sound.results result (List.mem_of_getElem? made))
  · cases enabled

theorem rights_iff_careful (sound : Sound db cursors) (action : CursorAction) (effect : Effect)
    (enabled : cursors.run action = some effect) :
    Rights cursors action ↔ Careful cursors action := by
  have quiet : effect.touches = [] → cursors.calls action = none →
      (Rights cursors action ↔ Careful cursors action) :=
    fun nothing nobody => ⟨fun _ => careful_of_none _ nobody,
      fun _ => rights_of_nil _ ((touches_of_run action effect enabled).trans nothing)⟩
  cases action with
  | nextRow object answer => exact nextRow_agrees sound object answer effect enabled
  | get object idx => exact get_agrees sound object idx effect enabled
  | begin object answer names => exact begin_agrees sound object answer names effect enabled
  | increment object answer => exact increment_agrees sound object answer effect enabled
  | viewGet object column => exact viewGet_agrees sound object column effect enabled
  | connection action =>
      obtain ⟨con, _, rfl⟩ := Option.map_eq_some_iff.mp enabled
      exact quiet rfl rfl
  | getResult index columns =>
      obtain ⟨command, _, rfl⟩ := Option.map_eq_some_iff.mp enabled
      refine quiet ?_ rfl
      split <;> rfl
  | emitResult index columns answer =>
      obtain ⟨command, _, rfl⟩ := Option.map_eq_some_iff.mp enabled
      refine quiet ?_ rfl
      split
      · rfl
      · split <;> rfl
  | each index columns =>
      obtain ⟨command, _, rfl⟩ := Option.map_eq_some_iff.mp enabled
      refine quiet ?_ rfl
      split <;> rfl
  | makeEnd =>
      cases enabled
      exact quiet rfl rfl
  | makeRange object | copy object | destroy object | reset object | dereference object =>
      obtain ⟨held, _, rfl⟩ := Option.map_eq_some_iff.mp enabled
      exact quiet rfl rfl

end Operations

theorem opened_sound (db : DbHandle) (lengthLimit : Nat) (config : StatementCacheConfig) :
    Sound db (opened db lengthLimit config) :=
  ⟨Connection.opened_owned db lengthLimit config, fun _ member => absurd member List.not_mem_nil⟩

/-- In every run the operations on cursors touch only what they have a right to exactly
if each that calls a result's query does so while the query exists and the result has
an owner. -/
theorem cursor_rights_iff_careful (db : DbHandle) (lengthLimit : Nat)
    (config : StatementCacheConfig) (actions : List CursorAction) :
    EveryStep step Rights actions (opened db lengthLimit config) ↔
      EveryStep step Careful actions (opened db lengthLimit config) := by
  refine everyStep_congr step (Sound db) Rights Careful ?_ ?_ actions _
    (opened_sound db lengthLimit config)
  · intro cursors action next sound _ enabled
    obtain ⟨effect, ran, rfl⟩ := Option.map_eq_some_iff.mp enabled
    exact run_sound sound action effect ran
  · intro cursors action next sound enabled
    obtain ⟨effect, ran, _⟩ := Option.map_eq_some_iff.mp enabled
    exact rights_iff_careful sound action effect ran

/-- A query is destroyed before its result, and the next query on its text is handed
its statement. -/
def outlivedQuery : List CursorAction :=
  [.connection (.construct (ascii "SELECT x FROM t")), .connection (.acquire 0),
    .connection (.prepare 0 (.statement [])), .getResult 0 1, .connection (.destroy 0),
    .connection (.construct (ascii "SELECT x FROM t")), .connection (.acquire 1)]

theorem outlived_query_still_called :
    ∃ cursors next, exec step outlivedQuery (opened 0 1000 {}) = some cursors ∧
      cursors.results = [⟨0, 0, 1, false⟩] ∧
      cursors.query 1 = some ⟨ascii "SELECT x FROM t", some 0, 0⟩ ∧
      cursors.step (.nextRow 0 fun _ => .row) = some next ∧
      ¬Rights cursors (.nextRow 0 fun _ => .row) := by
  refine ⟨_, _, rfl, rfl, rfl, rfl, fun all => ?_⟩
  have dangling := all (.query 0) (by decide)
  cases dangling

end Cursors
end VSQLite
