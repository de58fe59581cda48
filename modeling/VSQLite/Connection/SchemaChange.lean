import VSQLite.Command.Steps
import VSQLite.Connection.Log
import VSQLite.Connection.Sources

/-!
# Cached statements and schema changes

The cache is cleared when a schema-changing command is prepared, and the schema
changes when that command is stepped.  A cached statement is current if no
schema-changing statement was executed since it was prepared.  The theorem here says
exactly which steps leave one in the cache that is not.
-/

set_option autoImplicit false

namespace VSQLite
open Lib

/-- The event is the execution of a schema-changing statement. -/
def Event.changesSchema : Event → Bool
  | .stepped _ source _ => isSchemaChangingStatement source
  | _ => false

/-- The statement was prepared after the last execution that changed the schema. -/
def SchemaCurrent (id : StmtId) : List Event → Prop
  | [] => False
  | event :: earlier =>
      event = .prepared id ∨ (event.changesSchema = false ∧ SchemaCurrent id earlier)

theorem schemaCurrent_append (id : StmtId) (fresh log : List Event)
    (quiet : ∀ event ∈ fresh, event.changesSchema = false)
    (current : SchemaCurrent id log) : SchemaCurrent id (fresh ++ log) := by
  induction fresh with
  | nil => exact current
  | cons event rest ih =>
      exact Or.inr ⟨quiet event (List.mem_cons_self ..),
        ih fun other member => quiet other (List.mem_cons_of_mem _ member)⟩

theorem schemaCurrent_of_append (id : StmtId) (fresh log : List Event)
    (older : Event.prepared id ∉ fresh) (current : SchemaCurrent id (fresh ++ log)) :
    SchemaCurrent id log ∧ ∀ event ∈ fresh, event.changesSchema = false := by
  induction fresh with
  | nil => exact ⟨current, fun _ member => by cases member⟩
  | cons event rest ih =>
      rcases current with new | ⟨quiet, before⟩
      · exact absurd (new ▸ List.mem_cons_self ..) older
      · obtain ⟨still, restQuiet⟩ := ih (fun member => older (List.mem_cons_of_mem _ member)) before
        refine ⟨still, fun other member => ?_⟩
        rcases List.mem_cons.mp member with rfl | later
        · exact quiet
        · exact restQuiet other later

theorem changesSchema_of_not_step (event : Event) (other : event.isStep = false) :
    event.changesSchema = false := by
  cases event with
  | stepped stmt source call => cases other
  | _ => rfl

namespace Connection

/-- Whatever text a new command asks for, the statement it is handed is current. -/
def HandsOutCurrent (con : Connection) : Prop :=
  ∀ sql stmt, (con.acquireCachedStatement sql).2 = some stmt →
    SchemaCurrent stmt con.sqlite.log

/-- The piece executes a schema-changing command. -/
def ExecutesSchemaChange (con : Connection) (action : Action) : Prop :=
  ∃ index op answer command, action = .use index op answer ∧
    con.slots[index]? = some ⟨command, .live⟩ ∧
    isSchemaChangingStatement command.sql = true ∧
    op.reachesStep (con.session command) = true

/-- A schema-changing command is executed only on an empty cache, and a statement that
goes into the cache is current. -/
structure KeepsCacheCurrent (con : Connection) (action : Action) : Prop where
  execution : ExecutesSchemaChange con action → con.cache.entries = []
  storage : ∀ entry, Stores con action entry → SchemaCurrent entry.2 con.sqlite.log

section Steps
variable {db : DbHandle} {con : Connection}

theorem handsOutCurrent_iff (state : Owned db con) :
    HandsOutCurrent con ↔ ∀ entry ∈ con.cache.entries, SchemaCurrent entry.2 con.sqlite.log := by
  constructor
  · intro current entry member
    refine current entry.1 entry.2 ?_
    rw [acquireCachedStatement_result state]
    exact Recency.lookup_of_mem entry.1 entry.2 _ con.cache.keyed member
  · intro current sql stmt handed
    rw [acquireCachedStatement_result state] at handed
    exact current (sql, stmt) (Recency.mem_of_lookup sql stmt _ handed)

/-! ## What the log says about a piece -/

/-- The events of an operation, none of which prepares a statement; one of them changes
the schema just when the operation executes a schema-changing text. -/
theorem use_log (state : Owned db con) (sourced : Sourced con) (index : Nat)
    (command : Command) (op : CommandOp) (answer : StepCall → ResultCode)
    (found : con.slots[index]? = some ⟨command, .live⟩) :
    ∃ fresh, (con.use answer index command op).sqlite.log = fresh ++ con.sqlite.log ∧
      (∀ id, Event.prepared id ∉ fresh) ∧
      ((∃ event ∈ fresh, event.changesSchema = true) ↔
        isSchemaChangingStatement command.sql = true ∧
          op.reachesStep (con.session command) = true) := by
  have keeps := op.run_keeps answer (con.session command)
  have counted := op.run_steps answer (con.session command)
    (session_backed state index command found)
  cases own : command.stmt with
  | none =>
      have idle : (con.use answer index command op).sqlite = con.sqlite := keeps.idle own
      rw [idle]
      refine ⟨[], rfl, by simp, ?_⟩
      have same : (op.run answer (con.session command)).1.sqlite = con.sqlite := keeps.idle own
      have noStep : op.reachesStep (con.session command) = false := by
        rw [same] at counted
        cases reaches : op.reachesStep (con.session command) with
        | false => rfl
        | true =>
            have grown : con.sqlite.steps = con.sqlite.steps + 1 := by
              rw [reaches, if_pos rfl] at counted
              exact counted
            omega
      simp [noStep]
  | some stmt =>
      have used : Uses stmt con.sqlite (con.use answer index command op).sqlite :=
        keeps.uses stmt own
      have source : con.sqlite.sourceOf stmt = some command.sql :=
        sourced.commands _ (List.mem_of_getElem? found) stmt own
      obtain ⟨fresh, log, only⟩ := used.log
      have steps : fresh.countP Event.isStep =
          if op.reachesStep (con.session command) then 1 else 0 := by
        have total : (con.use answer index command op).sqlite.steps = con.sqlite.steps +
            if op.reachesStep (con.session command) then 1 else 0 := counted
        have split : (con.use answer index command op).sqlite.steps =
            fresh.countP Event.isStep + con.sqlite.steps := by
          rw [Sqlite.steps, log, List.countP_append, Sqlite.steps]
        omega
      refine ⟨fresh, log, fun id member => ?_, ?_, ?_⟩
      · cases (only _ member).2.1
      · rintro ⟨event, member, changes⟩
        cases event with
        | stepped id text call =>
            obtain ⟨here, _, named⟩ := only _ member
            cases here
            have same := named text call rfl
            rw [source] at same
            cases same
            refine ⟨changes, ?_⟩
            have positive : 0 < fresh.countP Event.isStep :=
              List.countP_pos_iff.mpr ⟨_, member, rfl⟩
            rw [steps] at positive
            by_contra idle
            rw [if_neg idle] at positive
            exact Nat.lt_irrefl 0 positive
        | _ => cases changes
      · rintro ⟨schemaChange, reaches⟩
        rw [reaches, if_pos rfl] at steps
        have positive : 0 < fresh.countP Event.isStep := by omega
        obtain ⟨event, member, isStep⟩ := List.countP_pos_iff.mp positive
        refine ⟨event, member, ?_⟩
        cases event with
        | stepped id text call =>
            obtain ⟨here, _, named⟩ := only _ member
            cases here
            have same := named text call rfl
            rw [source] at same
            cases same
            exact schemaChange
        | _ => cases isStep

theorem step_log (state : Owned db con) (sourced : Sourced con) (action : Action)
    (next : Connection) (enabled : con.step action = some next) :
    ∃ fresh, next.sqlite.log = fresh ++ con.sqlite.log ∧
      (∀ id, id < con.sqlite.stmts.length → Event.prepared id ∉ fresh) ∧
      ((∃ event ∈ fresh, event.changesSchema = true) ↔ ExecutesSchemaChange con action) := by
  by_cases uses : ∃ index op answer, action = .use index op answer
  · obtain ⟨index, op, answer, rfl⟩ := uses
    obtain ⟨command, at_, rfl⟩ := Option.map_eq_some_iff.mp enabled
    have found := (commandAt_eq_some _ _ _ _).mp at_
    obtain ⟨fresh, log, unprepared, changes⟩ :=
      use_log state sourced index command op answer found
    refine ⟨fresh, log, fun id _ => unprepared id,
      changes.trans ⟨fun both => ?_, fun executes => ?_⟩⟩
    · exact ⟨index, op, answer, command, rfl, found, both⟩
    · obtain ⟨_, _, _, other, same, again, both⟩ := executes
      cases same
      rw [found] at again
      cases again
      exact both
  · have other : ∀ index op answer, action ≠ .use index op answer :=
      fun index op answer same => uses ⟨index, op, answer, same⟩
    obtain ⟨fresh, log, noStep, unprepared⟩ := step_stepless state action next enabled other
    refine ⟨fresh, log, unprepared, ⟨fun ⟨event, member, changes⟩ => ?_, fun executes => ?_⟩⟩
    · rw [changesSchema_of_not_step event (noStep event member)] at changes
      cases changes
    · obtain ⟨index, op, answer, _, same, _⟩ := executes
      exact absurd same (other index op answer)

theorem stores_held (action : Action) (entry : Text × StmtId)
    (stores : Stores con action entry) : 0 < con.owned entry.2 := by
  obtain ⟨index, command, _, found, _, own, _⟩ := stores
  exact owned_pos index command con found entry.2 own

theorem handsOutCurrent_step (state : Owned db con) (sourced : Sourced con)
    (good : HandsOutCurrent con) (action : Action) (next : Connection)
    (enabled : con.step action = some next) :
    HandsOutCurrent next ↔ KeepsCacheCurrent con action := by
  have nextState := step_owned action next state enabled
  obtain ⟨fresh, log, unprepared, changes⟩ := step_log state sourced action next enabled
  have current := (handsOutCurrent_iff state).mp good
  rw [handsOutCurrent_iff nextState, log]
  constructor
  · intro after
    constructor
    · intro executes
      rw [List.eq_nil_iff_forall_not_mem]
      intro entry member
      obtain ⟨event, inFresh, changed⟩ := changes.mpr executes
      obtain ⟨_, _, _, _, rfl, _⟩ := executes
      have kept : entry ∈ next.cache.entries := by
        obtain ⟨_, _, rfl⟩ := Option.map_eq_some_iff.mp enabled
        exact member
      have older := state.ledger.lt_length entry.2 (Nat.lt_of_lt_of_le
        (List.count_pos_iff.mpr (List.mem_map_of_mem (f := Prod.snd) member))
        (Nat.le_add_left _ _))
      have quiet := (schemaCurrent_of_append entry.2 fresh _ (unprepared _ older)
        (after entry kept)).2 event inFresh
      rw [changed] at quiet
      cases quiet
    · intro entry stores
      have older := state.ledger.lt_length entry.2
        (Nat.lt_of_lt_of_le (stores_held action entry stores) (Nat.le_add_right _ _))
      exact (schemaCurrent_of_append entry.2 fresh _ (unprepared _ older)
        (after entry (stores_entry state action next enabled entry stores))).1
  · intro keeps entry member
    have origin := (step_entries state action next enabled entry member).1
    by_cases executes : ExecutesSchemaChange con action
    · exfalso
      rcases origin with old | stores
      · rw [keeps.execution executes] at old
        cases old
      · obtain ⟨_, _, _, _, rfl, _⟩ := executes
        obtain ⟨_, _, same, _⟩ := stores
        cases same
    · refine schemaCurrent_append entry.2 fresh _ (fun event inFresh => ?_) ?_
      · by_contra changed
        exact executes (changes.mp ⟨event, inFresh, Bool.not_eq_false _ ▸ changed⟩)
      · rcases origin with old | stores
        · exact current entry old
        · exact keeps.storage entry stores

end Steps

/-- Along a run the cache only ever has current statements to hand out exactly when
every schema-changing statement is executed on an empty cache, and no destructor puts
a statement into the cache that a schema-changing execution has outdated. -/
theorem hands_out_current_iff_kept_current (db : DbHandle) (lengthLimit : Nat)
    (config : StatementCacheConfig) (actions : List Action) :
    EveryState step HandsOutCurrent actions (opened db lengthLimit config) ↔
      EveryStep step KeepsCacheCurrent actions (opened db lengthLimit config) := by
  refine everyState_iff_everyStep step (fun con => Owned db con ∧ Sourced con)
    HandsOutCurrent KeepsCacheCurrent ?_ ?_ actions _
    ⟨opened_owned db lengthLimit config, opened_sourced db lengthLimit config⟩ ?_
  · intro con action next inv enabled
    exact step_owned_sourced inv action next enabled
  · intro con action next inv good enabled
    exact handsOutCurrent_step inv.1 inv.2 good action next enabled
  · rw [handsOutCurrent_iff (opened_owned db lengthLimit config)]
    intro entry member
    cases member

/-- `CREATE` is constructed, a query runs and dies, and `CREATE` is stepped. -/
def outdatedQuery : List Action :=
  [.construct (ascii "CREATE TABLE u(y)"), .clearForSchema 0, .prepare 0 (.statement []),
    .construct (ascii "SELECT x FROM t"), .acquire 1, .prepare 1 (.statement []),
    .use 1 .stepOnce (fun _ => .done), .destroy 1,
    .use 0 .stepOnce (fun _ => .done)]

theorem outdated_query_handed_out :
    ∃ con, exec step outdatedQuery (opened 0 1000 {}) = some con ∧
      (con.acquireCachedStatement (ascii "SELECT x FROM t")).2 = some 1 ∧
      ¬SchemaCurrent 1 con.sqlite.log := by
  refine ⟨_, rfl, by decide, ?_⟩
  intro current
  have quiet := (schemaCurrent_of_append 1 [_] _ (by decide) current).2 _ (List.mem_cons_self ..)
  revert quiet
  decide

end Connection
end VSQLite
