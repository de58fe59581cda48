import Mathlib.Data.List.Forall2
import VSQLite.Connection.Reuse
import VSQLite.Connection.Transparency

/-!
# A larger cache

Of two connections that run one program, the one with more room compiles no text more often, as
long as no two commands of one text exist at once: what the smaller cache holds is in front of
what the larger one holds, whatever the program does and whatever comes of its steps.
-/

set_option autoImplicit false

namespace VSQLite
open Lib

def Compiled.sources (sql : Text) : Compiled → List Text
  | .statement _ => [sql]
  | _ => []

/-- A command as far as its use does not change it. -/
structure Outline where
  sql : Text
  live : Bool
  prepared : Bool
deriving DecidableEq, Repr

namespace Outline

def constructed (sql : Text) : Compiled → Outline
  | .error _ => ⟨sql, false, false⟩
  | .empty => ⟨sql, true, false⟩
  | .statement _ => ⟨sql, true, true⟩

def destroyed (outline : Outline) : Outline := ⟨outline.sql, false, false⟩

def released (outline : Outline) : Bool :=
  outline.prepared && !isSchemaChangingStatement outline.sql

def inUse (sql : Text) (outline : Outline) : Bool := outline.live && decide (outline.sql = sql)

def liveAt (index : Nat) (outlines : List Outline) : Option Outline :=
  (outlines[index]?).filter live

/-- The commands of a program, whatever comes of their use. -/
def step (prepare : Text → Compiled) (outlines : List Outline) : ProgramOp → Option (List Outline)
  | .construct sql => some (outlines ++ [constructed sql (prepare sql)])
  | .use index _ => (liveAt index outlines).map fun _ => outlines
  | .destroy index =>
      (liveAt index outlines).map fun outline => outlines.set index outline.destroyed

/-- A command is constructed only when no other of its text is left. -/
def Follows (outlines : List Outline) : ProgramOp → Prop
  | .construct sql => outlines.countP (inUse sql) = 0
  | _ => True

theorem liveAt_eq_some (index : Nat) (outlines : List Outline) (outline : Outline) :
    liveAt index outlines = some outline ↔
      outlines[index]? = some outline ∧ outline.live = true :=
  Option.filter_eq_some_iff

end Outline

def Slot.outline (slot : Slot) : Outline :=
  ⟨slot.command.sql, decide (slot.phase = .live), slot.command.stmt.isSome⟩

def Private.outline (command : Private) : Outline :=
  ⟨command.sql, decide (command.phase = .live), command.stmt.isSome⟩

/-- The same change of the program or of the cache, to as much room at least. -/
inductive ScriptOp.Roomier : ScriptOp → ScriptOp → Prop
  | program (op : ProgramOp) : Roomier (.program op) (.program op)
  | configure (config other : StatementCacheConfig)
      (room : (Cache.construct config).limit ≤ (Cache.construct other).limit) :
      Roomier (.configure config) (.configure other)
  | clearCache : Roomier .clearCache .clearCache

namespace Connection

def outlines (con : Connection) : List Outline := con.slots.map Slot.outline

def cachedTexts (con : Connection) : List Text := con.cache.entries.map Prod.fst

/-- What an operation of the program does to the cache, and what it compiles. -/
inductive Shelved (engine : Engine) (con next : Connection) : ProgramOp → Prop
  | construct (sql : Text) (kept : List (Text × StmtId))
      (shelf : kept = if isSchemaChangingStatement sql then [] else con.cache.entries)
      (entries : next.cache.entries = Recency.erase sql kept)
      (sources : next.sqlite.sources = con.sqlite.sources ++
        if sql ∈ kept.map Prod.fst then [] else (engine.prepare sql).sources sql) :
      Shelved engine con next (.construct sql)
  | use (index : Nat) (op : CommandOp) (entries : next.cache.entries = con.cache.entries)
      (sources : next.sqlite.sources = con.sqlite.sources) :
      Shelved engine con next (.use index op)
  | destroy (index : Nat) (outline : Outline) (stmt : StmtId)
      (live : Outline.liveAt index con.outlines = some outline)
      (entries : next.cache.entries = if outline.released then
        (Recency.insert con.cache.limit outline.sql stmt con.cache.entries).1
        else con.cache.entries)
      (sources : next.sqlite.sources = con.sqlite.sources) :
      Shelved engine con next (.destroy index)

section Effect
variable {engine : Engine} {db : DbHandle} {lengthLimit : Nat} {con : Connection}

theorem step_sources (state : Owned db con) (action : Action) (next : Connection)
    (enabled : con.step action = some next)
    (other : ∀ index compiled, action ≠ .prepare index compiled) :
    next.sqlite.sources = con.sqlite.sources := by
  apply sources_eq
  intro id
  rw [Sqlite.sourceOf_eq_compiledOf, Sqlite.sourceOf_eq_compiledOf,
    step_compiledOf state action next enabled other]

theorem prepare_sources (home : DbHandle) (index : Nat) (command : Command)
    (compiled : Compiled) :
    (con.prepare home index command compiled).cache = con.cache ∧
      (con.prepare home index command compiled).sqlite.sources =
        con.sqlite.sources ++ compiled.sources command.sql := by
  cases compiled with
  | error code => exact ⟨rfl, (List.append_nil _).symm⟩
  | empty => exact ⟨rfl, (List.append_nil _).symm⟩
  | statement parameters =>
      refine ⟨rfl, ?_⟩
      change (con.sqlite.stmts ++ [_]).map Stmt.source = _
      rw [List.map_append]
      rfl

theorem Owned.private_outline (state : Owned db con) (slot : Slot) (member : slot ∈ con.slots) :
    (slot.private con.sqlite).outline = slot.outline := by
  rw [Private.outline, Slot.outline, Slot.private]
  cases own : slot.command.stmt with
  | none => rfl
  | some id =>
      have held := state.held_of_slot slot member id own
      obtain ⟨stmt, present, _⟩ :=
        state.ledger.found id (Nat.lt_of_lt_of_le held (Nat.le_add_right _ _))
      rw [Option.bind_some, present]
      rfl

theorem liveAt_outlines (index : Nat) :
    Outline.liveAt index con.outlines =
      (con.commandAt .live index).map fun command => Slot.outline ⟨command, .live⟩ := by
  rw [Outline.liveAt, outlines, List.getElem?_map, commandAt]
  cases con.slots[index]? with
  | none => rfl
  | some slot =>
      obtain ⟨command, phase⟩ := slot
      by_cases live : phase = .live
      · subst live
        rfl
      · simp [Slot.outline, live]

/-- A constructor that has come to where it compiles, and what it takes to get there. -/
structure Asked (sql : Text) (kept : List (Text × StmtId)) (con asked : Connection) : Prop where
  slots : asked.slots = con.slots ++ [⟨⟨sql, none, 0⟩, .preparing⟩]
  limit : asked.cache.limit = con.cache.limit
  entries : asked.cache.entries = Recency.erase sql kept
  sources : asked.sqlite.sources = con.sqlite.sources

theorem Asked.not_live {sql : Text} {kept : List (Text × StmtId)} {asked : Connection}
    (ready : Asked sql kept con asked) : asked.commandAt .live con.slots.length = none := by
  rw [commandAt, ready.slots, getElem?_last]
  exact if_neg fun same => by cases same

theorem Asked.compile {sql : Text} {kept : List (Text × StmtId)} {asked : Connection}
    (ready : Asked sql kept con asked) (next : Connection)
    (given outcome : Except Exception (Option Bool))
    (compiles : ((asked.step (.prepare con.slots.length (engine.prepare sql))).map fun built =>
      (built, given)) = some (next, outcome)) :
    next.cache = asked.cache ∧
      next.sqlite.sources = con.sqlite.sources ++ (engine.prepare sql).sources sql := by
  obtain ⟨built, enabled, same⟩ := Option.map_eq_some_iff.mp compiles
  cases same
  cases moved_of_step _ enabled with
  | prepare _ _ home command _ found =>
      rw [ready.slots, getElem?_last] at found
      cases found
      rw [← ready.sources]
      exact prepare_sources home _ _ _

theorem clearing_asked (inStep : InStep engine db lengthLimit con) (sql : Text)
    (schemaChange : isSchemaChangingStatement sql = true) (asked : Connection)
    (asking : (con.construct sql).step (.clearForSchema con.slots.length) = some asked) :
    Asked sql [] con asked := by
  have ready := (construct_inStep inStep sql).2
  have slots := construct_slots con sql
  rw [if_pos schemaChange] at slots
  have sources := step_sources ready.state _ asked asking fun _ _ same => by cases same
  cases moved_of_step _ asking with
  | clearForSchema _ command found =>
      rw [slots, getElem?_last] at found
      cases found
      refine ⟨?_, rfl, rfl, sources⟩
      change (con.construct sql).slots.set _ _ = _
      rw [slots, set_last]

theorem acquiring_asked (inStep : InStep engine db lengthLimit con) (sql : Text)
    (ordinary : ¬isSchemaChangingStatement sql = true) (asked : Connection)
    (asking : (con.construct sql).step (.acquire con.slots.length) = some asked) :
    (sql ∉ con.cachedTexts ∧ Asked sql con.cache.entries con asked) ∨
      (sql ∈ con.cachedTexts ∧ (∃ command, asked.commandAt .live con.slots.length = some command) ∧
        asked.cache.limit = con.cache.limit ∧
        asked.cache.entries = Recency.erase sql con.cache.entries ∧
        asked.sqlite.sources = con.sqlite.sources) := by
  have ready := (construct_inStep inStep sql).2
  have slots := construct_slots con sql
  rw [if_neg ordinary] at slots
  have sources := step_sources ready.state _ asked asking fun _ _ same => by cases same
  cases moved_of_step _ asking with
  | acquire _ command found =>
      rw [slots, getElem?_last] at found
      cases found
      obtain ⟨entries, _⟩ := acquire_entries ready.state con.slots.length ⟨sql, none, 0⟩
        ready.isOpen
      have limit : ((con.construct sql).acquire con.slots.length ⟨sql, none, 0⟩).cache.limit =
          con.cache.limit := acquire_limit _ _ ready.isOpen
      rcases acquire_shape ready.state ready.isOpen con.slots.length ⟨sql, none, 0⟩ with
        ⟨missed, _, moved⟩ | ⟨id, found, _, moved⟩
      · rw [slots, set_last] at moved
        exact Or.inl ⟨(Recency.lookup_eq_none_iff _ _).mp missed, moved, limit, entries, sources⟩
      · rw [slots, set_last] at moved
        have stored := Recency.mem_of_lookup _ _ _ found
        refine Or.inr ⟨List.mem_map_of_mem (f := Prod.fst) stored, ⟨⟨sql, some id, 0⟩, ?_⟩, limit,
          entries, sources⟩
        rw [commandAt, moved, getElem?_last]
        rfl

theorem construct_shelved (inStep : InStep engine db lengthLimit con) (history : List Observed)
    (sql : Text) (next : Connection) (outcome : Except Exception (Option Bool))
    (performed : con.perform engine history (.construct sql) = some (next, outcome)) :
    next.cache.limit = con.cache.limit ∧
      Shelved engine con next (.construct sql) := by
  have begun := (construct_inStep inStep sql).1
  simp only [perform, begun, Option.bind_some] at performed
  obtain ⟨asked, asking, rest⟩ := Option.bind_eq_some_iff.mp performed
  by_cases schemaChange : isSchemaChangingStatement sql = true
  · rw [if_pos schemaChange] at asking
    have ready := clearing_asked inStep sql schemaChange asked asking
    rw [ready.not_live] at rest
    obtain ⟨cache, sources⟩ := ready.compile next _ outcome rest
    exact ⟨cache ▸ ready.limit, .construct sql [] (if_pos schemaChange).symm
      (cache ▸ ready.entries) sources⟩
  · rw [if_neg schemaChange] at asking
    rcases acquiring_asked inStep sql schemaChange asked asking with
      ⟨missed, ready⟩ | ⟨stored, ⟨command, live⟩, limit, entries, sources⟩
    · rw [ready.not_live] at rest
      obtain ⟨cache, sources⟩ := ready.compile next _ outcome rest
      refine ⟨cache ▸ ready.limit, .construct sql con.cache.entries (if_neg schemaChange).symm
        (cache ▸ ready.entries) ?_⟩
      rw [sources]
      exact congrArg _ (if_neg missed).symm
    · rw [live] at rest
      cases rest
      refine ⟨limit, .construct sql con.cache.entries (if_neg schemaChange).symm entries ?_⟩
      have held : sql ∈ con.cache.entries.map Prod.fst := stored
      rw [sources, if_pos held, List.append_nil]

theorem use_shelved (inStep : InStep engine db lengthLimit con) (history : List Observed)
    (index : Nat) (op : CommandOp) (next : Connection) (outcome : Except Exception (Option Bool))
    (performed : con.perform engine history (.use index op) = some (next, outcome)) :
    next.cache.limit = con.cache.limit ∧
      Shelved engine con next (.use index op) := by
  obtain ⟨command, _, used⟩ := Option.bind_eq_some_iff.mp performed
  obtain ⟨after, enabled, same⟩ := Option.map_eq_some_iff.mp used
  cases same
  have sources := step_sources inStep.state _ next enabled fun _ _ same => by cases same
  cases moved_of_step _ enabled with
  | use _ _ _ command _ => exact ⟨rfl, .use index op rfl sources⟩

theorem destroy_shelved (inStep : InStep engine db lengthLimit con) (history : List Observed)
    (index : Nat) (next : Connection) (outcome : Except Exception (Option Bool))
    (performed : con.perform engine history (.destroy index) = some (next, outcome)) :
    next.cache.limit = con.cache.limit ∧
      Shelved engine con next (.destroy index) := by
  obtain ⟨after, enabled, same⟩ := Option.map_eq_some_iff.mp performed
  cases same
  have sources := step_sources inStep.state _ next enabled fun _ _ same => by cases same
  cases moved_of_step _ enabled with
  | destroy _ command found =>
      have live : Outline.liveAt index con.outlines = some (Slot.outline ⟨command, .live⟩) := by
        rw [liveAt_outlines, (commandAt_eq_some _ _ _ _).mpr found, Option.map_some]
      rcases destroy_cases index command inStep.isOpen with
        ⟨absent, cache, _⟩ | ⟨stmt, own, schemaChange, cache, _⟩ |
          ⟨stmt, own, ordinary, cache, _⟩
      · have kept : (Slot.outline ⟨command, .live⟩).released = false := by
          simp [Outline.released, Slot.outline, absent]
        refine ⟨by rw [cache], .destroy index _ 0 live ?_ sources⟩
        rw [kept, cache]
        rfl
      · have kept : (Slot.outline ⟨command, .live⟩).released = false := by
          simp [Outline.released, Slot.outline, schemaChange]
        refine ⟨by rw [cache], .destroy index _ 0 live ?_ sources⟩
        rw [kept, cache]
        rfl
      · have moved : (Slot.outline ⟨command, .live⟩).released = true := by
          simp [Outline.released, Slot.outline, own, ordinary]
        refine ⟨by rw [cache, Cache.release_limit], .destroy index _ stmt live ?_ sources⟩
        rw [moved, cache, Cache.release_entries]
        rfl

theorem perform_shelved (inStep : InStep engine db lengthLimit con) (history : List Observed)
    (op : ProgramOp) (next : Connection) (outcome : Except Exception (Option Bool))
    (performed : con.perform engine history op = some (next, outcome)) :
    next.cache.limit = con.cache.limit ∧
      Shelved engine con next op := by
  cases op with
  | construct sql => exact construct_shelved inStep history sql next outcome performed
  | use index op => exact use_shelved inStep history index op next outcome performed
  | destroy index => exact destroy_shelved inStep history index next outcome performed

theorem perform_outlines (inStep : InStep engine db lengthLimit con) (history : List Observed)
    (op : ProgramOp) :
    (con.perform engine history op).map (fun done => done.1.outlines) =
      Outline.step engine.prepare con.outlines op := by
  cases op with
  | construct sql =>
      obtain ⟨next, performed, constructed⟩ := perform_construct inStep history sql
      obtain ⟨new, slots, fresh⟩ := constructed.slots
      have outline : new.outline = .constructed sql (engine.prepare sql) := by
        rw [← constructed.inStep.state.private_outline new
          (slots ▸ List.mem_append_right _ (List.mem_singleton_self new)), fresh, Private.fresh]
        cases engine.prepare sql <;> rfl
      rw [performed, Option.map_some, outlines, slots, List.map_append, List.map_singleton, outline]
      rfl
  | use index op =>
      simp only [perform, Outline.step, liveAt_outlines]
      cases at_ : con.commandAt .live index with
      | none => rfl
      | some command =>
          have found := (commandAt_eq_some _ _ _ _).mp at_
          simp only [Option.bind_some, step, at_, Option.map_some, Option.some.injEq]
          generalize engine.answer history _ = answer
          have keeps := op.run_keeps answer (con.session command)
          have same : Slot.outline ⟨(op.run answer (con.session command)).1.command, .live⟩ =
              Slot.outline ⟨command, .live⟩ := by
            rw [Slot.outline, Slot.outline]
            simp only [Outline.mk.injEq, true_and]
            exact ⟨keeps.sql, congrArg Option.isSome keeps.stmt⟩
          change (con.slots.set index _).map Slot.outline = con.slots.map Slot.outline
          obtain ⟨bounded, here⟩ := List.getElem?_eq_some_iff.mp found
          rw [List.map_set, same, ← List.map_set, ← here, List.set_getElem_self bounded]
  | destroy index =>
      simp only [perform, Outline.step, liveAt_outlines, step]
      cases at_ : con.commandAt .live index with
      | none => rfl
      | some command =>
          simp only [Option.map_some, Option.some.injEq]
          rw [outlines, destroy, setSlot, (finalize_frame command con).2, List.map_set]
          rfl

end Effect

/-! ## No text twice -/

/-- No two commands of a text exist at once, and no text of a command is in the cache. -/
structure Apart (con : Connection) : Prop where
  alone : ∀ sql, con.outlines.countP (Outline.inUse sql) ≤ 1
  away : ∀ sql, 0 < con.outlines.countP (Outline.inUse sql) → sql ∉ con.cachedTexts

section Apart
variable {engine : Engine} {db : DbHandle} {lengthLimit : Nat} {con : Connection}

theorem constructed_inUse (sql text : Text) (compiled : Compiled)
    (found : (Outline.constructed text compiled).inUse sql = true) : sql = text := by
  simp only [Outline.inUse, Bool.and_eq_true, decide_eq_true_eq] at found
  rw [← found.2]
  cases compiled <;> rfl

theorem Apart.step_of_fewer (apart : Apart con) (next : Connection)
    (fewer : ∀ sql, next.outlines.countP (Outline.inUse sql) ≤
      con.outlines.countP (Outline.inUse sql))
    (texts : ∀ sql ∈ next.cachedTexts, sql ∈ con.cachedTexts ∨
      next.outlines.countP (Outline.inUse sql) = 0) : Apart next := by
  refine ⟨fun sql => Nat.le_trans (fewer sql) (apart.alone sql), fun sql used member => ?_⟩
  rcases texts sql member with old | unused
  · exact apart.away sql (Nat.lt_of_lt_of_le used (fewer sql)) old
  · rw [unused] at used
    exact Nat.lt_irrefl 0 used

theorem apart_construct (apart : Apart con) (sql : Text) (compiled : Compiled)
    (follows : con.outlines.countP (Outline.inUse sql) = 0) (next : Connection)
    (commands : next.outlines = con.outlines ++ [.constructed sql compiled])
    (texts : ∀ text ∈ next.cachedTexts, text ∈ con.cachedTexts ∧ text ≠ sql) : Apart next := by
  have counted : ∀ text, next.outlines.countP (Outline.inUse text) ≤
      con.outlines.countP (Outline.inUse text) + if text = sql then 1 else 0 := by
    intro text
    rw [commands, List.countP_append, List.countP_singleton]
    by_cases new : (Outline.constructed sql compiled).inUse text = true
    · exact Nat.le_of_eq (by rw [if_pos new, if_pos (constructed_inUse text sql compiled new)])
    · rw [if_neg new]
      exact Nat.add_le_add_left (Nat.zero_le _) _
  refine ⟨fun text => ?_, fun text used member => ?_⟩
  · have here := counted text
    by_cases same : text = sql
    · subst same
      rw [follows, if_pos rfl] at here
      exact here
    · rw [if_neg same] at here
      exact Nat.le_trans here (apart.alone text)
  · obtain ⟨old, different⟩ := texts text member
    have here := counted text
    rw [if_neg different] at here
    exact apart.away text (Nat.lt_of_lt_of_le used here) old

theorem apart_destroy (apart : Apart con) (index : Nat) (outline : Outline)
    (live : Outline.liveAt index con.outlines = some outline) (next : Connection)
    (commands : next.outlines = con.outlines.set index outline.destroyed)
    (texts : ∀ sql ∈ next.cachedTexts, sql ∈ con.cachedTexts ∨ sql = outline.sql) :
    Apart next := by
  obtain ⟨found, alive⟩ := (Outline.liveAt_eq_some _ _ _).mp live
  have counted : ∀ sql, next.outlines.countP (Outline.inUse sql) +
      (if outline.inUse sql = true then 1 else 0) =
        con.outlines.countP (Outline.inUse sql) := by
    intro sql
    rw [commands]
    exact countP_set_add (Outline.inUse sql) _ index outline _ found
  refine apart.step_of_fewer next (fun sql => ?_) fun sql member => ?_
  · exact Nat.le_of_add_right_le (Nat.le_of_eq (counted sql))
  · rcases texts sql member with old | rfl
    · exact Or.inl old
    · have used : outline.inUse outline.sql = true := by simp [Outline.inUse, alive]
      have here := counted outline.sql
      have once := apart.alone outline.sql
      rw [if_pos used] at here
      omega

theorem apart_step (apart : Apart con) (op : ProgramOp) (follows : Outline.Follows con.outlines op)
    (next : Connection)
    (outlines : Outline.step engine.prepare con.outlines op = some next.outlines)
    (shelved : Shelved engine con next op) : Apart next := by
  cases shelved with
  | construct sql kept shelf entries _ =>
      refine apart_construct apart sql (engine.prepare sql) follows next
        (Option.some.inj outlines).symm fun text member => ?_
      rw [cachedTexts, entries, Recency.keys_erase, List.mem_filter, decide_eq_true_eq] at member
      refine ⟨?_, member.2⟩
      rw [shelf] at member
      split at member
      · cases member.1
      · exact member.1
  | use index op entries _ =>
      obtain ⟨_, _, same⟩ := Option.map_eq_some_iff.mp outlines
      refine apart.step_of_fewer next (fun sql => Nat.le_of_eq (by rw [same])) fun sql member => ?_
      rw [cachedTexts, entries] at member
      exact Or.inl member
  | destroy index outline stmt live entries _ =>
      obtain ⟨other, again, result⟩ := Option.map_eq_some_iff.mp outlines
      cases Option.some.inj (live.symm.trans again)
      refine apart_destroy apart index outline live next result.symm fun sql member => ?_
      rw [cachedTexts, entries] at member
      split at member
      · obtain ⟨entry, stored, rfl⟩ := List.mem_map.mp member
        rcases Recency.mem_insert _ _ _ _ entry stored with old | ⟨new, _⟩
        · exact Or.inl (List.mem_map_of_mem old)
        · rw [new]
          exact Or.inr rfl
      · exact Or.inl member

end Apart

/-! ## Two caches -/

/-- Two connections that have run one program, the second with more room. -/
structure Nested (engine copy : Engine) (db : DbHandle) (lengthLimit : Nat)
    (small large : Execution) : Prop where
  left : InStep engine db lengthLimit small.con
  right : InStep copy db lengthLimit large.con
  same : small.con.outlines = large.con.outlines
  apart : Apart large.con
  room : small.con.cache.limit ≤ large.con.cache.limit
  texts : small.con.cachedTexts <+: large.con.cachedTexts
  spent : ∀ sql, large.con.sqlite.sources.count sql ≤ small.con.sqlite.sources.count sql

section Nested
variable {engine copy : Engine} {db : DbHandle} {lengthLimit : Nat} {small large : Execution}

theorem entries_bounded (cache : Cache) : cache.entries.length ≤ cache.limit := by
  have bounded := cache.wellFormed.bounded
  rw [Cache.entries, StatementCache.entries, List.length_map]
  exact bounded

theorem step_program (execution : Execution)
    (inStep : InStep engine db lengthLimit execution.con) (op : ProgramOp) (next : Execution)
    (enabled : Execution.step engine execution (.program op) = some next) :
    InStep engine db lengthLimit next.con ∧
      next.con.cache.limit = execution.con.cache.limit ∧
      Outline.step engine.prepare execution.con.outlines op = some next.con.outlines ∧
      Shelved engine execution.con next.con op := by
  obtain ⟨⟨con, outcome⟩, performed, same⟩ := Option.map_eq_some_iff.mp enabled
  cases same
  have outlines := perform_outlines inStep execution.history op
  rw [performed, Option.map_some] at outlines
  obtain ⟨limit, shelved⟩ := perform_shelved inStep execution.history op con outcome performed
  exact ⟨perform_inStep inStep execution.history op con outcome performed, limit, outlines.symm,
    shelved⟩

theorem Nested.shelved (nested : Nested engine copy db lengthLimit small large) (op : ProgramOp)
    (prepares : copy.prepare = engine.prepare) (next after : Connection)
    (left : Shelved engine small.con next op) (right : Shelved copy large.con after op) :
    next.cachedTexts <+: after.cachedTexts ∧
      ∀ sql, after.sqlite.sources.count sql ≤ next.sqlite.sources.count sql := by
  have texts := nested.texts
  cases left with
  | construct sql kept shelf entries sources =>
      cases right with
      | construct _ twin twinShelf twinEntries twinSources =>
          have before : kept.map Prod.fst <+: twin.map Prod.fst := by
            rw [shelf, twinShelf]
            split
            · exact List.prefix_refl _
            · exact texts
          constructor
          · rw [cachedTexts, cachedTexts, entries, twinEntries]
            exact Recency.nested_erase sql kept twin before
          · intro text
            rw [sources, twinSources, prepares, List.count_append, List.count_append]
            refine Nat.add_le_add (nested.spent text) ?_
            by_cases stocked : sql ∈ twin.map Prod.fst
            · rw [if_pos stocked]
              exact Nat.zero_le _
            · have missed : sql ∉ kept.map Prod.fst := fun found => stocked (before.subset found)
              exact Nat.le_of_eq (by rw [if_neg stocked, if_neg missed])
  | use index op entries sources =>
      cases right with
      | use _ _ twinEntries twinSources =>
          rw [cachedTexts, cachedTexts, entries, twinEntries, sources, twinSources]
          exact ⟨texts, nested.spent⟩
  | destroy index outline stmt live entries sources =>
      cases right with
      | destroy _ twin other twinLive twinEntries twinSources =>
          rw [nested.same, twinLive, Option.some.injEq] at live
          subst live
          rw [sources, twinSources]
          refine ⟨?_, nested.spent⟩
          rw [cachedTexts, cachedTexts, entries, twinEntries]
          split
          · obtain ⟨found, alive⟩ := (Outline.liveAt_eq_some _ _ _).mp twinLive
            have used := countP_pos_of_getElem? (Outline.inUse twin.sql) _ index twin found
              (by simp [Outline.inUse, alive])
            exact Recency.nested_insert _ _ nested.room twin.sql stmt other _ _
              (entries_bounded _) (entries_bounded _) (nested.apart.away twin.sql used) texts
          · exact texts

theorem nested_program (nested : Nested engine copy db lengthLimit small large)
    (prepares : copy.prepare = engine.prepare) (op : ProgramOp)
    (follows : Outline.Follows small.con.outlines op) (next : Execution)
    (enabled : Execution.step engine small (.program op) = some next) :
    ∃ after, Execution.step copy large (.program op) = some after ∧
      Nested engine copy db lengthLimit next after := by
  obtain ⟨left, limit, outlines, shelved⟩ := step_program small nested.left op next enabled
  have possible := perform_outlines nested.right large.history op
  rw [prepares, ← nested.same, outlines] at possible
  obtain ⟨⟨con, outcome⟩, performed, _⟩ := Option.map_eq_some_iff.mp possible
  obtain ⟨after, taken⟩ : ∃ after, Execution.step copy large (.program op) = some after := by
    rw [Execution.step, performed]
    exact ⟨_, rfl⟩
  obtain ⟨right, twinLimit, twinOutlines, twinShelved⟩ :=
    step_program large nested.right op after taken
  obtain ⟨texts, spent⟩ := nested.shelved op prepares next.con after.con shelved twinShelved
  refine ⟨after, taken, left, right, ?_, ?_, ?_, texts, spent⟩
  · rw [prepares, ← nested.same, outlines] at twinOutlines
    exact Option.some.inj twinOutlines
  · exact apart_step nested.apart op (nested.same ▸ follows) after.con twinOutlines twinShelved
  · rw [limit, twinLimit]
    exact nested.room

/-- An operation on the cache itself: the commands stay, and the cache is empty. -/
structure Emptied (engine : Engine) (db : DbHandle) (lengthLimit : Nat)
    (execution next : Execution) : Prop where
  inStep : InStep engine db lengthLimit next.con
  outlines : next.con.outlines = execution.con.outlines
  texts : next.con.cachedTexts = []
  sources : next.con.sqlite.sources = execution.con.sqlite.sources

theorem step_silent (execution : Execution) (inStep : InStep engine db lengthLimit execution.con)
    (op : ScriptOp) (silent : op.program? = none) :
    ∃ next, Execution.step engine execution op = some next := by
  obtain ⟨next, enabled, _⟩ :=
    Option.map_eq_some_iff.mp (cache_silent inStep execution.history op silent)
  exact ⟨next, enabled⟩

theorem step_emptied (execution : Execution) (inStep : InStep engine db lengthLimit execution.con)
    (op : ScriptOp) (silent : op.program? = none) (next : Execution)
    (enabled : Execution.step engine execution op = some next) :
    Emptied engine db lengthLimit execution next := by
  cases op with
  | program op => cases silent
  | configure config =>
      obtain ⟨emptied, taken, same⟩ := Option.map_eq_some_iff.mp enabled
      cases same
      have sources := step_sources inStep.state _ emptied taken fun _ _ same => by cases same
      have after := step_inStep inStep _ emptied taken (fun same => by cases same)
        fun _ _ _ same => by cases same
      cases moved_of_step _ taken with
      | configure _ _ => exact ⟨after, rfl, rfl, sources⟩
  | clearCache =>
      obtain ⟨emptied, taken, same⟩ := Option.map_eq_some_iff.mp enabled
      cases same
      have sources := step_sources inStep.state _ emptied taken fun _ _ same => by cases same
      have after := step_inStep inStep _ emptied taken (fun same => by cases same)
        fun _ _ _ same => by cases same
      cases moved_of_step _ taken with
      | clearCache _ => exact ⟨after, rfl, rfl, sources⟩

theorem nested_silent (nested : Nested engine copy db lengthLimit small large) (op twin : ScriptOp)
    (silent : op.program? = none) (twinSilent : twin.program? = none) (next : Execution)
    (enabled : Execution.step engine small op = some next)
    (room : ∀ after, Execution.step copy large twin = some after →
      next.con.cache.limit ≤ after.con.cache.limit) :
    ∃ after, Execution.step copy large twin = some after ∧
      Nested engine copy db lengthLimit next after := by
  obtain ⟨after, taken⟩ := step_silent large nested.right twin twinSilent
  have left := step_emptied small nested.left op silent next enabled
  have right := step_emptied large nested.right twin twinSilent after taken
  refine ⟨after, taken, left.inStep, right.inStep, ?_, ⟨?_, ?_⟩, room after taken, ?_, ?_⟩
  · rw [left.outlines, right.outlines, nested.same]
  · rw [right.outlines]
    exact nested.apart.alone
  · intro sql _ member
    rw [right.texts] at member
    cases member
  · have both := left.texts.trans right.texts.symm
    exact both ▸ List.prefix_refl _
  · rw [left.sources, right.sources]
    exact nested.spent

theorem nested_step (nested : Nested engine copy db lengthLimit small large)
    (prepares : copy.prepare = engine.prepare) (op twin : ScriptOp)
    (roomier : ScriptOp.Roomier op twin)
    (follows : ∀ seen, op.program? = some seen → Outline.Follows small.con.outlines seen)
    (next : Execution) (enabled : Execution.step engine small op = some next) :
    ∃ after, Execution.step copy large twin = some after ∧
      Nested engine copy db lengthLimit next after := by
  cases roomier with
  | program op => exact nested_program nested prepares op (follows op rfl) next enabled
  | configure config other room =>
      refine nested_silent nested _ _ rfl rfl next enabled fun after taken => ?_
      obtain ⟨_, left, rfl⟩ := Option.map_eq_some_iff.mp enabled
      obtain ⟨_, right, rfl⟩ := Option.map_eq_some_iff.mp taken
      cases moved_of_step _ left
      cases moved_of_step _ right
      exact room
  | clearCache =>
      refine nested_silent nested _ _ rfl rfl next enabled fun after taken => ?_
      obtain ⟨_, left, rfl⟩ := Option.map_eq_some_iff.mp enabled
      obtain ⟨_, right, rfl⟩ := Option.map_eq_some_iff.mp taken
      cases moved_of_step _ left
      cases moved_of_step _ right
      exact nested.room

theorem follows_cons (inStep : InStep engine db lengthLimit small.con) (op : ScriptOp)
    (rest : List ScriptOp) (next : Execution)
    (follows : EveryStep (Outline.step engine.prepare) Outline.Follows
      ((op :: rest).filterMap ScriptOp.program?) small.con.outlines)
    (enabled : Execution.step engine small op = some next) :
    (∀ seen, op.program? = some seen → Outline.Follows small.con.outlines seen) ∧
      EveryStep (Outline.step engine.prepare) Outline.Follows
        (rest.filterMap ScriptOp.program?) next.con.outlines := by
  cases sees : op.program? with
  | none =>
      have emptied := step_emptied small inStep op sees next enabled
      rw [List.filterMap_cons_none sees, ← emptied.outlines] at follows
      exact ⟨fun _ same => (by cases same), follows⟩
  | some seen =>
      have matched : op = .program seen := by
        cases op with
        | program op => exact congrArg ScriptOp.program (Option.some.inj sees)
        | configure config => cases sees
        | clearCache => cases sees
      subst matched
      obtain ⟨_, _, outlines, _⟩ := step_program small inStep seen next enabled
      rw [List.filterMap_cons_some sees] at follows
      obtain ⟨here, later⟩ := follows next.con.outlines outlines
      exact ⟨fun _ same => Option.some.inj same ▸ here, later⟩

theorem nested_run (nested : Nested engine copy db lengthLimit small large)
    (prepares : copy.prepare = engine.prepare) (script twin : List ScriptOp)
    (roomier : List.Forall₂ ScriptOp.Roomier script twin)
    (follows : EveryStep (Outline.step engine.prepare) Outline.Follows
      (script.filterMap ScriptOp.program?) small.con.outlines) (less : Execution)
    (run : exec (Execution.step engine) script small = some less) :
    ∃ more, exec (Execution.step copy) twin large = some more ∧
      Nested engine copy db lengthLimit less more := by
  induction roomier generalizing small large with
  | nil =>
      cases Option.some.inj run
      exact ⟨large, rfl, nested⟩
  | cons head _ ih =>
      obtain ⟨next, enabled, later⟩ := exec_cons_some _ _ _ _ _ run
      obtain ⟨here, others⟩ := follows_cons nested.left _ _ next follows enabled
      obtain ⟨after, taken, nextNested⟩ := nested_step nested prepares _ _ head here next enabled
      obtain ⟨more, twinRun, final⟩ := ih nextNested others later
      refine ⟨more, ?_, final⟩
      rw [exec, taken]
      exact twinRun

theorem opened_nested (engine copy : Engine) (db : DbHandle) (lengthLimit : Nat)
    (config other : StatementCacheConfig)
    (room : (Cache.construct config).limit ≤ (Cache.construct other).limit) :
    Nested engine copy db lengthLimit ⟨opened db lengthLimit config, []⟩
      ⟨opened db lengthLimit other, []⟩ :=
  ⟨opened_inStep engine db lengthLimit config, opened_inStep copy db lengthLimit other, rfl,
    ⟨fun _ => Nat.zero_le 1, fun _ used => absurd used (Nat.lt_irrefl 0)⟩, room,
    List.prefix_refl _, fun _ => Nat.le_refl _⟩

end Nested

/-- A program constructs a command only when no other of its text is left.  With a cache that is
never smaller it compiles no text more often, whatever comes of its steps in either run. -/
theorem larger_cache_compiles_no_more (engine copy : Engine)
    (prepares : copy.prepare = engine.prepare) (db : DbHandle) (lengthLimit : Nat)
    (config other : StatementCacheConfig)
    (room : (Cache.construct config).limit ≤ (Cache.construct other).limit)
    (script twin : List ScriptOp) (roomier : List.Forall₂ ScriptOp.Roomier script twin)
    (follows : EveryStep (Outline.step engine.prepare) Outline.Follows
      (script.filterMap ScriptOp.program?) []) (less : Execution)
    (run : exec (Execution.step engine) script ⟨opened db lengthLimit config, []⟩ = some less) :
    ∃ more, exec (Execution.step copy) twin ⟨opened db lengthLimit other, []⟩ = some more ∧
      (∀ sql, (more.con.sqlite.stmts.map Stmt.source).count sql ≤
        (less.con.sqlite.stmts.map Stmt.source).count sql) ∧
      more.con.sqlite.stmts.length ≤ less.con.sqlite.stmts.length := by
  have start := opened_nested engine copy db lengthLimit config other room
  obtain ⟨more, twinRun, nested⟩ := nested_run start prepares script twin roomier follows less run
  refine ⟨more, twinRun, nested.spent, ?_⟩
  have within : more.con.sqlite.sources.Subperm less.con.sqlite.sources :=
    List.subperm_ext_iff.mpr fun sql _ => nested.spent sql
  have shorter := within.length_le
  rw [Sqlite.sources, Sqlite.sources, List.length_map, List.length_map] at shorter
  exact shorter

def alternating (config : StatementCacheConfig) : List ScriptOp :=
  [.configure config, .program (.construct (ascii "SELECT 1")), .program (.destroy 0),
    .program (.construct (ascii "SELECT 2")), .program (.destroy 1),
    .program (.construct (ascii "SELECT 1"))]

theorem larger_cache_compiles_no_more_alternating :
    ∃ less more,
      exec (Execution.step oneRow) (alternating ⟨1, true⟩) ⟨opened 0 1000 {}, []⟩ =
        some less ∧
      exec (Execution.step oneRow) (alternating ⟨2, true⟩) ⟨opened 0 1000 {}, []⟩ =
        some more ∧
      less.con.sqlite.stmts.length = 3 ∧ more.con.sqlite.stmts.length = 2 ∧
      more.con.sqlite.stmts.length ≤ less.con.sqlite.stmts.length := by
  have compared := larger_cache_compiles_no_more oneRow oneRow rfl 0 1000 {} {} (Nat.le_refl _)
    (alternating ⟨1, true⟩) (alternating ⟨2, true⟩)
    (.cons (.configure _ _ (by decide)) (.cons (.program _) (.cons (.program _)
      (.cons (.program _) (.cons (.program _) (.cons (.program _) .nil)))))) ?_ _ rfl
  · obtain ⟨more, twinRun, _, shorter⟩ := compared
    have size : ((exec (Execution.step oneRow) (alternating ⟨2, true⟩)
        ⟨opened 0 1000 {}, []⟩).map fun final => final.con.sqlite.stmts.length) = some 2 := rfl
    rw [twinRun] at size
    exact ⟨_, more, rfl, twinRun, rfl, Option.some.inj size, shorter⟩
  apply everyStep_cons (Outline.step oneRow.prepare) _ _ _ _ _ rfl rfl
  apply everyStep_cons (Outline.step oneRow.prepare) _ _ _ _ _ rfl trivial
  apply everyStep_cons (Outline.step oneRow.prepare) _ _ _ _ _ rfl rfl
  apply everyStep_cons (Outline.step oneRow.prepare) _ _ _ _ _ rfl trivial
  exact everyStep_cons (Outline.step oneRow.prepare) _ _ _ _ _ rfl rfl trivial

/-- Two commands of one text overlap, and two other texts come in between. -/
def overlappingTexts : List ScriptOp :=
  [.program (.construct (ascii "A")), .program (.construct (ascii "A")), .program (.destroy 0),
    .program (.construct (ascii "B")), .program (.destroy 2),
    .program (.construct (ascii "C")), .program (.destroy 3), .program (.destroy 1),
    .program (.construct (ascii "D")), .program (.destroy 4), .program (.construct (ascii "A"))]

-- Overlapping commands of one text: three statements of room cost a compilation more than two.
example : [2, 3].map (fun capacity =>
    (exec (Execution.step oneRow) overlappingTexts
      ⟨opened 0 1000 ⟨capacity, true⟩, []⟩).map fun final =>
        final.con.sqlite.stmts.length) = [some 5, some 6] := by decide

end Connection
end VSQLite
