import Mathlib.Data.List.Count
import Mathlib.Data.List.Perm.Subperm
import VSQLite.Connection.Sources

/-!
# What the cache is for

Where the texts in use fit into the cache, a text whose commands follow each other is compiled
once, whatever the commands of other texts do meanwhile.
-/

set_option autoImplicit false

namespace VSQLite
open Lib

def Sqlite.sources (sqlite : Sqlite) : List Text := sqlite.stmts.map Stmt.source

theorem Sqlite.sources_getElem? (sqlite : Sqlite) (id : StmtId) :
    sqlite.sources[id]? = sqlite.sourceOf id := by
  rw [sources, List.getElem?_map, sourceOf]

def Slot.presentAs (sql : Text) (slot : Slot) : Bool :=
  decide (slot.phase ≠ .dead) && decide (slot.command.sql = sql)

def Slot.compiles (sql : Text) (slot : Slot) : Bool :=
  decide (slot.phase = .preparing) && decide (slot.command.sql = sql)

namespace Connection

def present (sql : Text) (con : Connection) : Nat := con.slots.countP (Slot.presentAs sql)

def compiling (sql : Text) (con : Connection) : Nat := con.slots.countP (Slot.compiles sql)

/-- The program keeps to some texts, none of which changes the schema; it constructs a command
of the one text only when no other is left; and it leaves the cache alone. -/
def Reuses (texts : List Text) (sql : Text) (con : Connection) : Action → Prop
  | .construct text => text ∈ texts ∧ isSchemaChangingStatement text = false ∧
      (text = sql → con.present sql = 0)
  | .configure _ => False
  | .clearCache => False
  | .close => False
  | _ => True

structure Reusing (texts : List Text) (sql : Text) (con : Connection) : Prop where
  room : texts.length ≤ con.cache.limit
  cached : ∀ entry ∈ con.cache.entries, entry.1 ∈ texts
  named : ∀ slot ∈ con.slots, slot.phase ≠ .dead → slot.command.sql ∈ texts ∧
    isSchemaChangingStatement slot.command.sql = false ∧ slot.phase ≠ .clearing
  alone : con.present sql ≤ 1
  once : con.sqlite.sources.count sql + con.compiling sql ≤ 1
  kept : ∀ id, con.sqlite.sourceOf id = some sql → con.sqlite.freed id = 0

section Steps
variable {db : DbHandle} {texts : List Text} {sql : Text} {con : Connection}

theorem Reusing.same_slot (reusing : Reusing texts sql con) (first second : Nat)
    (left right : Slot) (leftFound : con.slots[first]? = some left)
    (leftPresent : left.presentAs sql = true) (rightFound : con.slots[second]? = some right)
    (rightPresent : right.presentAs sql = true) : left = right := by
  have same := index_unique_of_countP_le_one (Slot.presentAs sql) con.slots reusing.alone first
    second left right leftFound leftPresent rightFound rightPresent
  subst same
  exact Option.some.inj (leftFound.symm.trans rightFound)

theorem Reusing.uncompiled (reusing : Reusing texts sql con) (state : Owned db con)
    (sourced : Sourced con) (index : Nat) (command : Command)
    (found : con.slots[index]? = some ⟨command, .acquiring⟩) (own : command.sql = sql)
    (missed : Recency.lookup sql con.cache.entries = none) :
    con.sqlite.sources.count sql = 0 ∧ con.compiling sql = 0 := by
  have here : Slot.presentAs sql ⟨command, .acquiring⟩ = true := by
    simp [Slot.presentAs, own]
  constructor
  · apply List.count_eq_zero.mpr
    intro member
    obtain ⟨id, source⟩ := List.mem_iff_getElem?.mp member
    rw [Sqlite.sources_getElem?] at source
    have bounded : id < con.sqlite.stmts.length := by
      obtain ⟨stmt, present, _⟩ := Option.map_eq_some_iff.mp source
      exact (List.getElem?_eq_some_iff.mp present).1
    have place := state.ledger.place id
    rw [reusing.kept id source, if_pos bounded, Nat.add_zero] at place
    have stored : con.cached id = 0 := by
      apply List.count_eq_zero.mpr
      intro stored
      obtain ⟨entry, inCache, rfl⟩ := List.mem_map.mp stored
      have filed := (sourced.cache entry inCache).symm.trans source
      rw [Recency.lookup_eq_none_iff] at missed
      exact missed (Option.some.inj filed ▸ List.mem_map_of_mem inCache)
    have held : 0 < con.owned id := by omega
    obtain ⟨slot, inSlots, owns⟩ := List.countP_pos_iff.mp held
    simp only [Slot.owns, Bool.and_eq_true, decide_eq_true_eq] at owns
    obtain ⟨other, otherFound⟩ := List.mem_iff_getElem?.mp inSlots
    have named := (sourced.commands slot inSlots id owns.2).symm.trans source
    have there : slot.presentAs sql = true := by
      simp [Slot.presentAs, owns.1, Option.some.inj named]
    have same := reusing.same_slot index other _ _ found here otherFound there
    rw [← same] at owns
    cases owns.1
  · apply List.countP_eq_zero.mpr
    intro slot inSlots compiles
    simp only [Slot.compiles, Bool.and_eq_true, decide_eq_true_eq] at compiles
    obtain ⟨other, otherFound⟩ := List.mem_iff_getElem?.mp inSlots
    have there : slot.presentAs sql = true := by
      simp [Slot.presentAs, compiles.1, compiles.2]
    have same := reusing.same_slot index other _ _ found here otherFound there
    rw [← same] at compiles
    cases compiles.1

theorem Reusing.moved (reusing : Reusing texts sql con) (next : Connection) (index : Nat)
    (command new : Command) (before after : Phase)
    (found : con.slots[index]? = some ⟨command, before⟩) (alive : before ≠ .dead)
    (slots : next.slots = con.slots.set index ⟨new, after⟩) (named : new.sql = command.sql)
    (notClearing : after ≠ .clearing) :
    (∀ slot ∈ next.slots, slot.phase ≠ .dead → slot.command.sql ∈ texts ∧
      isSchemaChangingStatement slot.command.sql = false ∧ slot.phase ≠ .clearing) ∧
    next.present sql ≤ 1 ∧
    next.compiling sql + (if Slot.compiles sql ⟨command, before⟩ then 1 else 0) =
      con.compiling sql + (if Slot.compiles sql ⟨new, after⟩ then 1 else 0) := by
  obtain ⟨inTexts, ordinary, _⟩ := reusing.named _ (List.mem_of_getElem? found) alive
  have counted := countP_set_add (Slot.presentAs sql) con.slots index _ ⟨new, after⟩ found
  have compiled := countP_set_add (Slot.compiles sql) con.slots index _ ⟨new, after⟩ found
  refine ⟨fun slot member notDead => ?_, ?_, ?_⟩
  · rw [slots] at member
    rcases List.mem_or_eq_of_mem_set member with old | rfl
    · exact reusing.named slot old notDead
    · dsimp only at inTexts ordinary ⊢
      rw [named]
      exact ⟨inTexts, ordinary, notClearing⟩
  · have alone := reusing.alone
    have fewer : (if Slot.presentAs sql ⟨new, after⟩ then 1 else 0) ≤
        if Slot.presentAs sql ⟨command, before⟩ then 1 else 0 := by
      by_cases own : command.sql = sql
      · have here : Slot.presentAs sql ⟨command, before⟩ = true := by
          simp [Slot.presentAs, alive, own]
        rw [if_pos here]
        split <;> simp
      · have other : Slot.presentAs sql ⟨new, after⟩ = false := by
          simp [Slot.presentAs, named, own]
        rw [other]
        exact Nat.zero_le _
    simp only [present, slots] at alone counted ⊢
    omega
  · rw [compiling, slots]
    exact compiled

theorem sources_eq (before after : Sqlite)
    (same : ∀ id, after.sourceOf id = before.sourceOf id) : after.sources = before.sources := by
  apply List.ext_getElem?
  intro id
  rw [Sqlite.sources_getElem?, same, Sqlite.sources_getElem?]

theorem Reusing.step_of_command (reusing : Reusing texts sql con) (next : Connection)
    (index : Nat) (command new : Command) (before after : Phase)
    (found : con.slots[index]? = some ⟨command, before⟩) (alive : before ≠ .dead)
    (slots : next.slots = con.slots.set index ⟨new, after⟩) (named : new.sql = command.sql)
    (notClearing : after ≠ .clearing) (notPreparing : after ≠ .preparing)
    (limit : next.cache.limit = con.cache.limit)
    (entries : ∀ entry ∈ next.cache.entries, entry ∈ con.cache.entries ∨ entry.1 ∈ texts)
    (source : ∀ id, next.sqlite.sourceOf id = con.sqlite.sourceOf id)
    (freed : ∀ id, con.sqlite.sourceOf id = some sql → next.sqlite.freed id =
      con.sqlite.freed id) : Reusing texts sql next := by
  obtain ⟨names, alone, compiling⟩ := reusing.moved next index command new before after found alive
    slots named notClearing
  refine ⟨limit ▸ reusing.room, fun entry member => ?_, names, alone, ?_, fun id known => ?_⟩
  · rcases entries entry member with old | new
    · exact reusing.cached entry old
    · exact new
  · have once := reusing.once
    have not : Slot.compiles sql ⟨new, after⟩ = false := by simp [Slot.compiles, notPreparing]
    rw [not] at compiling
    rw [sources_eq _ _ source]
    simp only [Bool.false_eq_true, if_false] at compiling
    omega
  · rw [source] at known
    rw [freed id known]
    exact reusing.kept id known

theorem acquire_limit (index : Nat) (command : Command) (isOpen : con.handle = some db) :
    (con.acquire index command).cache.limit = con.cache.limit := by
  have same := con.cache.acquire_limit db command.sql con.sqlite
  rw [acquire, acquireCachedStatement_of_open command.sql con db isOpen]
  cases (con.cache.acquire db command.sql con.sqlite).2.2 <;> exact same

theorem acquire_reusing (reusing : Reusing texts sql con) (state : Owned db con)
    (sourced : Sourced con) (index : Nat) (command : Command)
    (found : con.slots[index]? = some ⟨command, .acquiring⟩) :
    Reusing texts sql (con.acquire index command) := by
  have isOpen := state.open_of_slot index command .acquiring found (by decide)
  have enabled : con.step (.acquire index) = some (con.acquire index command) := by
    rw [step, (commandAt_eq_some _ _ _ _).mpr found, Option.map_some]
  have source : ∀ id, (con.acquire index command).sqlite.sourceOf id = con.sqlite.sourceOf id := by
    intro id
    rw [Sqlite.sourceOf_eq_compiledOf, Sqlite.sourceOf_eq_compiledOf, step_compiledOf state _ _
      enabled (fun _ _ same => by cases same)]
  obtain ⟨entries, _, stmt, used⟩ := acquire_entries state index command isOpen
  have kept : ∀ entry ∈ (con.acquire index command).cache.entries, entry ∈ con.cache.entries := by
    intro entry member
    rw [entries] at member
    exact ((Recency.mem_erase _ _ _).mp member).1
  have limit := acquire_limit index command isOpen
  have handed := (con.cache.ledger_acquire command.sql con.owned state.ledger).2
  cases looked : Recency.lookup command.sql con.cache.entries with
  | some stored =>
      have slots : (con.acquire index command).slots =
          con.slots.set index ⟨{ command with stmt := some stored }, .live⟩ := by
        rw [acquire, acquireCachedStatement_of_open command.sql con db isOpen, handed, looked]
        rfl
      exact reusing.step_of_command _ index command _ .acquiring .live found (by decide) slots rfl
        (by decide) (by decide) limit (fun entry member => Or.inl (kept entry member)) source
        fun id _ => freed_of_uses used id
  | none =>
      have slots : (con.acquire index command).slots =
          con.slots.set index ⟨command, .preparing⟩ := by
        rw [acquire, acquireCachedStatement_of_open command.sql con db isOpen, handed, looked]
        rfl
      obtain ⟨names, alone, compiling⟩ := reusing.moved _ index command command .acquiring
        .preparing found (by decide) slots rfl (by decide)
      refine ⟨limit ▸ reusing.room, fun entry member => reusing.cached entry (kept entry member),
        names, alone, ?_, fun id known => ?_⟩
      · have once := reusing.once
        rw [sources_eq _ _ source]
        by_cases own : command.sql = sql
        · obtain ⟨first, idle⟩ := reusing.uncompiled state sourced index command found own
            (own ▸ looked)
          rw [first, Nat.zero_add]
          rw [idle] at compiling
          split at compiling <;> split at compiling <;> omega
        · have other : ∀ phase, Slot.compiles sql ⟨command, phase⟩ = false := by
            simp [Slot.compiles, own]
          rw [other, other] at compiling
          simp only [Bool.false_eq_true, if_false, Nat.add_zero] at compiling
          rw [compiling]
          exact once
      · rw [source] at known
        rw [freed_of_uses used]
        exact reusing.kept id known

theorem prepare_reusing (reusing : Reusing texts sql con) (state : Owned db con) (index : Nat)
    (command : Command) (compiled : Compiled)
    (found : con.slots[index]? = some ⟨command, .preparing⟩) :
    Reusing texts sql (con.prepare db index command compiled) := by
  cases compiled with
  | error code =>
      exact reusing.step_of_command _ index command command .preparing .dead found (by decide) rfl
        rfl (by decide) (by decide) rfl (fun _ member => Or.inl member) (fun _ => rfl)
        fun _ _ => rfl
  | empty =>
      exact reusing.step_of_command _ index command { command with stmt := none } .preparing .live
        found (by decide) rfl rfl (by decide) (by decide) rfl (fun _ member => Or.inl member)
        (fun _ => rfl) fun _ _ => rfl
  | statement parameters =>
      obtain ⟨names, alone, compiling⟩ := reusing.moved
        (con.prepare db index command (.statement parameters)) index command
        { command with stmt := some con.sqlite.stmts.length } .preparing .live found (by decide)
        rfl rfl (by decide)
      have freed : ∀ id, (con.prepare db index command (.statement parameters)).sqlite.freed id =
          con.sqlite.freed id := by
        intro id
        have older : (Event.prepared con.sqlite.stmts.length :: con.sqlite.log).count
            (.finalized id) = con.sqlite.log.count (.finalized id) := by simp
        exact older
      refine ⟨reusing.room, reusing.cached, names, alone, ?_, fun id known => ?_⟩
      · have once := reusing.once
        have live : Slot.compiles sql ⟨{ command with stmt := some con.sqlite.stmts.length },
            .live⟩ = false := rfl
        have sources : (con.prepare db index command (.statement parameters)).sqlite.sources =
            con.sqlite.sources ++ [command.sql] := by
          change (con.sqlite.stmts ++ [_]).map Stmt.source = _
          rw [List.map_append]
          rfl
        rw [live] at compiling
        rw [sources, List.count_append, List.count_singleton]
        simp only [Slot.compiles, decide_true, Bool.true_and, decide_eq_true_eq,
          Bool.false_eq_true, if_false, Nat.add_zero] at compiling
        simp only [beq_iff_eq]
        omega
      · rw [freed]
        by_cases bounded : id < con.sqlite.stmts.length
        · apply reusing.kept id
          rw [Sqlite.sourceOf] at known ⊢
          change (con.sqlite.stmts ++ [_])[id]?.map Stmt.source = some sql at known
          rw [List.getElem?_append_left bounded] at known
          exact known
        · have place := state.ledger.place id
          rw [if_neg bounded] at place
          omega

theorem Reusing.not_full (reusing : Reusing texts sql con) (text : Text) (inTexts : text ∈ texts)
    (absent : Recency.lookup text con.cache.entries = none) :
    con.cache.entries.length < con.cache.limit := by
  have distinct : (text :: con.cache.entries.map Prod.fst).Nodup :=
    List.nodup_cons.mpr ⟨(Recency.lookup_eq_none_iff _ _).mp absent, con.cache.keyed⟩
  have within : text :: con.cache.entries.map Prod.fst ⊆ texts := by
    intro key member
    rcases List.mem_cons.mp member with rfl | stored
    · exact inTexts
    · obtain ⟨entry, inCache, rfl⟩ := List.mem_map.mp stored
      exact reusing.cached entry inCache
  have fewer := (List.Nodup.subperm distinct within).length_le
  rw [List.length_cons, List.length_map] at fewer
  exact Nat.lt_of_lt_of_le fewer reusing.room

theorem release_freed (text : Text) (stmt : StmtId) (cache : Cache) (sqlite : Sqlite)
    (id : StmtId) : (cache.release text stmt sqlite).2.freed id =
      (Recency.insert cache.limit text stmt cache.entries).2.count id + sqlite.freed id := by
  have finalized : ∀ stmts : List StmtId,
      (StatementCache.finalizeAll stmts sqlite).freed id = stmts.count id + sqlite.freed id := by
    intro stmts
    have counted : (stmts.map Event.finalized).count (.finalized id) = stmts.count id :=
      List.count_map_of_injective stmts Event.finalized
        (fun _ _ same => Event.finalized.inj same) id
    rw [Sqlite.freed, StatementCache.finalizeAll_log, List.count_append, List.count_reverse,
      counted]
    rfl
  rw [Cache.release_result, ← finalized]
  dsimp only
  split
  · rw [Sqlite.freed, Sqlite.record, List.count_cons]
    simp [Sqlite.freed]
  · rfl

/-- A command gives its statement back, and nothing of the text is finalized. -/
theorem Reusing.not_displaced (reusing : Reusing texts sql con) (state : Owned db con)
    (sourced : Sourced con) (index : Nat) (command : Command)
    (found : con.slots[index]? = some ⟨command, .live⟩) (stmt : StmtId)
    (own : command.stmt = some stmt) (id : StmtId) (known : con.sqlite.sourceOf id = some sql) :
    id ∉ (Recency.insert con.cache.limit command.sql stmt con.cache.entries).2 := by
  obtain ⟨inTexts, _⟩ := reusing.named _ (List.mem_of_getElem? found) (by simp)
  intro displaced
  by_cases accepted : Recency.Accepts con.cache.limit command.sql con.cache.entries
  · have room := reusing.not_full command.sql inTexts accepted.2
    rw [Recency.insert_of_accepts _ _ _ _ accepted] at displaced
    simp only [if_neg (Nat.not_le.mpr room)] at displaced
    cases displaced
  · rw [Recency.insert_of_not_accepts _ _ _ _ accepted] at displaced
    cases List.mem_singleton.mp displaced
    have source := sourced.commands _ (List.mem_of_getElem? found) stmt own
    cases looked : Recency.lookup command.sql con.cache.entries with
    | none =>
        have positive : 0 < texts.length := List.length_pos_of_mem inTexts
        exact accepted ⟨Nat.lt_of_lt_of_le positive reusing.room, looked⟩
    | some other =>
        have stored := Recency.mem_of_lookup _ _ _ looked
        have filed := (sourced.cache _ stored).trans (source.symm.trans known)
        have once : con.sqlite.sources.countP (· == sql) ≤ 1 :=
          Nat.le_of_add_right_le reusing.once
        rw [← Sqlite.sources_getElem?] at filed known
        have same := index_unique_of_countP_le_one (· == sql) con.sqlite.sources once other stmt
          sql sql filed (beq_self_eq_true sql) known (beq_self_eq_true sql)
        exact state.cached_ne stmt (owned_pos index command con found stmt own) _ stored same

theorem destroy_reusing (reusing : Reusing texts sql con) (state : Owned db con)
    (sourced : Sourced con) (index : Nat) (command : Command)
    (found : con.slots[index]? = some ⟨command, .live⟩) :
    Reusing texts sql (con.destroy index command) := by
  have isOpen := state.open_of_slot index command .live found (by decide)
  have enabled : con.step (.destroy index) = some (con.destroy index command) := by
    rw [step, (commandAt_eq_some _ _ _ _).mpr found, Option.map_some]
  obtain ⟨inTexts, ordinary, _⟩ := reusing.named _ (List.mem_of_getElem? found) (by simp)
  have slots : (con.destroy index command).slots =
      con.slots.set index ⟨{ command with stmt := none }, .dead⟩ := by
    rw [destroy, setSlot, (finalize_frame command con).2]
  have source : ∀ id, (con.destroy index command).sqlite.sourceOf id =
      con.sqlite.sourceOf id := by
    intro id
    rw [Sqlite.sourceOf_eq_compiledOf, Sqlite.sourceOf_eq_compiledOf, step_compiledOf state _ _
      enabled (fun _ _ same => by cases same)]
  have moved := reusing.step_of_command (con.destroy index command) index command
    { command with stmt := none } .live .dead found (by decide) slots rfl (by decide) (by decide)
  rcases destroy_cases index command isOpen with
    ⟨_, cache, sqlite⟩ | ⟨stmt, _, schemaChange, _⟩ | ⟨stmt, own, _, cache, sqlite⟩
  · exact moved (by rw [cache]) (fun entry member => Or.inl (cache ▸ member)) source
      fun id _ => by rw [sqlite]
  · dsimp only at ordinary
    rw [ordinary] at schemaChange
    cases schemaChange
  · refine moved (by rw [cache, Cache.release_limit]) (fun entry member => ?_) source
      fun id known => ?_
    · rw [cache, Cache.release_entries] at member
      rcases Recency.mem_insert _ _ _ _ entry member with old | ⟨new, _⟩
      · exact Or.inl old
      · rw [new]
        exact Or.inr inTexts
    · have clear := reusing.not_displaced state sourced index command found stmt own id known
      rw [sqlite, release_freed, List.count_eq_zero.mpr clear, Nat.zero_add]

theorem construct_reusing (reusing : Reusing texts sql con) (text : Text)
    (inTexts : text ∈ texts) (ordinary : isSchemaChangingStatement text = false)
    (follows : text = sql → con.present sql = 0) : Reusing texts sql (con.construct text) := by
  have slots : (con.construct text).slots = con.slots ++ [⟨⟨text, none, 0⟩, .acquiring⟩] := by
    simp [construct, ordinary]
  refine ⟨reusing.room, reusing.cached, fun slot member notDead => ?_, ?_, ?_, reusing.kept⟩
  · rw [slots] at member
    rcases List.mem_append.mp member with old | new
    · exact reusing.named slot old notDead
    · rw [List.mem_singleton.mp new]
      exact ⟨inTexts, ordinary, by simp⟩
  · rw [present, slots, List.countP_append, List.countP_singleton]
    have alone := reusing.alone
    simp only [present] at alone follows
    by_cases own : text = sql
    · rw [follows own]
      split <;> simp
    · have other : Slot.presentAs sql ⟨⟨text, none, 0⟩, .acquiring⟩ = false := by
        simp [Slot.presentAs, own]
      rw [other]
      exact alone
  · have idle : Slot.compiles sql ⟨⟨text, none, 0⟩, .acquiring⟩ = false := rfl
    have same : (con.construct text).compiling sql = con.compiling sql := by
      rw [compiling, slots, List.countP_append, List.countP_singleton, idle]
      rfl
    rw [same]
    exact reusing.once

theorem use_reusing (reusing : Reusing texts sql con) (index : Nat) (command : Command)
    (op : CommandOp) (answer : StepCall → ResultCode)
    (found : con.slots[index]? = some ⟨command, .live⟩) :
    Reusing texts sql (con.use answer index command op) := by
  have keeps := op.run_keeps answer (con.session command)
  have unfreed : ∀ id, (con.use answer index command op).sqlite.sourceOf id =
      con.sqlite.sourceOf id ∧
      (con.use answer index command op).sqlite.freed id = con.sqlite.freed id := by
    intro id
    cases own : command.stmt with
    | none =>
        have idle : (con.use answer index command op).sqlite = con.sqlite := keeps.idle own
        rw [idle]
        exact ⟨rfl, rfl⟩
    | some stmt =>
        have used := keeps.uses stmt own
        exact ⟨used.source id, freed_of_uses used id⟩
  exact reusing.step_of_command _ index command _ .live .live found (by decide) rfl keeps.sql
    (by decide) (by decide) rfl (fun _ member => Or.inl member) (fun id => (unfreed id).1)
    fun id _ => (unfreed id).2

theorem step_reusing (reusing : Reusing texts sql con) (state : Owned db con)
    (sourced : Sourced con) (action : Action) (next : Connection)
    (reuses : Reuses texts sql con action) (enabled : con.step action = some next) :
    Reusing texts sql next := by
  cases moved_of_step action enabled with
  | construct text _ =>
      exact construct_reusing reusing text reuses.1 reuses.2.1 reuses.2.2
  | clearForSchema index command found =>
      have named := reusing.named _ (List.mem_of_getElem? found) (by simp)
      exact absurd rfl named.2.2
  | acquire index command found => exact acquire_reusing reusing state sourced index command found
  | prepare index compiled home command isOpen found =>
      have same := state.open_of_slot index command .preparing found (by decide)
      rw [isOpen] at same
      cases same
      exact prepare_reusing reusing state index command compiled found
  | use index op answer command found => exact use_reusing reusing index command op answer found
  | destroy index command found => exact destroy_reusing reusing state sourced index command found
  | configure config _ => exact reuses.elim
  | clearCache _ => exact reuses.elim
  | close _ _ => exact reuses.elim

theorem opened_reusing (lengthLimit : Nat) (config : StatementCacheConfig)
    (enabled : config.enabled = true) (fits : texts.length ≤ config.capacity) :
    Reusing texts sql (opened db lengthLimit config) := by
  refine ⟨?_, fun _ member => (by cases member), fun _ member => (by cases member),
    Nat.zero_le 1, Nat.zero_le 1, fun _ known => (by cases known)⟩
  have limit : (opened db lengthLimit config).cache.limit = config.capacity := if_pos enabled
  rw [limit]
  exact fits

end Steps

/-- Where the texts in use fit into the cache, a text is compiled at most once and its statement
is never finalized, as long as its own commands follow each other. -/
theorem text_compiled_once (db : DbHandle) (lengthLimit : Nat) (config : StatementCacheConfig)
    (enabled : config.enabled = true) (texts : List Text)
    (fits : texts.length ≤ config.capacity) (sql : Text) (actions : List Action)
    (con : Connection) (run : exec step actions (opened db lengthLimit config) = some con)
    (reuses : EveryStep step (Reuses texts sql) actions (opened db lengthLimit config)) :
    (con.sqlite.stmts.map Stmt.source).count sql ≤ 1 ∧
      ∀ stmt ∈ con.sqlite.stmts, stmt.source = sql → stmt.finalized = false := by
  have carried := everyStep_preserves step
    (fun con => (Owned db con ∧ Sourced con) ∧ Reusing texts sql con) (Reuses texts sql)
    (fun con action next here allowed stepped =>
      ⟨step_owned_sourced here.1 action next stepped,
        step_reusing here.2 here.1.1 here.1.2 action next allowed stepped⟩)
    actions _ con ⟨⟨opened_owned db lengthLimit config, opened_sourced db lengthLimit config⟩,
      opened_reusing lengthLimit config enabled fits⟩ reuses run
  obtain ⟨⟨state, _⟩, reusing⟩ := carried
  refine ⟨Nat.le_of_add_right_le reusing.once, fun stmt member source => ?_⟩
  obtain ⟨id, present⟩ := List.mem_iff_getElem?.mp member
  have kept := reusing.kept id (by rw [Sqlite.sourceOf, present, Option.map_some, source])
  rw [← Bool.not_eq_true, state.ledger.flag id stmt present, kept]
  exact Nat.zero_ne_one

/-- Two commands of one text after each other, beside two of another that overlap. -/
def repeatedRun : List Action :=
  [.construct (ascii "SELECT 1"), .acquire 0, .prepare 0 (.statement []),
    .construct (ascii "SELECT 2"), .construct (ascii "SELECT 2"), .acquire 1, .acquire 2,
    .prepare 1 (.statement []), .prepare 2 (.statement []), .destroy 0, .destroy 1,
    .construct (ascii "SELECT 1"), .destroy 2, .acquire 3]

theorem text_compiled_once_repeated :
    ∃ con, exec step repeatedRun (opened 0 1000 ⟨2, true⟩) = some con ∧
      (con.sqlite.stmts.map Stmt.source).count (ascii "SELECT 1") ≤ 1 ∧
      (∀ stmt ∈ con.sqlite.stmts, stmt.source = ascii "SELECT 1" → stmt.finalized = false) ∧
      con.owned 0 = 1 := by
  have once := text_compiled_once 0 1000 ⟨2, true⟩ rfl [ascii "SELECT 1", ascii "SELECT 2"]
    (by decide) (ascii "SELECT 1") repeatedRun _ rfl ?_
  · exact ⟨_, rfl, once.1, once.2, by decide⟩
  have first : Reuses [ascii "SELECT 1", ascii "SELECT 2"] (ascii "SELECT 1")
      (opened 0 1000 ⟨2, true⟩) (.construct (ascii "SELECT 1")) :=
    ⟨by decide, by decide, fun _ => rfl⟩
  have other : ∀ con, Reuses [ascii "SELECT 1", ascii "SELECT 2"] (ascii "SELECT 1")
      con (.construct (ascii "SELECT 2")) :=
    fun con => ⟨by decide, by decide, fun same => absurd same (by decide)⟩
  apply everyStep_cons step _ _ _ _ _ rfl first
  apply everyStep_cons step _ _ _ _ _ rfl trivial
  apply everyStep_cons step _ _ _ _ _ rfl trivial
  apply everyStep_cons step _ _ _ _ _ rfl (other _)
  apply everyStep_cons step _ _ _ _ _ rfl (other _)
  apply everyStep_cons step _ _ _ _ _ rfl trivial
  apply everyStep_cons step _ _ _ _ _ rfl trivial
  apply everyStep_cons step _ _ _ _ _ rfl trivial
  apply everyStep_cons step _ _ _ _ _ rfl trivial
  apply everyStep_cons step _ _ _ _ _ rfl trivial
  apply everyStep_cons step _ _ _ _ _ rfl trivial
  apply everyStep_cons step _ _ _ _ _ rfl ⟨by decide, by decide, fun _ => by decide⟩
  apply everyStep_cons step _ _ _ _ _ rfl trivial
  apply everyStep_cons step _ _ _ _ _ rfl trivial
  trivial

end Connection
end VSQLite
