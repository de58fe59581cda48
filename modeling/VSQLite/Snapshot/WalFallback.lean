import Mathlib.Data.List.Nodup
import VSQLite.Connection.Sources
import VSQLite.Snapshot.JournalMode

/-!
# The fallback from WAL2

What the rejected attempt of `enable_wal` leaves behind: its statement, stopped at the row and
not reset, in the cache.
-/

set_option autoImplicit false

namespace VSQLite
open Lib

/-! ## A query of a pragma -/

namespace Connection

/-- On an open connection the cached statements can be stepped, each for its text. -/
structure Filed (db : DbHandle) (con : Connection) : Prop where
  isOpen : con.handle = some db
  filed : ∀ entry ∈ con.cache.entries, ∃ stmt, con.sqlite.stmts[entry.2]? = some stmt ∧
    stmt.finalized = false ∧ stmt.db = db ∧ stmt.source = entry.1

theorem filed_of_owned {db : DbHandle} {con : Connection} (state : Owned db con)
    (sourced : Sourced con) (isOpen : con.handle = some db) : Filed db con := by
  refine ⟨isOpen, fun entry member => ?_⟩
  have cached : 0 < con.cached entry.2 :=
    List.count_pos_iff.mpr (List.mem_map_of_mem (f := Prod.snd) member)
  obtain ⟨stmt, present, alive, home⟩ :=
    state.ledger.found entry.2 (Nat.lt_of_lt_of_le cached (Nat.le_add_left _ _))
  have source := sourced.cache entry member
  rw [Sqlite.sourceOf, present, Option.map_some, Option.some.injEq] at source
  exact ⟨stmt, present, alive, home, source⟩

/-- The statement a query of the text gets: the cached one, or else the next to be compiled. -/
def statementFor (sql : Text) (con : Connection) : StmtId :=
  (Recency.lookup sql con.cache.entries).getD con.sqlite.stmts.length

/-- The error with which a query of the text fails; none if a statement is cached. -/
def prepareFails (prepareError : Option Nat) (sql : Text) (con : Connection) : Option Nat :=
  if (Recency.lookup sql con.cache.entries).isSome then none else prepareError

section Query
variable {db : DbHandle} {con : Connection} (filed : Filed db con)
include filed

theorem Filed.lt_length (entry : Text × StmtId) (member : entry ∈ con.cache.entries) :
    entry.2 < con.sqlite.stmts.length := by
  obtain ⟨stmt, present, _⟩ := filed.filed entry member
  exact (List.getElem?_eq_some_iff.mp present).1

theorem Filed.same_text (first second : Text × StmtId) (firstIn : first ∈ con.cache.entries)
    (secondIn : second ∈ con.cache.entries) (same : first.2 = second.2) : first.1 = second.1 := by
  obtain ⟨stmt, present, _, _, source⟩ := filed.filed first firstIn
  obtain ⟨other, alsoPresent, _, _, otherSource⟩ := filed.filed second secondIn
  rw [same, alsoPresent] at present
  cases present
  exact source.symm.trans otherSource

theorem Filed.statementFor_ne (sql : Text) (entry : Text × StmtId)
    (member : entry ∈ con.cache.entries) (other : entry.1 ≠ sql) :
    entry.2 ≠ con.statementFor sql := by
  intro same
  rw [statementFor] at same
  cases found : Recency.lookup sql con.cache.entries with
  | none =>
      rw [found] at same
      have inside := filed.lt_length entry member
      exact Nat.ne_of_lt inside same
  | some stmt =>
      rw [found] at same
      have stored := Recency.mem_of_lookup sql stmt con.cache.entries found
      exact other (filed.same_text entry (sql, stmt) member stored same)

theorem Filed.distinct (sql : Text) :
    (con.statementFor sql :: Recency.values (Recency.erase sql con.cache.entries)).Nodup := by
  refine List.nodup_cons.mpr ⟨fun member => ?_, ?_⟩
  · obtain ⟨entry, kept, same⟩ := List.mem_map.mp member
    obtain ⟨stored, other⟩ := (Recency.mem_erase sql entry _).mp kept
    exact filed.statementFor_ne sql entry stored other same
  · refine List.Nodup.map_on ?_ (Recency.keyed_erase sql _ con.cache.keyed).of_map
    intro first firstIn second secondIn same
    have firstStored := ((Recency.mem_erase sql first _).mp firstIn).1
    have secondStored := ((Recency.mem_erase sql second _).mp secondIn).1
    exact Prod.ext (filed.same_text first second firstStored secondStored same) same

end Query

/-- A query of the text has been prepared. -/
structure Prepared (db : DbHandle) (sql : Text) (own : StmtId) (before after : Connection) :
    Prop where
  isOpen : after.handle = some db
  limit : after.cache.limit = before.cache.limit
  entries : after.cache.entries = Recency.erase sql before.cache.entries
  stmt : ∃ stmt, after.sqlite.stmts[own]? = some stmt ∧ stmt.position = .ready ∧
    stmt.finalized = false ∧ stmt.db = db ∧ stmt.source = sql
  others : ∀ other, other ≠ own → after.sqlite.stmts[other]? = before.sqlite.stmts[other]?

theorem checkout_ready (db : DbHandle) (sql : Text) (id : StmtId) (sqlite : Sqlite) (stmt : Stmt)
    (present : sqlite.stmts[id]? = some stmt) (home : stmt.db = db) :
    ∃ used ready, StatementCache.checkout db sql id sqlite = (used, some id) ∧
      Uses id sqlite used ∧ used.stmts[id]? = some ready ∧ ready.position = .ready ∧
      ready.identity = stmt.identity := by
  have own : sqlite3DbHandle id sqlite = some db := by
    rw [sqlite3DbHandle, present, Option.map_some, home]
  obtain ⟨uses, _⟩ := StatementCache.uses_checkout db sql id sqlite own
  rcases StatementCache.checkout_cases db sql id sqlite with ⟨_, result⟩ | ⟨foreign, _⟩
  · rw [result] at uses ⊢
    refine ⟨_, { stmt with
      position := .ready
      bindings := stmt.parameters.map fun _ => .null }, rfl, uses, ?_, rfl, rfl⟩
    simp [Sqlite.record, sqlite3ClearBindings, sqlite3Reset, Sqlite.modify, present]
  · exact absurd own foreign

section Query
variable {db : DbHandle} {con : Connection} (filed : Filed db con)
include filed

theorem preparePragma_prepared (prepareError : Option Nat) (sql : Text)
    (obtains : con.prepareFails prepareError sql = none) :
    ∃ after, con.preparePragma prepareError sql =
        (after, .ok ⟨sql, some (con.statementFor sql), 0⟩) ∧
      Prepared db sql (con.statementFor sql) con after := by
  have erased := con.cache.acquire_entries db sql con.sqlite
  have sameLimit := con.cache.acquire_limit db sql con.sqlite
  have looked := con.cache.acquire_result db sql con.sqlite
  simp only [preparePragma, filed.isOpen]
  rw [acquireCachedStatement_of_open sql con db filed.isOpen]
  cases found : Recency.lookup sql con.cache.entries with
  | some id =>
      obtain ⟨stmt, present, alive, home, source⟩ := filed.filed (sql, id)
        (Recency.mem_of_lookup sql id con.cache.entries found)
      obtain ⟨used, ready, result, uses, stays, position, identity⟩ :=
        checkout_ready db sql id con.sqlite stmt present home
      simp only [found, result] at looked
      simp only [looked, statementFor, found, Option.getD_some]
      simp only [Stmt.identity, Prod.mk.injEq] at identity
      obtain ⟨sameDb, sameSource, _, sameFinalized⟩ := identity
      refine ⟨_, rfl, filed.isOpen, sameLimit, erased, ⟨ready, stays, position, ?_, ?_, ?_⟩,
        uses.others⟩
      · rw [sameFinalized, alive]
      · rw [sameDb, home]
      · rw [sameSource, source]
  | none =>
      have compiles : prepareError = none := by
        simpa [prepareFails, found] using obtains
      subst compiles
      simp only [found] at looked
      simp only [looked, statementFor, found, Option.getD_none, sqlite3PrepareV2]
      refine ⟨_, rfl, filed.isOpen, sameLimit, erased, ⟨_, List.getElem?_concat_length, rfl, rfl,
        rfl, rfl⟩, fun other different => ?_⟩
      by_cases earlier : other < con.sqlite.stmts.length
      · exact List.getElem?_append_left earlier
      · have later : con.sqlite.stmts.length < other :=
          Nat.lt_of_le_of_ne (Nat.le_of_not_lt earlier) (Ne.symm different)
        rw [List.getElem?_eq_none (Nat.le_of_lt later), List.getElem?_eq_none]
        rw [List.length_append]
        exact later

theorem preparePragma_fails (prepareError : Option Nat) (sql : Text) (code : Nat)
    (fails : con.prepareFails prepareError sql = some code) :
    ∃ after, con.preparePragma prepareError sql =
        (after, .error (.databaseExceptionCode (.error code) sql)) ∧
      after.handle = con.handle ∧ after.cache.entries = con.cache.entries ∧
      after.sqlite = con.sqlite := by
  have erased := con.cache.acquire_entries db sql con.sqlite
  have looked := con.cache.acquire_result db sql con.sqlite
  simp only [preparePragma, filed.isOpen]
  rw [acquireCachedStatement_of_open sql con db filed.isOpen]
  cases found : Recency.lookup sql con.cache.entries with
  | some id => simp [prepareFails, found] at fails
  | none =>
      have error : prepareError = some code := by
        simpa [prepareFails, found] using fails
      subst error
      simp only [found] at looked
      simp only [looked, sqlite3PrepareV2]
      refine ⟨_, rfl, filed.isOpen, ?_, rfl⟩
      rw [erased, Recency.erase_eq_self]
      exact (Recency.lookup_eq_none_iff _ _).mp found

end Query

theorem finalize_ordinary {db : DbHandle} (con : Connection) (isOpen : con.handle = some db)
    (sql : Text) (own : StmtId) (ordinary : isSchemaChangingStatement sql = false) :
    let moved := Recency.insert con.cache.limit sql own con.cache.entries
    let after := con.finalize ⟨sql, some own, 0⟩
    after.handle = some db ∧ after.cache.entries = moved.1 ∧
      ∀ id : StmtId, after.sqlite.stmts[id]? = con.sqlite.stmts[id]?.map fun stmt =>
        { stmt with finalized := stmt.finalized || decide (id ∈ moved.2) } := by
  intro moved after
  have released : after = con.releaseCachedStatement sql own := by
    have closing := finalize_of_some ⟨sql, some own, 0⟩ con db isOpen own rfl
    rw [ordinary] at closing
    exact closing
  rw [released, releaseCachedStatement_of_open sql own con db isOpen]
  refine ⟨isOpen, con.cache.release_entries sql own con.sqlite, fun id => ?_⟩
  dsimp only
  rw [Cache.release_stmts, StatementCache.finalizeAll_getElem?]

end Connection

/-! ## `set_wal_mode` -/

theorem Sqlite.midExecution_lt_length (id : StmtId) (sqlite : Sqlite)
    (running : sqlite.midExecution id = true) : id < sqlite.stmts.length := by
  by_contra outside
  rw [midExecution, List.getElem?_eq_none (Nat.le_of_not_lt outside)] at running
  cases running

theorem Sqlite.othersMidExecution_iff (own : StmtId) (sqlite : Sqlite) :
    sqlite.othersMidExecution own = true ↔ ∃ id, id ≠ own ∧ sqlite.midExecution id = true := by
  simp only [othersMidExecution, List.any_eq_true, List.mem_range, Bool.and_eq_true,
    decide_eq_true_eq]
  constructor
  · rintro ⟨id, _, other, running⟩
    exact ⟨id, other, running⟩
  · rintro ⟨id, other, running⟩
    exact ⟨id, midExecution_lt_length id sqlite running, other, running⟩

theorem Sqlite.othersMidExecution_of_fresh (own : StmtId) (sqlite : Sqlite)
    (fresh : sqlite.stmts.length ≤ own) :
    sqlite.othersMidExecution own = true ↔ ∃ id, sqlite.midExecution id = true := by
  rw [othersMidExecution_iff]
  constructor
  · rintro ⟨id, _, running⟩
    exact ⟨id, running⟩
  · rintro ⟨id, running⟩
    have inside := midExecution_lt_length id sqlite running
    exact ⟨id, Nat.ne_of_lt (Nat.lt_of_lt_of_le inside fresh), running⟩

theorem pragmaArgument_journalPragma (mode : WalMode) :
    pragmaArgument (cString (journalPragma mode)) = mode.toString := by
  cases mode <;> rfl

theorem journalPragma_not_schema (mode : WalMode) :
    isSchemaChangingStatement (journalPragma mode) = false := by
  cases mode <;> decide

theorem wal2_ne_wal : journalPragma .wal2 ≠ journalPragma .wal := by decide

namespace Journaled
open Connection

def answered (requested : WalMode) (ran : ResultCode × JournalMode) : Except Exception WalMode :=
  match ran.1 with
  | .row => checkReported requested ran.2.name
  | .done => .error (.databaseException (ascii "Failed to set journal_mode."))
  | .misuse => .error (.databaseMisuseExceptionCode .misuse (journalPragma requested))
  | err => .error (.databaseExceptionCode err (journalPragma requested))

def ownStatement (requested : WalMode) (con : Connection) : StmtId :=
  con.statementFor (journalPragma requested)

def ran (engine : JournalEngine) (requested : WalMode) (con : Connection) (mode : JournalMode) :
    ResultCode × JournalMode :=
  engine.execute (JournalMode.read requested.toString)
    (con.sqlite.othersMidExecution (ownStatement requested con)) mode

/-- What the cache gives up when the query is destroyed. -/
def freed (requested : WalMode) (con : Connection) : List StmtId :=
  (Recency.insert con.cache.limit (journalPragma requested) (ownStatement requested con)
    (Recency.erase (journalPragma requested) con.cache.entries)).2

/-- What `set_wal_mode` leaves of the connection when it has executed its pragma. -/
structure Executed (db : DbHandle) (requested : WalMode) (code : ResultCode)
    (before after : Connection) : Prop where
  isOpen : after.handle = some db
  entries : after.cache.entries =
    (Recency.insert before.cache.limit (journalPragma requested) (ownStatement requested before)
      (Recency.erase (journalPragma requested) before.cache.entries)).1
  stmt : ∃ stmt, after.sqlite.stmts[ownStatement requested before]? = some stmt ∧
    stmt.position = Position.ready.after code ∧
    stmt.finalized = decide (ownStatement requested before ∈ freed requested before) ∧
    stmt.db = db ∧ stmt.source = journalPragma requested
  others : ∀ other, other ≠ ownStatement requested before →
    after.sqlite.stmts[other]? = before.sqlite.stmts[other]?.map fun stmt =>
      { stmt with finalized := stmt.finalized || decide (other ∈ freed requested before) }

theorem nextRow_spec (engine : JournalEngine) (requested : WalMode) (con : Connection)
    (mode : JournalMode) (own : StmtId) (stmt : Stmt) (isOpen : con.handle.isSome)
    (present : con.sqlite.stmts[own]? = some stmt)
    (source : stmt.source = journalPragma requested) :
    let ran := engine.execute (JournalMode.read requested.toString)
      (con.sqlite.othersMidExecution own) mode
    ∃ sqlite, nextRow engine ⟨journalPragma requested, some own, 0⟩ ⟨con, mode⟩ =
        (⟨{ con with sqlite := sqlite }, ran.2⟩,
          match ran.1 with
          | .row => .ok true
          | .done => .ok false
          | .misuse => .error (.databaseMisuseExceptionCode .misuse (journalPragma requested))
          | err => .error (.databaseExceptionCode err (journalPragma requested))) ∧
      sqlite.stmts[own]? = some { stmt with position := stmt.position.after ran.1 } ∧
      ∀ other, other ≠ own → sqlite.stmts[other]? = con.sqlite.stmts[other]? := by
  intro ran
  have passed : Session.accessCheck ⟨con.handle, con.sqlite,
      ⟨journalPragma requested, some own, 0⟩⟩ = .ok own := by
    have notClosed : con.handle.isNone = false := by simp [isOpen]
    simp [Session.accessCheck, notClosed]
  have argument : pragmaArgument stmt.call.sql = requested.toString := by
    rw [Stmt.call, source, pragmaArgument_journalPragma]
  simp only [nextRow, session, passed, Session.step, sqlite3Step, present, argument]
  refine ⟨_, rfl, ?_, ?_⟩
  · simp [Sqlite.modify, present, argument, ran]
  · intro other different
    simp [Sqlite.modify, Ne.symm different]

theorem setWalMode_executed {db : DbHandle} {con : Connection} (filed : Filed db con)
    (engine : JournalEngine) (requested : WalMode) (mode : JournalMode)
    (obtains : con.prepareFails engine.prepareError (journalPragma requested) = none) :
    ∃ after, setWalMode engine requested ⟨con, mode⟩ =
        (⟨after, (ran engine requested con mode).2⟩,
          answered requested (ran engine requested con mode)) ∧
      Executed db requested (ran engine requested con mode).1 con after := by
  obtain ⟨opened, preparation, prepared⟩ : ∃ after,
      con.preparePragma engine.prepareError (journalPragma requested) =
        (after, .ok ⟨journalPragma requested, some (ownStatement requested con), 0⟩) ∧
      Prepared db (journalPragma requested) (ownStatement requested con) con after :=
    preparePragma_prepared filed engine.prepareError (journalPragma requested) obtains
  obtain ⟨stmt, present, ready, alive, home, source⟩ := prepared.stmt
  have sameOthers : opened.sqlite.othersMidExecution (ownStatement requested con) =
      con.sqlite.othersMidExecution (ownStatement requested con) := by
    rw [Bool.eq_iff_iff, Sqlite.othersMidExecution_iff, Sqlite.othersMidExecution_iff]
    refine exists_congr fun id => and_congr_right fun different => ?_
    rw [midExecution_congr id con.sqlite opened.sqlite (prepared.others id different)]
  obtain ⟨sqlite, row, stays, others⟩ := nextRow_spec engine requested opened mode
    (ownStatement requested con) stmt (by rw [prepared.isOpen]; rfl) present source
  rw [sameOthers] at row stays
  have closed := finalize_ordinary { opened with sqlite := sqlite } prepared.isOpen
    (journalPragma requested) (ownStatement requested con) (journalPragma_not_schema requested)
  rw [prepared.entries, prepared.limit] at closed
  obtain ⟨isOpen, entries, stmts⟩ := closed
  refine ⟨_, ?_, isOpen, entries, ?_, ?_⟩
  · simp only [setWalMode, preparation, row, ran, answered]
    cases (engine.execute (JournalMode.read requested.toString)
      (con.sqlite.othersMidExecution (ownStatement requested con)) mode).1 <;> rfl
  · have here := stmts (ownStatement requested con)
    rw [stays, Option.map_some] at here
    refine ⟨_, here, ?_, ?_, home, source⟩
    · rw [ready]
      rfl
    · rw [alive]
      rfl
  · intro other different
    rw [stmts other, others other different, prepared.others other different]
    rfl

theorem setWalMode_fails {db : DbHandle} {con : Connection} (filed : Filed db con)
    (engine : JournalEngine) (requested : WalMode) (mode : JournalMode) (code : Nat)
    (fails : con.prepareFails engine.prepareError (journalPragma requested) = some code) :
    ∃ after, setWalMode engine requested ⟨con, mode⟩ =
        (⟨after, mode⟩, .error (.databaseExceptionCode (.error code) (journalPragma requested))) ∧
      after.handle = con.handle ∧ after.cache.entries = con.cache.entries ∧
      after.sqlite = con.sqlite := by
  obtain ⟨after, preparation, same⟩ :=
    preparePragma_fails filed engine.prepareError (journalPragma requested) code fails
  exact ⟨after, by simp only [setWalMode, preparation], same⟩

/-- What `set_wal_mode` returns or throws, and the mode it leaves. -/
def outcomeOf (engine : JournalEngine) (requested : WalMode) (con : Connection)
    (mode : JournalMode) : Except Exception WalMode × JournalMode :=
  match con.prepareFails engine.prepareError (journalPragma requested) with
  | some code =>
      (.error (.databaseExceptionCode (.error code) (journalPragma requested)), mode)
  | none => (answered requested (ran engine requested con mode), (ran engine requested con mode).2)

theorem setWalMode_outcome {db : DbHandle} {con : Connection} (filed : Filed db con)
    (engine : JournalEngine) (requested : WalMode) (mode : JournalMode) :
    ((setWalMode engine requested ⟨con, mode⟩).2,
        (setWalMode engine requested ⟨con, mode⟩).1.mode) =
      outcomeOf engine requested con mode := by
  unfold outcomeOf
  cases fails : con.prepareFails engine.prepareError (journalPragma requested) with
  | some code =>
      obtain ⟨after, result, _⟩ := setWalMode_fails filed engine requested mode code fails
      rw [result]
  | none =>
      obtain ⟨after, result, _⟩ := setWalMode_executed filed engine requested mode fails
      rw [result]

/-! ## What the rejected attempt leaves -/

namespace Executed
variable {db : DbHandle} {requested : WalMode} {code : ResultCode} {con after : Connection}

theorem not_freed (executed : Executed db requested code con after) (filed : Filed db con)
    (entry : Text × StmtId) (kept : entry ∈ after.cache.entries) :
    entry.2 ∉ freed requested con := by
  rw [executed.entries] at kept
  exact Recency.not_displaced _ _ _ _ _ (filed.distinct (journalPragma requested))
    (List.mem_map_of_mem kept)

theorem filed (executed : Executed db requested code con after) (filed : Filed db con) :
    Filed db after := by
  refine ⟨executed.isOpen, fun entry kept => ?_⟩
  have notFreed := executed.not_freed filed entry kept
  rw [executed.entries] at kept
  rcases Recency.mem_insert _ _ _ _ entry kept with old | ⟨rfl, _⟩
  · obtain ⟨stored, other⟩ := (Recency.mem_erase _ entry _).mp old
    obtain ⟨stmt, present, alive, home, source⟩ := filed.filed entry stored
    have different := filed.statementFor_ne (journalPragma requested) entry stored other
    have here := executed.others entry.2 different
    rw [present, Option.map_some] at here
    exact ⟨_, here, by simp [alive, notFreed], home, source⟩
  · obtain ⟨stmt, present, _, alive, home, source⟩ := executed.stmt
    exact ⟨stmt, present, by simpa [notFreed] using alive, home, source⟩

theorem midExecution_own (executed : Executed db requested .row con after) :
    after.sqlite.midExecution (ownStatement requested con) =
      !decide (ownStatement requested con ∈ freed requested con) := by
  obtain ⟨stmt, present, position, alive, _⟩ := executed.stmt
  simp only [Sqlite.midExecution, present, alive, position]
  exact Bool.and_true _

theorem midExecution_other (executed : Executed db requested code con after) (id : StmtId)
    (different : id ≠ ownStatement requested con) (kept : id ∉ freed requested con) :
    after.sqlite.midExecution id = con.sqlite.midExecution id := by
  apply midExecution_congr
  rw [executed.others id different]
  cases con.sqlite.stmts[id]? with
  | none => rfl
  | some stmt => simp [kept]

end Executed

/-- The attempt stops its statement at a row and the cache keeps it. -/
def Leaves (engine : JournalEngine) (con : Connection) : Prop :=
  0 < con.cache.limit ∧ con.prepareFails engine.prepareError (journalPragma .wal2) = none

section Attempt
variable {db : DbHandle} {con after : Connection}

/-- Where WAL2's own statement stays in the cache, it is in the way of any other. -/
theorem Executed.others_of_kept (executed : Executed db .wal2 .row con after)
    (filed : Filed db con) (caching : 0 < con.cache.limit) :
    after.sqlite.othersMidExecution (ownStatement .wal after) = true := by
  have stored : (journalPragma .wal2, ownStatement .wal2 con) ∈ after.cache.entries := by
    rw [executed.entries]
    exact Recency.mem_insert_new _ _ _ _ ⟨caching, Recency.lookup_erase_self _ _⟩
  have notFreed := executed.not_freed filed _ stored
  rw [Sqlite.othersMidExecution_iff]
  refine ⟨ownStatement .wal2 con, ?_, ?_⟩
  · exact (executed.filed filed).statementFor_ne (journalPragma .wal) _ stored wal2_ne_wal
  · rw [executed.midExecution_own]
    simpa using notFreed

theorem ownStatement_of_empty (requested : WalMode) (con : Connection)
    (empty : con.cache.entries = []) : ownStatement requested con = con.sqlite.stmts.length := by
  rw [ownStatement, statementFor, empty]
  rfl

theorem Executed.others_of_off (executed : Executed db .wal2 .row con after)
    (off : con.cache.limit = 0) :
    after.sqlite.othersMidExecution (ownStatement .wal after) =
      con.sqlite.othersMidExecution (ownStatement .wal con) := by
  have empty : con.cache.entries = [] := con.cache.wellFormed.entries_eq_nil off
  have refused : Recency.insert con.cache.limit (journalPragma .wal2) (ownStatement .wal2 con)
      (Recency.erase (journalPragma .wal2) con.cache.entries) = ([], [ownStatement .wal2 con]) := by
    rw [empty]
    exact Recency.insert_of_not_accepts _ _ _ _ fun accepted => Nat.lt_irrefl 0 (off ▸ accepted.1)
  have left : after.cache.entries = [] := by rw [executed.entries, refused]
  have onlyOwn : freed .wal2 con = [ownStatement .wal2 con] := by rw [freed, refused]
  have same : ∀ id, after.sqlite.midExecution id = con.sqlite.midExecution id := by
    intro id
    by_cases own : id = ownStatement .wal2 con
    · have absent : con.sqlite.midExecution id = false := by
        rw [Bool.eq_false_iff]
        intro running
        have inside := Sqlite.midExecution_lt_length id con.sqlite running
        rw [own, ownStatement_of_empty .wal2 con empty] at inside
        exact Nat.lt_irrefl _ inside
      rw [absent, own, executed.midExecution_own, onlyOwn]
      simp
    · exact executed.midExecution_other id own (by simpa [onlyOwn] using own)
  rw [Bool.eq_iff_iff, ownStatement_of_empty .wal after left, ownStatement_of_empty .wal con empty,
    Sqlite.othersMidExecution_of_fresh _ _ (Nat.le_refl _),
    Sqlite.othersMidExecution_of_fresh _ _ (Nat.le_refl _)]
  exact exists_congr fun id => by rw [same id]

theorem Executed.prepareFails_wal (executed : Executed db .wal2 .row con after)
    (prepareError : Option Nat)
    (obtains : con.prepareFails prepareError (journalPragma .wal2) = none) :
    after.prepareFails prepareError (journalPragma .wal) =
      con.prepareFails prepareError (journalPragma .wal) := by
  cases compiles : prepareError with
  | none => simp [prepareFails]
  | some code =>
      -- without the compiler the statement came from the cache, and goes back to its place
      have cached : (Recency.lookup (journalPragma .wal2) con.cache.entries).isSome = true := by
        by_contra missing
        simp [prepareFails, missing, compiles] at obtains
      obtain ⟨stmt, found⟩ := Option.isSome_iff_exists.mp cached
      have shorter := Recency.length_erase_lt _ _ _
        (Recency.mem_of_lookup _ stmt con.cache.entries found)
      have bounded : con.cache.entries.length ≤ con.cache.limit := by
        have short := con.cache.wellFormed.bounded
        simpa [Cache.entries, Cache.limit, StatementCache.entries] using short
      have accepted : Recency.Accepts con.cache.limit (journalPragma .wal2)
          (Recency.erase (journalPragma .wal2) con.cache.entries) :=
        ⟨by omega, Recency.lookup_erase_self _ _⟩
      have entries : after.cache.entries = (journalPragma .wal2, ownStatement .wal2 con) ::
          Recency.erase (journalPragma .wal2) con.cache.entries := by
        rw [executed.entries, Recency.insert_of_accepts _ _ _ _ accepted, if_neg (by omega)]
      simp only [prepareFails, entries, Recency.lookup_cons, if_neg wal2_ne_wal,
        Recency.lookup_erase_of_ne _ _ _ (Ne.symm wal2_ne_wal)]

theorem answered_wal2 (mode : JournalMode) :
    ∃ what, answered .wal2 (.row, mode) = .error (.databaseException what) := by
  cases mode <;> exact ⟨_, rfl⟩

/-- `enable_wal` asks for WAL after the rejected attempt. -/
theorem enableWal_falls_back (filed : Filed db con) (engine : JournalEngine) (mode : JournalMode) :
    ∃ after, enableWal engine true ⟨con, mode⟩ = setWalMode engine .wal ⟨after, mode⟩ ∧
      Filed db after ∧
      after.prepareFails engine.prepareError (journalPragma .wal) =
        con.prepareFails engine.prepareError (journalPragma .wal) ∧
      (Leaves engine con →
        after.sqlite.othersMidExecution (ownStatement .wal after) = true) ∧
      (¬Leaves engine con → after.sqlite.othersMidExecution (ownStatement .wal after) =
        con.sqlite.othersMidExecution (ownStatement .wal con)) := by
  cases fails : con.prepareFails engine.prepareError (journalPragma .wal2) with
  | some code =>
      obtain ⟨after, result, handle, entries, sqlite⟩ :=
        setWalMode_fails filed engine .wal2 mode code fails
      refine ⟨after, by rw [enableWal, if_pos rfl, result]; rfl, ⟨?_, ?_⟩, ?_, ?_, ?_⟩
      · rw [handle, filed.isOpen]
      · rw [entries, sqlite]
        exact filed.filed
      · rw [prepareFails, prepareFails, entries]
      · rintro ⟨_, obtains⟩
        rw [fails] at obtains
        cases obtains
      · intro _
        rw [ownStatement, statementFor, ownStatement, statementFor, entries, sqlite]
  | none =>
      obtain ⟨after, result, executed⟩ := setWalMode_executed filed engine .wal2 mode fails
      have asked : ran engine .wal2 con mode = (.row, mode) := rfl
      obtain ⟨what, rejected⟩ := answered_wal2 mode
      rw [asked] at result executed
      rw [rejected] at result
      refine ⟨after, by rw [enableWal, if_pos rfl, result]; rfl, executed.filed filed,
        executed.prepareFails_wal engine.prepareError fails, fun leaves => ?_, fun nothing => ?_⟩
      · exact executed.others_of_kept filed leaves.1
      · refine executed.others_of_off (Nat.eq_zero_of_not_pos fun caching => ?_)
        exact nothing ⟨caching, fails⟩

end Attempt

/-! ## The two ways to ask for WAL -/

/-- SQLite goes about the change into WAL, and does not refuse it in any case the way it refuses
it beside another execution. -/
def EntersWal (engine : JournalEngine) (mode : JournalMode) : Prop :=
  mode ≠ .wal ∧ engine.change mode .wal ≠ .kept ∧ engine.change mode .wal ≠ .error 1

/-- WAL could be had, were it not for the attempt at WAL2. -/
structure WalBlocked (engine : JournalEngine) (state : Journaled) : Prop where
  isOpen : state.con.handle.isSome
  leaves : Leaves engine state.con
  obtains : state.con.prepareFails engine.prepareError (journalPragma .wal) = none
  alone : state.con.sqlite.othersMidExecution (ownStatement .wal state.con) = false
  enters : EntersWal engine state.mode

theorem answered_others_iff (engine : JournalEngine) (mode : JournalMode) (others : Bool) :
    (answered .wal (engine.execute (some .wal) true mode),
        (engine.execute (some .wal) true mode).2) =
      (answered .wal (engine.execute (some .wal) others mode),
        (engine.execute (some .wal) others mode).2) ↔
      others = true ∨ ¬EntersWal engine mode := by
  cases others with
  | true => exact ⟨fun _ => Or.inl rfl, fun _ => rfl⟩
  | false =>
      by_cases stays : JournalMode.wal = mode ∨ engine.change mode .wal = .kept
      · have same : ∀ others, engine.execute (some .wal) others mode = (.row, mode) := by
          intro others
          simp only [JournalEngine.execute, if_pos stays]
        rw [same, same]
        refine ⟨fun _ => Or.inr ?_, fun _ => rfl⟩
        rintro ⟨notWal, notKept, _⟩
        rcases stays with already | kept
        · exact notWal already.symm
        · exact notKept kept
      · have notWal : mode ≠ .wal := fun already => stays (Or.inl already.symm)
        have notKept : engine.change mode .wal ≠ .kept := fun kept => stays (Or.inr kept)
        have refused : engine.execute (some .wal) true mode = (.error 1, mode) :=
          (if_neg stays).trans (if_pos ⟨Or.inr rfl, rfl⟩)
        have enters : EntersWal engine mode ↔ engine.change mode .wal ≠ .error 1 :=
          ⟨fun all => all.2.2, fun other => ⟨notWal, notKept, other⟩⟩
        rw [refused, enters]
        simp only [JournalEngine.execute, if_neg stays]
        cases change : engine.change mode .wal with
        | kept => exact absurd change notKept
        | busy => simp [answered]
        | made =>
            have differ : answered .wal (.error 1, mode) ≠ answered .wal (.row, .wal) :=
              fun same => by cases same
            simpa using fun same => absurd same differ
        | error code => simp [answered, eq_comm]

theorem ran_wal (engine : JournalEngine) (con : Connection) (mode : JournalMode) :
    ran engine .wal con mode = engine.execute (some .wal)
      (con.sqlite.othersMidExecution (ownStatement .wal con)) mode := rfl

theorem enableWal_of_closed (engine : JournalEngine) (con : Connection) (mode : JournalMode)
    (closed : con.handle = none) :
    enableWal engine true ⟨con, mode⟩ = enableWal engine false ⟨con, mode⟩ := by
  have fails : ∀ requested, setWalMode engine requested ⟨con, mode⟩ =
      (⟨con, mode⟩, .error (.databaseException (ascii "Database is not open."))) := by
    intro requested
    simp only [setWalMode, preparePragma, closed]
  rw [enableWal, if_pos rfl, enableWal, if_neg Bool.false_ne_true, fails .wal2]
  rfl

/-- In every state of a connection, asking for WAL2 first comes to the same as asking for WAL,
with the same journal mode after it, unless WAL could be had and the rejected attempt leaves its
statement in the way. -/
theorem enableWal_same_iff (engine : JournalEngine) (db : DbHandle) (state : Journaled)
    (reached : Connection.Reached db state.con) :
    ((enableWal engine true state).2 = (enableWal engine false state).2 ∧
        (enableWal engine true state).1.mode = (enableWal engine false state).1.mode) ↔
      ¬WalBlocked engine state := by
  obtain ⟨con, mode⟩ := state
  obtain ⟨owned, sourced⟩ := reached_sourced db con reached
  cases handle : con.handle with
  | none =>
      rw [enableWal_of_closed engine con mode handle]
      refine ⟨fun _ blocked => ?_, fun _ => ⟨rfl, rfl⟩⟩
      have isOpen : con.handle.isSome := blocked.isOpen
      rw [handle] at isOpen
      cases isOpen
  | some home =>
      have isOpen : con.handle = some db := owned.handle_of_isSome (by rw [handle]; rfl)
      have filed := filed_of_owned owned sourced isOpen
      obtain ⟨after, fallback, afterFiled, sameFails, kept, gone⟩ :=
        enableWal_falls_back filed engine mode
      have direct : enableWal engine false ⟨con, mode⟩ = setWalMode engine .wal ⟨con, mode⟩ := rfl
      rw [fallback, direct, ← Prod.mk.injEq, setWalMode_outcome afterFiled engine .wal mode,
        setWalMode_outcome filed engine .wal mode, outcomeOf, outcomeOf, sameFails]
      cases fails : con.prepareFails engine.prepareError (journalPragma .wal) with
      | some code =>
          refine ⟨fun _ blocked => ?_, fun _ => rfl⟩
          have obtains := blocked.obtains
          rw [fails] at obtains
          cases obtains
      | none =>
          simp only [ran_wal]
          by_cases leaves : Leaves engine con
          · rw [kept leaves, answered_others_iff]
            constructor
            · rintro (others | stays) blocked
              · rw [blocked.alone] at others
                cases others
              · exact stays blocked.enters
            · intro free
              by_contra neither
              obtain ⟨alone, enters⟩ := not_or.mp neither
              exact free ⟨by rw [isOpen]; rfl, leaves, fails, Bool.eq_false_iff.mpr alone,
                not_not.mp enters⟩
          · rw [gone leaves]
            exact ⟨fun _ blocked => leaves blocked.leaves, fun _ => rfl⟩

/-- A database in WAL already. -/
theorem enableWal_same_in_wal :
    (enableWal ⟨none, fun _ _ => .made⟩ true ⟨.opened 0 1000 {}, .wal⟩).2 =
      (enableWal ⟨none, fun _ _ => .made⟩ false ⟨.opened 0 1000 {}, .wal⟩).2 :=
  ((enableWal_same_iff ⟨none, fun _ _ => .made⟩ 0 ⟨.opened 0 1000 {}, .wal⟩
    ⟨1000, {}, [], rfl⟩).mpr fun blocked => blocked.enters.1 rfl).1

/-- A fresh connection to a database with a rollback journal. -/
theorem wal2_fallback_fails :
    (enableWal ⟨none, fun _ _ => .made⟩ true ⟨.opened 0 1000 {}, .delete⟩).2 =
        .error (.databaseExceptionCode (.error 1) (ascii "PRAGMA journal_mode = WAL;")) ∧
      (enableWal ⟨none, fun _ _ => .made⟩ true ⟨.opened 0 1000 {}, .delete⟩).1.mode = .delete ∧
      (enableWal ⟨none, fun _ _ => .made⟩ false ⟨.opened 0 1000 {}, .delete⟩).2 = .ok .wal ∧
      (enableWal ⟨none, fun _ _ => .made⟩ false ⟨.opened 0 1000 {}, .delete⟩).1.mode = .wal :=
  ⟨rfl, rfl, rfl, rfl⟩

end Journaled
end VSQLite
