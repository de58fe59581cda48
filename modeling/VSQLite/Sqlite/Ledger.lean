import VSQLite.Sqlite.Statement

/-!
# The ledger of statements

Who holds which statement, against the log of what happened to it.  `held id` is
the number of places that hold the statement; together with the number of times it
was finalized this is one for every statement that was prepared.
-/

set_option autoImplicit false

namespace VSQLite

/-- No event of the log concerns a statement that had been finalized before it. -/
def Linear : List Event → Prop
  | [] => True
  | event :: earlier => Event.finalized event.stmt ∉ earlier ∧ Linear earlier

def Sqlite.freed (sqlite : Sqlite) (id : StmtId) : Nat := sqlite.log.count (.finalized id)

structure Ledger (db : DbHandle) (held : StmtId → Nat) (sqlite : Sqlite) : Prop where
  place : ∀ id, held id + sqlite.freed id = if id < sqlite.stmts.length then 1 else 0
  linear : Linear sqlite.log
  flag : ∀ (id : StmtId) (stmt : Stmt), sqlite.stmts[id]? = some stmt →
    (stmt.finalized = true ↔ sqlite.freed id = 1)
  home : ∀ stmt ∈ sqlite.stmts, stmt.db = db

theorem linear_append (fresh log : List Event) (id : StmtId) (linear : Linear log)
    (alive : Event.finalized id ∉ log)
    (uses : ∀ event ∈ fresh, event.stmt = id ∧ event.isUse = true) :
    Linear (fresh ++ log) := by
  induction fresh with
  | nil => exact linear
  | cons event rest ih =>
      have tail := ih fun other member => uses other (List.mem_cons_of_mem _ member)
      refine ⟨?_, tail⟩
      obtain ⟨own, _⟩ := uses event (List.mem_cons_self ..)
      rw [own]
      intro member
      rcases List.mem_append.mp member with inRest | inLog
      · have use := (uses _ (List.mem_cons_of_mem _ inRest)).2
        cases use
      · exact alive inLog

theorem freed_of_uses {id : StmtId} {before after : Sqlite} (uses : Uses id before after)
    (other : StmtId) : after.freed other = before.freed other := by
  obtain ⟨fresh, log, only⟩ := uses.log
  have none : fresh.count (.finalized other) = 0 := by
    rw [List.count_eq_zero]
    intro member
    cases (only _ member).2.1
  rw [Sqlite.freed, log, List.count_append, none, Nat.zero_add]
  rfl

namespace Ledger

variable {db : DbHandle} {held : StmtId → Nat} {sqlite : Sqlite}

theorem congr (ledger : Ledger db held sqlite) {other : StmtId → Nat}
    (same : ∀ id, other id = held id) : Ledger db other sqlite := by
  refine ⟨fun id => ?_, ledger.linear, ledger.flag, ledger.home⟩
  rw [same id]
  exact ledger.place id

theorem held_le_one (ledger : Ledger db held sqlite) (id : StmtId) : held id ≤ 1 := by
  have total := ledger.place id
  split at total <;> omega

theorem not_freed (ledger : Ledger db held sqlite) (id : StmtId) (holds : 0 < held id) :
    sqlite.freed id = 0 := by
  have total := ledger.place id
  split at total <;> omega

theorem lt_length (ledger : Ledger db held sqlite) (id : StmtId) (holds : 0 < held id) :
    id < sqlite.stmts.length := by
  have total := ledger.place id
  split at total
  · assumption
  · omega

theorem found (ledger : Ledger db held sqlite) (id : StmtId) (holds : 0 < held id) :
    ∃ stmt, sqlite.stmts[id]? = some stmt ∧ stmt.finalized = false ∧ stmt.db = db := by
  have bounded := ledger.lt_length id holds
  have alive := ledger.not_freed id holds
  have present := List.getElem?_eq_getElem bounded
  refine ⟨_, present, ?_, ledger.home _ (List.getElem_mem bounded)⟩
  rw [← Bool.not_eq_true, ledger.flag id _ present]
  omega

theorem handle_eq (ledger : Ledger db held sqlite) (id : StmtId) (holds : 0 < held id) :
    sqlite3DbHandle id sqlite = some db := by
  obtain ⟨stmt, present, _, home⟩ := ledger.found id holds
  rw [sqlite3DbHandle, present, Option.map_some, home]

theorem uses (ledger : Ledger db held sqlite) {id : StmtId} (holds : 0 < held id)
    {after : Sqlite} (used : Uses id sqlite after) : Ledger db held after := by
  have alive : Event.finalized id ∉ sqlite.log :=
    List.count_eq_zero.mp (ledger.not_freed id holds)
  refine ⟨fun other => ?_, ?_, fun other stmt present => ?_, fun stmt member => ?_⟩
  · rw [freed_of_uses used other, used.length]
    exact ledger.place other
  · obtain ⟨fresh, log, only⟩ := used.log
    rw [log]
    exact linear_append fresh sqlite.log id ledger.linear alive
      fun event member => ⟨(only event member).1, (only event member).2.1⟩
  · have same := used.identity other
    rw [Sqlite.identityOf, Sqlite.identityOf, present, Option.map_some] at same
    obtain ⟨old, oldPresent, identity⟩ := Option.map_eq_some_iff.mp same.symm
    have flags : old.finalized = stmt.finalized := congrArg (fun parts => parts.2.2.2) identity
    rw [freed_of_uses used other, ← flags]
    exact ledger.flag other old oldPresent
  · obtain ⟨index, present⟩ := List.mem_iff_getElem?.mp member
    have same := used.identity index
    rw [Sqlite.identityOf, Sqlite.identityOf, present, Option.map_some] at same
    obtain ⟨old, oldPresent, identity⟩ := Option.map_eq_some_iff.mp same.symm
    have handles : old.db = stmt.db := congrArg Prod.fst identity
    rw [← handles]
    exact ledger.home old (List.mem_of_getElem? oldPresent)

theorem finalize (ledger : Ledger db held sqlite) {id : StmtId} (holds : 0 < held id) :
    Ledger db (fun other => held other - if other = id then 1 else 0)
      (sqlite3Finalize (some id) sqlite) := by
  have alive := ledger.not_freed id holds
  have counted : ∀ other, (sqlite3Finalize (some id) sqlite).freed other =
      sqlite.freed other + if other = id then 1 else 0 := by
    intro other
    have step : (Event.finalized id :: sqlite.log).count (.finalized other) =
        sqlite.log.count (.finalized other) + if other = id then 1 else 0 := by
      rw [List.count_cons]
      by_cases here : other = id
      · simp [here]
      · simp [here, Ne.symm here]
    exact step
  have sameLength : (sqlite3Finalize (some id) sqlite).stmts.length = sqlite.stmts.length :=
    List.length_modify ..
  refine ⟨fun other => ?_, ⟨List.count_eq_zero.mp alive, ledger.linear⟩,
    fun other stmt present => ?_, fun stmt member => ?_⟩
  · have total := ledger.place other
    rw [counted other, sameLength]
    by_cases here : other = id
    · subst here
      simp only [if_true]
      omega
    · simp only [if_neg here]
      omega
  · simp only [sqlite3Finalize, Sqlite.modify, List.getElem?_modify, Option.map_eq_map] at present
    obtain ⟨old, oldPresent, changed⟩ := Option.map_eq_some_iff.mp present
    rw [counted other]
    by_cases here : other = id
    · subst here
      rw [if_pos rfl] at changed
      rw [← changed, if_pos rfl, alive]
      simp
    · rw [if_neg (Ne.symm here)] at changed
      rw [← changed, if_neg here]
      exact ledger.flag other old oldPresent
  · obtain ⟨index, present⟩ := List.mem_iff_getElem?.mp member
    simp only [sqlite3Finalize, Sqlite.modify, List.getElem?_modify, Option.map_eq_map] at present
    obtain ⟨old, oldPresent, changed⟩ := Option.map_eq_some_iff.mp present
    have home := ledger.home old (List.mem_of_getElem? oldPresent)
    rw [← changed]
    split <;> exact home

theorem prepare (ledger : Ledger db held sqlite) (source : Text)
    (parameters : List (Option Text)) :
    Ledger db (fun id => held id + if id = sqlite.stmts.length then 1 else 0)
      (sqlite3PrepareV2 db source (.statement parameters) sqlite).2.2 := by
  have beyond : held sqlite.stmts.length + sqlite.freed sqlite.stmts.length = 0 := by
    have total := ledger.place sqlite.stmts.length
    rwa [if_neg (Nat.lt_irrefl _)] at total
  have counted : ∀ id,
      (sqlite3PrepareV2 db source (.statement parameters) sqlite).2.2.freed id =
        sqlite.freed id := by
    intro id
    have step : (Event.prepared sqlite.stmts.length :: sqlite.log).count (.finalized id) =
        sqlite.log.count (.finalized id) := by simp
    exact step
  refine ⟨fun id => ?_, ⟨?_, ledger.linear⟩, fun id stmt present => ?_, fun stmt member => ?_⟩
  · have total := ledger.place id
    rw [counted id]
    simp only [sqlite3PrepareV2, List.length_append, List.length_singleton]
    by_cases here : id = sqlite.stmts.length
    · subst here
      rw [if_neg (Nat.lt_irrefl _)] at total
      simp only [if_true, Nat.lt_succ_self]
      omega
    · have older : id < sqlite.stmts.length + 1 ↔ id < sqlite.stmts.length :=
        ⟨fun bound => Nat.lt_of_le_of_ne (Nat.le_of_lt_succ bound) here, Nat.lt_succ_of_lt⟩
      simp only [if_neg here, Nat.add_zero, older]
      exact total
  · exact List.count_eq_zero.mp (by
      have freed : sqlite.freed sqlite.stmts.length = 0 := by omega
      exact freed)
  · rw [counted id]
    simp only [sqlite3PrepareV2, List.getElem?_append] at present
    split at present
    · exact ledger.flag id stmt present
    · rename_i notOld
      have total := ledger.place id
      rw [if_neg notOld] at total
      have new := List.mem_singleton.mp (List.mem_of_getElem? present)
      rw [new]
      simp only [Bool.false_eq_true, false_iff]
      omega
  · simp only [sqlite3PrepareV2] at member
    rcases List.mem_append.mp member with old | new
    · exact ledger.home stmt old
    · rw [List.mem_singleton.mp new]

end Ledger
end VSQLite
