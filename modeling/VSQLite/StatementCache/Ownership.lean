import VSQLite.Sqlite.Ledger
import VSQLite.StatementCache.Checked

/-!
# What the cache does to the ledger

Each operation moves statements between the cache, its caller and SQLite's free
list.  `rest` counts the places outside the cache; the laws hold for any of them.
-/

set_option autoImplicit false

namespace VSQLite
open Lib

def Cache.holds (cache : Cache) (id : StmtId) : Nat := (Recency.values cache.entries).count id

/-- Counts a statement that is, or is not, in a caller's hands. -/
def inHand (stmt : Option StmtId) (id : StmtId) : Nat := if stmt = some id then 1 else 0

@[simp] theorem inHand_none (id : StmtId) : inHand none id = 0 := rfl

theorem inHand_toList (stmt : Option StmtId) (id : StmtId) :
    stmt.toList.count id = inHand stmt id := by
  cases stmt with
  | none => rfl
  | some found => simp [inHand, List.count_cons]

@[simp] theorem inHand_self (id : StmtId) : inHand (some id) id = 1 := if_pos rfl

section Operations
variable {db : DbHandle} {sqlite : Sqlite}

theorem Ledger.finalizeAll (stmts : List StmtId) {held : StmtId → Nat}
    (ledger : Ledger db held sqlite) (fits : ∀ id, stmts.count id ≤ held id) :
    Ledger db (fun id => held id - stmts.count id) (StatementCache.finalizeAll stmts sqlite) := by
  induction stmts generalizing held sqlite with
  | nil => exact ledger
  | cons stmt rest ih =>
      have holds : 0 < held stmt := by
        have fit := fits stmt
        rw [List.count_cons_self] at fit
        omega
      have tail := ih (ledger.finalize holds) fun id => by
        have fit := fits id
        rw [List.count_cons] at fit
        by_cases here : id = stmt
        · subst here
          simp only [BEq.rfl, if_true] at fit ⊢
          omega
        · simp only [beq_iff_eq, Ne.symm here, here, if_false] at fit ⊢
          omega
      refine tail.congr fun id => ?_
      rw [List.count_cons]
      by_cases here : id = stmt
      · subst here
        simp only [BEq.rfl, if_true]
        omega
      · simp only [beq_iff_eq, Ne.symm here, here, if_false]
        omega

theorem Cache.ledger_acquire (sql : Text) (cache : Cache) (rest : StmtId → Nat)
    (ledger : Ledger db (fun id => rest id + cache.holds id) sqlite) :
    let result := cache.acquire db sql sqlite
    Ledger db (fun id => rest id + result.1.holds id + inHand result.2.2 id) result.2.1 ∧
      result.2.2 = Recency.lookup sql cache.entries := by
  intro result
  have conserved : ∀ id, result.1.holds id + inHand (Recency.lookup sql cache.entries) id =
      cache.holds id := by
    intro id
    have counted := Recency.count_erase sql id cache.entries cache.keyed
    rw [inHand_toList] at counted
    rw [Cache.holds, Cache.acquire_entries, counted]
    rfl
  cases found : Recency.lookup sql cache.entries with
  | none =>
      have same : result.2 = (sqlite, none) := by
        rw [Cache.acquire_result, found]
      rw [same]
      refine ⟨ledger.congr fun id => ?_, rfl⟩
      have here := conserved id
      rw [found] at here
      simp only [inHand_none] at here ⊢
      omega
  | some stmt =>
      have same : result.2 = StatementCache.checkout db sql stmt sqlite := by
        rw [Cache.acquire_result, found]
      have holds : 0 < rest stmt + cache.holds stmt := by
        have here := conserved stmt
        rw [found, inHand_self] at here
        omega
      obtain ⟨used, handed⟩ := StatementCache.uses_checkout db sql stmt sqlite
        (ledger.handle_eq stmt holds)
      rw [same, handed]
      refine ⟨(ledger.uses holds used).congr fun id => ?_, rfl⟩
      have here := conserved id
      rw [found] at here
      omega

theorem Cache.ledger_release (sql : Text) (stmt : StmtId) (cache : Cache) (rest : StmtId → Nat)
    (ledger : Ledger db (fun id => rest id + cache.holds id + inHand (some stmt) id) sqlite) :
    let result := cache.release sql stmt sqlite
    Ledger db (fun id => rest id + result.1.holds id) result.2 := by
  intro result
  have conserved : ∀ id,
      result.1.holds id + (Recency.insert cache.limit sql stmt cache.entries).2.count id =
        cache.holds id + inHand (some stmt) id := by
    intro id
    have counted := Recency.count_insert cache.limit sql stmt id cache.entries
    rw [Cache.holds, Cache.release_entries, counted]
    simp [inHand, List.count_cons, Cache.holds]
  have freed : Ledger db (fun id => rest id + result.1.holds id) (StatementCache.finalizeAll
      (Recency.insert cache.limit sql stmt cache.entries).2 sqlite) := by
    refine (ledger.finalizeAll _ fun id => ?_).congr fun id => ?_
    · have here := conserved id
      omega
    · have here := conserved id
      omega
  rw [show result.2 = _ from Cache.release_result sql stmt cache sqlite]
  dsimp only
  split
  · rename_i accepted
    have stored : 0 < rest stmt + result.1.holds stmt := by
      have member := Recency.mem_insert_new cache.limit sql stmt cache.entries accepted
      rw [← Cache.release_entries sql stmt cache sqlite] at member
      have positive : 0 < result.1.holds stmt :=
        List.count_pos_iff.mpr (List.mem_map_of_mem (f := Prod.snd) member)
      omega
    exact freed.uses stored (uses_record stmt _ _ ⟨rfl, rfl, fun _ _ same => by cases same⟩)
  · exact freed

theorem Cache.ledger_clear (cache : Cache) (rest : StmtId → Nat)
    (ledger : Ledger db (fun id => rest id + cache.holds id) sqlite) :
    Ledger db rest (cache.clear sqlite).2 := by
  rw [Cache.clear_result]
  refine (ledger.finalizeAll _ fun id => ?_).congr fun id => ?_
  · exact Nat.le_add_left _ _
  · exact (Nat.add_sub_cancel _ _).symm

end Operations
end VSQLite
