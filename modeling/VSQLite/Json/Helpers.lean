import VSQLite.Command.Model
import VSQLite.Lib.Calls

/-!
# The helpers for JSON1 and FTS5

These prepare statements of their own, past the cache and past `command`.  The answers of SQLite
come from outside, so that a helper is looked at on each of its paths.
-/

set_option autoImplicit false

namespace VSQLite
open Lib

inductive HelperRequest where
  | prepareV2 (sql : Text)
  | bindValue (stmt : Option StmtId) (index : Nat) (value : Value)
  | bindPointer (stmt : Option StmtId) (index : Nat) (type : Text)
  | step (stmt : Option StmtId)
  | columnInt (stmt : Option StmtId) (column : Nat)
  | finalize (stmt : Option StmtId)
  | errmsg
  | resultInt (value : Int)
  | resultError (message : Text)
  | createFunctionV2 (name : Text) (arity : Nat) (textRep : Nat)
  | xCreateFunction (api : Nat) (name : Text)
deriving DecidableEq, Repr

/-- A statement that does not compile is the null pointer; a step of `SELECT fts5(?1)` stores the
pointer it finds. -/
def HelperRequest.Answer : HelperRequest → Type
  | .prepareV2 _ => Except ResultCode (Option StmtId)
  | .bindValue _ _ _ => ResultCode
  | .bindPointer _ _ _ => ResultCode
  | .step _ => ResultCode × Option Nat
  | .columnInt _ _ => Int
  | .finalize _ => ResultCode
  | .errmsg => Text
  | .resultInt _ => Unit
  | .resultError _ => Unit
  | .createFunctionV2 _ _ _ => ResultCode
  | .xCreateFunction _ _ => ResultCode

/-- What a helper throws is part of its result. -/
abbrev Helper (Result : Type) : Type := Program HelperRequest.Answer Empty Result

def sqliteCall (request : HelperRequest) : Helper request.Answer := Program.request request

def probeJson : Helper Bool := do
  match ← sqliteCall (.prepareV2 (ascii "SELECT json('null');")) with
  | .error _ =>
      let _ ← sqliteCall (.finalize none)
      return false
  | .ok stmt =>
      let stepped ← sqliteCall (.step stmt)
      let _ ← sqliteCall (.finalize stmt)
      return stepped.1 = .row

def containsSql : Text :=
  ascii "SELECT CASE WHEN json_extract(?1, ?2) IS NULL THEN 0 " ++
    ascii "WHEN json_extract(?1, ?2) = ?3 THEN 1 ELSE 0 END;"

def jsonContains (argv : List Value) : Helper Unit := do
  match argv with
  | [json, path, value] =>
      match ← sqliteCall (.prepareV2 containsSql) with
      | .error _ =>
          let message ← sqliteCall .errmsg
          let _ ← sqliteCall (.resultError message)
          let _ ← sqliteCall (.finalize none)
          return ()
      | .ok stmt =>
          let _ ← sqliteCall (.bindValue stmt 1 json)
          let _ ← sqliteCall (.bindValue stmt 2 path)
          let _ ← sqliteCall (.bindValue stmt 3 value)
          let stepped ← sqliteCall (.step stmt)
          if stepped.1 = .row then
            let column ← sqliteCall (.columnInt stmt 0)
            let _ ← sqliteCall (.resultInt column)
          else
            let message ← sqliteCall .errmsg
            let _ ← sqliteCall (.resultError message)
          let _ ← sqliteCall (.finalize stmt)
          return ()
  | _ =>
      sqliteCall (.resultError
        (ascii "json_contains_value(json, path, value) expects 3 arguments."))

/-- The pointer is null unless a step has stored one. -/
def sqlite3Fts5ApiFromDb : Helper (Option Nat) := do
  match ← sqliteCall (.prepareV2 (ascii "SELECT fts5(?1)")) with
  | .error _ =>
      let _ ← sqliteCall (.finalize none)
      return none
  | .ok stmt =>
      let _ ← sqliteCall (.bindPointer stmt 1 (ascii "fts5_api_ptr"))
      let stepped ← sqliteCall (.step stmt)
      let _ ← sqliteCall (.finalize stmt)
      return stepped.2

section Connected
variable (handle : Option DbHandle)

/-- `db_handle`. -/
def onHandle {Result : Type} (helper : Helper (Except Exception Result)) :
    Helper (Except Exception Result) :=
  match handle with
  | none => return .error (.databaseException (ascii "Database is not open."))
  | some _ => helper

def jsonAvailable : Helper (Except Exception Bool) :=
  onHandle handle do
    let present ← probeJson
    return .ok present

def registerContainsFunction (name : Text) : Helper (Except Exception Unit) :=
  onHandle handle do
    if ← probeJson then
      let rc : ResultCode ← sqliteCall (.createFunctionV2 name 3 0x801)
      if rc = .ok then return .ok ()
      else
        let _ ← sqliteCall .errmsg
        return .error (.databaseExceptionCode rc [])
    else
      return .error (.databaseException
        (ascii "SQLite JSON1 extension is not available in this connection."))

def ftsAvailable : Helper (Except Exception Bool) :=
  onHandle handle do
    let api ← sqlite3Fts5ApiFromDb
    return .ok api.isSome

def registerRankFunction (name : Text) : Helper (Except Exception Unit) :=
  onHandle handle do
    match ← sqlite3Fts5ApiFromDb with
    | none =>
        return .error (.databaseException
          (ascii "SQLite FTS5 extension is not available in this connection."))
    | some api =>
        let rc : ResultCode ← sqliteCall (.xCreateFunction api name)
        if rc = .ok then return .ok ()
        else
          let _ ← sqliteCall .errmsg
          return .error (.databaseExceptionCode rc [])

end Connected

inductive HelperCall where
  | jsonAvailable
  | registerContains (name : Text)
  | ftsAvailable
  | registerRank (name : Text)
  | jsonContains (argv : List Value)
deriving DecidableEq, Repr

def HelperCall.run (handle : Option DbHandle) : HelperCall → Helper Unit
  | .jsonAvailable => do
      let _ ← VSQLite.jsonAvailable handle
      return ()
  | .registerContains name => do
      let _ ← registerContainsFunction handle name
      return ()
  | .ftsAvailable => do
      let _ ← VSQLite.ftsAvailable handle
      return ()
  | .registerRank name => do
      let _ ← registerRankFunction handle name
      return ()
  | .jsonContains argv => VSQLite.jsonContains argv

def runHelpers (handle : Option DbHandle) : List HelperCall → Helper Unit
  | [] => return ()
  | call :: rest => do
      call.run handle
      runHelpers handle rest

/-! ## What a helper may do -/

/-- The statements prepared and not finalized, and the results set so far. -/
structure HelperLedger where
  unfinished : List StmtId
  results : Nat
deriving DecidableEq, Repr

namespace HelperLedger

def after : (request : HelperRequest) → request.Answer → HelperLedger → HelperLedger
  | .prepareV2 _, .ok (some stmt), ledger =>
      { ledger with unfinished := stmt :: ledger.unfinished }
  | .finalize (some stmt), _, ledger =>
      { ledger with unfinished := ledger.unfinished.erase stmt }
  | .resultInt _, _, ledger => { ledger with results := ledger.results + 1 }
  | .resultError _, _, ledger => { ledger with results := ledger.results + 1 }
  | _, _, ledger => ledger

/-- The null pointer may be passed; another statement only while it is unfinished. -/
def Holds (ledger : HelperLedger) (stmt : Option StmtId) : Prop :=
  ∀ id, stmt = some id → id ∈ ledger.unfinished

def may (ledger : HelperLedger) : HelperRequest → Prop
  | .bindValue stmt _ _ => ledger.Holds stmt
  | .bindPointer stmt _ _ => ledger.Holds stmt
  | .step stmt => ledger.Holds stmt
  | .columnInt stmt _ => ledger.Holds stmt
  | .finalize stmt => ledger.Holds stmt
  | _ => True

def leaves {Result : Type} (left : HelperLedger) (ledger : HelperLedger) (_ : Result) : Prop :=
  ledger = left

section Follows
variable (ledger : HelperLedger)

/-- What `sqlite3_prepare_v2` adds, if it returned a statement. -/
def opened (stmt : Option StmtId) (ledger : HelperLedger) : HelperLedger :=
  { ledger with unfinished := stmt.toList ++ ledger.unfinished }

theorem after_prepare (sql : Text) (stmt : Option StmtId) :
    after (.prepareV2 sql) (.ok stmt) ledger = ledger.opened stmt := by
  cases stmt <;> rfl

theorem holds_opened (stmt : Option StmtId) : (ledger.opened stmt).Holds stmt := by
  intro id same
  subst same
  exact List.mem_cons_self ..

theorem after_finalize (stmt : Option StmtId) (rc : ResultCode) :
    after (.finalize stmt) rc (ledger.opened stmt) = ledger := by
  cases stmt with
  | none => rfl
  | some id =>
      obtain ⟨unfinished, results⟩ := ledger
      exact congrArg (HelperLedger.mk · results) (List.erase_cons_head ..)

theorem follows_finalize {Result : Type} (stmt : Option StmtId) (result : Result) :
    (do
      let _ ← sqliteCall (.finalize stmt)
      return result : Helper Result).Follows after may (leaves ledger) (ledger.opened stmt) := by
  apply Program.follows_request
  · exact ledger.holds_opened stmt
  · intro rc
    exact after_finalize ledger stmt rc

theorem probeJson_follows : probeJson.Follows after may (leaves ledger) ledger := by
  apply Program.follows_request
  · trivial
  · intro answer
    cases answer with
    | error rc => exact follows_finalize ledger none false
    | ok stmt =>
        rw [after_prepare]
        apply Program.follows_request
        · exact ledger.holds_opened stmt
        · intro stepped
          exact follows_finalize ledger stmt _

theorem sqlite3Fts5ApiFromDb_follows :
    sqlite3Fts5ApiFromDb.Follows after may (leaves ledger) ledger := by
  apply Program.follows_request
  · trivial
  · intro answer
    cases answer with
    | error rc => exact follows_finalize ledger none none
    | ok stmt =>
        rw [after_prepare]
        apply Program.follows_request
        · exact ledger.holds_opened stmt
        · intro bound
          apply Program.follows_request
          · exact ledger.holds_opened stmt
          · intro stepped
            exact follows_finalize ledger stmt _

/-- The ledger once a result was set. -/
def answered (ledger : HelperLedger) : HelperLedger := { ledger with results := ledger.results + 1 }

theorem jsonContains_follows (argv : List Value) :
    (jsonContains argv).Follows after may (leaves ledger.answered) ledger := by
  have refused : ∀ message, (sqliteCall (.resultError message)).Follows after may
      (leaves ledger.answered) ledger := fun message => ⟨trivial, fun _ => rfl⟩
  rcases argv with _ | ⟨json, _ | ⟨path, _ | ⟨value, _ | ⟨fourth, rest⟩⟩⟩⟩
  · exact refused _
  · exact refused _
  · exact refused _
  · apply Program.follows_request
    · trivial
    · intro answer
      cases answer with
      | error rc =>
          apply Program.follows_request
          · trivial
          intro message
          apply Program.follows_request
          · trivial
          intro _
          exact follows_finalize ledger.answered none ()
      | ok stmt =>
          have held := ledger.holds_opened stmt
          rw [after_prepare]
          apply Program.follows_request
          · exact held
          intro _
          apply Program.follows_request
          · exact held
          intro _
          apply Program.follows_request
          · exact held
          intro _
          apply Program.follows_request
          · exact held
          intro stepped
          dsimp only
          split
          · apply Program.follows_request
            · exact held
            intro column
            apply Program.follows_request
            · trivial
            intro _
            exact follows_finalize ledger.answered stmt ()
          · apply Program.follows_request
            · trivial
            intro message
            apply Program.follows_request
            · trivial
            intro _
            exact follows_finalize ledger.answered stmt ()
  · exact refused _

theorem onHandle_follows {Result : Type} (handle : Option DbHandle)
    (helper : Helper (Except Exception Result))
    (follows : helper.Follows after may (leaves ledger) ledger) :
    (onHandle handle helper).Follows after may (leaves ledger) ledger := by
  cases handle with
  | none => rfl
  | some db => exact follows

theorem follows_ignored {Result Other : Type} (left : HelperLedger) (helper : Helper Result)
    (rest : Result → Helper Other) (follows : helper.Follows after may (leaves left) ledger)
    (later : ∀ result, (rest result).Follows after may (leaves left) left) :
    (helper >>= rest).Follows after may (leaves left) ledger := by
  apply Program.follows_bind after may (leaves left) (leaves left) helper rest ledger follows
  intro state result same
  cases same
  exact later result

theorem registerContainsFunction_follows (handle : Option DbHandle) (name : Text) :
    (registerContainsFunction handle name).Follows after may (leaves ledger) ledger := by
  apply onHandle_follows
  apply follows_ignored ledger ledger _ _ (probeJson_follows ledger)
  intro present
  cases present with
  | false => exact rfl
  | true =>
      apply Program.follows_request
      · trivial
      intro rc
      split
      · exact rfl
      · exact ⟨trivial, fun _ => rfl⟩

theorem registerRankFunction_follows (handle : Option DbHandle) (name : Text) :
    (registerRankFunction handle name).Follows after may (leaves ledger) ledger := by
  apply onHandle_follows
  apply follows_ignored ledger ledger _ _ (sqlite3Fts5ApiFromDb_follows ledger)
  intro found
  cases found with
  | none => exact rfl
  | some api =>
      apply Program.follows_request
      · trivial
      intro rc
      split
      · exact rfl
      · exact ⟨trivial, fun _ => rfl⟩

/-- The result a call sets. -/
def afterCall (call : HelperCall) (ledger : HelperLedger) : HelperLedger :=
  match call with
  | .jsonContains _ => ledger.answered
  | _ => ledger

theorem run_follows (handle : Option DbHandle) (call : HelperCall) :
    (call.run handle).Follows after may (leaves (ledger.afterCall call)) ledger := by
  cases call with
  | jsonAvailable =>
      apply follows_ignored ledger ledger
      · apply onHandle_follows
        apply follows_ignored ledger ledger _ _ (probeJson_follows ledger)
        intro found
        exact rfl
      · intro returned
        exact rfl
  | registerContains name =>
      exact follows_ignored ledger ledger _ _ (registerContainsFunction_follows ledger handle name)
        fun _ => rfl
  | ftsAvailable =>
      apply follows_ignored ledger ledger
      · apply onHandle_follows
        apply follows_ignored ledger ledger _ _ (sqlite3Fts5ApiFromDb_follows ledger)
        intro found
        exact rfl
      · intro returned
        exact rfl
  | registerRank name =>
      exact follows_ignored ledger ledger _ _ (registerRankFunction_follows ledger handle name)
        fun _ => rfl
  | jsonContains argv => exact jsonContains_follows ledger argv

theorem runHelpers_follows (handle : Option DbHandle) (calls : List HelperCall) :
    (runHelpers handle calls).Follows after may
      (leaves (calls.foldl (fun ledger call => ledger.afterCall call) ledger)) ledger := by
  induction calls generalizing ledger with
  | nil => rfl
  | cons call rest ih =>
      apply Program.follows_bind after may (leaves (ledger.afterCall call)) _ _ _ _
        (run_follows ledger handle call)
      intro state _ same
      cases same
      exact ih (ledger.afterCall call)

end Follows

/-- The results that calls set. -/
def asked (calls : List HelperCall) : Nat :=
  calls.countP fun call => call matches .jsonContains _

theorem foldl_afterCall (calls : List HelperCall) (ledger : HelperLedger) :
    calls.foldl (fun ledger call => ledger.afterCall call) ledger =
      { ledger with results := ledger.results + asked calls } := by
  induction calls generalizing ledger with
  | nil => rfl
  | cons call rest ih =>
      rw [List.foldl_cons, ih]
      cases call <;> simp [afterCall, answered, asked, Nat.add_assoc, Nat.add_comm]

end HelperLedger

/-- Whatever SQLite answers, the helpers use a statement only between its preparation and its
finalization, finalize each statement once, and set one result for each call from SQL. -/
theorem helpers_finalize_what_they_prepare
    (oracle : List (Program.Exchange HelperRequest.Answer) →
      (request : HelperRequest) → request.Answer)
    (handle : Option DbHandle) (calls : List HelperCall) :
    let exchanges := (Program.exec oracle (runHelpers handle calls) []).2
    (∀ before exchange rest, exchanges = before ++ exchange :: rest →
      (Program.ghostAfter HelperLedger.after before ⟨[], 0⟩).may exchange.1) ∧
    Program.ghostAfter HelperLedger.after exchanges ⟨[], 0⟩ = ⟨[], HelperLedger.asked calls⟩ := by
  intro exchanges
  obtain ⟨later, ends, made, good⟩ := Program.exec_follows HelperLedger.after HelperLedger.may
    oracle _ (runHelpers handle calls) [] ⟨[], 0⟩ (HelperLedger.runHelpers_follows _ handle calls)
  have whole : exchanges = later := ends
  rw [whole]
  refine ⟨made, ?_⟩
  cases returned : (Program.exec oracle (runHelpers handle calls) []).1 with
  | error failure => cases failure
  | ok result =>
      have left := good result returned
      rw [HelperLedger.leaves, HelperLedger.foldl_afterCall, Nat.zero_add] at left
      exact left

end VSQLite
