import Mathlib.Data.List.Dedup
import VSQLite.Command.Model
import VSQLite.Lib.Custody
import VSQLite.Lib.Run

/-!
# Registering functions

`create_function` allocates a holder for the callable and hands it to SQLite together with the
function that destroys it.  Holders are numbered in the order they are allocated.
-/

set_option autoImplicit false

namespace VSQLite
open Lib

abbrev HolderId := Nat

structure FunctionOptions where
  arity : Int := -1
  textRepresentation : BitVec 32 := 1
  deterministic : Bool := false
  directOnly : Bool := false
  innocuous : Bool := false
deriving DecidableEq

/-- The bits of `SQLITE_DETERMINISTIC`, `SQLITE_DIRECTONLY` and `SQLITE_INNOCUOUS` are added. -/
def composeTextRep (options : FunctionOptions) : BitVec 32 :=
  options.textRepresentation ||| (if options.deterministic then 0x800 else 0) |||
    (if options.directOnly then 0x80000 else 0) ||| (if options.innocuous then 0x200000 else 0)

/-! ## The functions of a connection -/

/-- SQLite tells functions apart by their name in any case, their number of arguments, and the
encoding they are registered for. -/
structure FunctionKey where
  name : Text
  arity : Nat
  encoding : Nat
deriving DecidableEq

/-- `SQLITE_UTF16` is one of the two byte orders, and `SQLITE_ANY` registers for all three
encodings.  What is no encoding at all counts as UTF-8. -/
def encodings (nativeUtf16 : Nat) (textRep : BitVec 32) : List Nat :=
  match (textRep &&& 7).toNat with
  | 2 => [2]
  | 3 => [3]
  | 4 => [nativeUtf16]
  | 5 => [1, 2, 3]
  | _ => [1]

def functionKeys (nativeUtf16 : Nat) (name : Text) (arity : Nat) (textRep : BitVec 32) :
    List FunctionKey :=
  (encodings nativeUtf16 textRep).map fun encoding => ⟨foldCase (cString name), arity, encoding⟩

/-- A connection, the functions SQLite has for it, the number of holders allocated, and the
holders destroyed so far. -/
structure Functions where
  handle : Option DbHandle
  table : List (FunctionKey × HolderId)
  holders : Nat
  destroyed : List HolderId

namespace Functions

def opened (db : DbHandle) : Functions := ⟨some db, [], 0, []⟩

/-- The holders SQLite keeps; a function that is registered for three encodings has one. -/
def registered (table : List (FunctionKey × HolderId)) : List HolderId :=
  (table.map Prod.snd).dedup

/-- `destroy_holder`, or the destructor of the `unique_ptr`. -/
def deleteHolder (holder : HolderId) (con : Functions) : Functions :=
  { con with destroyed := holder :: con.destroyed }

def replace (keys : List FunctionKey) (holder : HolderId)
    (table : List (FunctionKey × HolderId)) : List (FunctionKey × HolderId) :=
  keys.map (fun key => (key, holder)) ++ table.filter fun entry => entry.1 ∉ keys

/-- `sqlite3_create_function_v2` with `destroy_holder`, which SQLite calls on what it no longer
keeps, and on the new holder where it returns an error. -/
def sqlite3CreateFunctionV2 (keys : List FunctionKey) (holder : HolderId) (rc : ResultCode)
    (con : Functions) : Functions :=
  if rc = .ok then
    let table := replace keys holder con.table
    { con with
      table := table
      destroyed := (registered con.table).filter (fun old => old ∉ table.map Prod.snd) ++
        con.destroyed }
  else con.deleteHolder holder

/-- The arguments of `create_function`; `maxArity` is the number of parameters of the
callable. -/
structure Registration where
  name : Text
  maxArity : Nat
  options : FunctionOptions
deriving DecidableEq

def Registration.arity (request : Registration) : Int :=
  if request.options.arity < 0 then request.maxArity else request.options.arity

def createFunction (nativeUtf16 : Nat) (request : Registration) (rc : ResultCode)
    (con : Functions) : Functions × Except Exception Unit :=
  if request.arity ≠ request.maxArity then
    (con, .error (.databaseException
      (ascii "Explicit arity override does not match callable signature.")))
  else
    let holder := con.holders
    let allocated := { con with holders := con.holders + 1 }
    match con.handle with
    | none =>
        (allocated.deleteHolder holder,
          .error (.databaseException (ascii "Database is not open.")))
    | some _ =>
        let keys := functionKeys nativeUtf16 request.name request.maxArity
          (composeTextRep request.options)
        let called := allocated.sqlite3CreateFunctionV2 keys holder rc
        if rc = .ok then (called, .ok ())
        -- `holder.release()` is not reached, so that the `unique_ptr` destroys the holder too
        else (called.deleteHolder holder, .error (.databaseExceptionCode rc []))

/-- `connection::close`; `err` is what `sqlite3_close` returns. -/
def close (err : ResultCode) (con : Functions) : Functions × Except Exception Unit :=
  match con.handle with
  | none => (con, .error (.databaseException (ascii "Database is not open.")))
  | some _ =>
      if err = .ok then
        ({ con with
          handle := none
          table := []
          destroyed := registered con.table ++ con.destroyed }, .ok ())
      else (con, .error (.databaseExceptionCode err []))

end Functions

inductive FunctionAction where
  | create (request : Functions.Registration) (rc : ResultCode)
  | close (err : ResultCode)
deriving DecidableEq

namespace Functions

/-- The program catches what a call throws, and goes on. -/
def step (nativeUtf16 : Nat) (con : Functions) : FunctionAction → Option Functions
  | .create request rc => some (con.createFunction nativeUtf16 request rc).1
  | .close err => some (con.close err).1

/-- Each holder allocated so far is registered and was not destroyed, or was destroyed once. -/
def DestroyedOnce (con : Functions) : Prop :=
  Settled con.holders (registered con.table) con.destroyed

/-- A registration that gets as far as SQLite is not rejected. -/
def Accepted (con : Functions) : FunctionAction → Prop
  | .create request rc =>
      con.handle.isSome = true → request.arity = request.maxArity → rc = .ok
  | .close _ => True

/-! ## Where the holders go -/

theorem registered_nodup (table : List (FunctionKey × HolderId)) : (registered table).Nodup :=
  List.nodup_dedup _

theorem mem_registered (table : List (FunctionKey × HolderId)) (holder : HolderId) :
    holder ∈ registered table ↔ holder ∈ table.map Prod.snd := List.mem_dedup

theorem encodings_ne_nil (nativeUtf16 : Nat) (textRep : BitVec 32) :
    encodings nativeUtf16 textRep ≠ [] := by
  unfold encodings
  split <;> exact List.cons_ne_nil _ _

theorem registered_replace (keys : List FunctionKey) (holder : HolderId)
    (table : List (FunctionKey × HolderId)) (some_key : keys ≠ [])
    (fresh : holder ∉ registered table) :
    (registered (replace keys holder table)).Perm
      (holder :: (registered table).filter
        fun old => old ∈ (replace keys holder table).map Prod.snd) := by
  have new : holder ∉ (registered table).filter
      fun old => old ∈ (replace keys holder table).map Prod.snd :=
    fun member => fresh (List.mem_of_mem_filter member)
  refine (List.perm_ext_iff_of_nodup (registered_nodup _)
    (List.nodup_cons.mpr ⟨new, (registered_nodup table).filter _⟩)).mpr fun other => ?_
  simp only [List.mem_cons, List.mem_filter, decide_eq_true_eq, mem_registered]
  constructor
  · intro member
    refine or_iff_not_imp_left.mpr fun old => ⟨?_, member⟩
    simp only [replace, List.map_append, List.mem_append, List.map_map, List.mem_map,
      Function.comp_apply] at member
    rcases member with ⟨_, _, same⟩ | ⟨entry, kept, same⟩
    · exact absurd same.symm old
    · exact List.mem_map.mpr ⟨entry, List.mem_of_mem_filter kept, same⟩
  · rintro (rfl | ⟨_, member⟩)
    · obtain ⟨key, rest, rfl⟩ := List.exists_cons_of_ne_nil some_key
      simp [replace]
    · exact member

section Steps
variable {con : Functions} (settled : DestroyedOnce con)
include settled

theorem settled_accepted (keys : List FunctionKey) (some_key : keys ≠ []) :
    let table := replace keys con.holders con.table
    Settled (con.holders + 1) (registered table)
      ((registered con.table).filter (fun old => old ∉ table.map Prod.snd) ++ con.destroyed) := by
  intro table
  have fresh : con.holders ∉ registered con.table :=
    fun member => Nat.lt_irrefl _ (settled.lt_of_kept member)
  have parts := List.filter_append_perm (fun old => decide (old ∉ table.map Prod.snd))
    (registered con.table)
  have same : (registered con.table).filter (fun old => !decide (old ∉ table.map Prod.snd)) =
      (registered con.table).filter fun old => old ∈ table.map Prod.snd :=
    List.filter_congr fun old _ => by simp
  rw [same] at parts
  have released := settled.release _ _ parts.symm
  have allocated := (released.allocate_iff 1 0).mpr rfl
  exact allocated.perm (registered_replace keys con.holders con.table some_key fresh)

theorem settled_destroyed_iff (times : Nat) :
    Settled (con.holders + 1) (registered con.table)
      (List.replicate times con.holders ++ con.destroyed) ↔ times = 1 := by
  have allocated := settled.allocate_iff 0 times
  rw [List.replicate_zero, List.nil_append, Nat.zero_add] at allocated
  exact allocated

theorem settled_create (nativeUtf16 : Nat) (request : Registration) (rc : ResultCode) :
    DestroyedOnce (con.createFunction nativeUtf16 request rc).1 ↔
      con.Accepted (.create request rc) := by
  unfold createFunction
  by_cases mismatch : request.arity ≠ request.maxArity
  · rw [if_pos mismatch]
    exact ⟨fun _ _ same => absurd same mismatch, fun _ => settled⟩
  · rw [if_neg mismatch]
    rw [not_not] at mismatch
    cases opened : con.handle with
    | none =>
        refine ⟨fun _ impossible => ?_, fun _ => (settled_destroyed_iff settled 1).mpr rfl⟩
        rw [opened] at impossible
        cases impossible
    | some db =>
        have reached : con.Accepted (.create request rc) ↔ rc = .ok := by
          simp [Accepted, opened, mismatch]
        rw [reached]
        by_cases accepted : rc = .ok
        · simp only [if_pos accepted, sqlite3CreateFunctionV2]
          refine ⟨fun _ => accepted, fun _ => settled_accepted settled _ ?_⟩
          simpa [functionKeys] using encodings_ne_nil nativeUtf16 _
        · simp only [if_neg accepted, sqlite3CreateFunctionV2]
          refine ⟨fun after => ?_, fun rejected => absurd rejected accepted⟩
          exact absurd ((settled_destroyed_iff settled 2).mp after) (by decide)

theorem settled_close (err : ResultCode) :
    DestroyedOnce (con.close err).1 := by
  unfold close
  cases con.handle with
  | none => exact settled
  | some db =>
      by_cases done : err = .ok
      · simp only [if_pos done]
        exact settled.release (registered con.table) [] (by simp)
      · simp only [if_neg done]
        exact settled

theorem settled_step (nativeUtf16 : Nat) (action : FunctionAction) (next : Functions)
    (taken : con.step nativeUtf16 action = some next) :
    DestroyedOnce next ↔ con.Accepted action := by
  cases action with
  | create request rc =>
      cases Option.some.inj taken
      exact settled_create settled nativeUtf16 request rc
  | close err =>
      cases Option.some.inj taken
      exact ⟨fun _ => trivial, fun _ => settled_close settled err⟩

end Steps

theorem createFunction_handle (nativeUtf16 : Nat) (request : Registration) (rc : ResultCode)
    (con : Functions) : (con.createFunction nativeUtf16 request rc).1.handle = con.handle := by
  unfold createFunction
  split
  · rfl
  · cases opened : con.handle with
    | none => rfl
    | some db =>
        by_cases accepted : rc = .ok
        · simp only [if_pos accepted, sqlite3CreateFunctionV2]
        · simp only [if_neg accepted, sqlite3CreateFunctionV2]
          rfl

theorem createFunction_closed (nativeUtf16 : Nat) (request : Registration) (rc : ResultCode)
    (con : Functions) (closed : con.handle = none) :
    (con.createFunction nativeUtf16 request rc).1.table = con.table := by
  unfold createFunction
  split
  · rfl
  · rw [closed]
    rfl

theorem closed_table (nativeUtf16 : Nat) (con : Functions) (action : FunctionAction)
    (next : Functions) (empty : con.handle = none → con.table = [])
    (taken : con.step nativeUtf16 action = some next) : next.handle = none → next.table = [] := by
  intro closed
  cases action with
  | create request rc =>
      cases Option.some.inj taken
      rw [createFunction_handle] at closed
      rw [createFunction_closed nativeUtf16 request rc con closed]
      exact empty closed
  | close err =>
      cases Option.some.inj taken
      unfold close at closed ⊢
      cases opened : con.handle with
      | none => exact empty opened
      | some db =>
          simp only [opened] at closed ⊢
          split at closed
          · rename_i done
            rw [if_pos done]
          · rw [opened] at closed
            cases closed

/-- Along a run every holder is destroyed exactly once, when SQLite does not have it any more,
exactly when SQLite rejects no registration of the run; and then, once the connection is
closed, all of them are. -/
theorem holders_destroyed_once_iff (nativeUtf16 : Nat) (db : DbHandle)
    (actions : List FunctionAction) :
    (EveryState (step nativeUtf16) DestroyedOnce actions (opened db) ↔
      EveryStep (step nativeUtf16) Accepted actions (opened db)) ∧
    ∀ final, exec (step nativeUtf16) actions (opened db) = some final → final.handle = none →
      EveryStep (step nativeUtf16) Accepted actions (opened db) →
        ∀ holder < final.holders, final.destroyed.count holder = 1 := by
  have exactly : EveryState (step nativeUtf16) DestroyedOnce actions (opened db) ↔
      EveryStep (step nativeUtf16) Accepted actions (opened db) :=
    everyState_iff_everyStep (step nativeUtf16) (fun _ => True) DestroyedOnce Accepted
      (fun _ _ _ _ _ => trivial)
      (fun con action next _ settled taken => settled_step settled nativeUtf16 action next taken)
      actions (opened db) trivial Settled.empty
  refine ⟨exactly, fun final run closed accepted holder bound => ?_⟩
  have settled : DestroyedOnce final :=
    everyState_final (step nativeUtf16) DestroyedOnce actions _ final (exactly.mpr accepted) run
  have empty : final.handle = none → final.table = [] :=
    exec_preserves (step nativeUtf16) (fun con => con.handle = none → con.table = [])
      (fun con action next => closed_table nativeUtf16 con action next) actions _ final
      (fun impossible => by cases impossible) run
  refine settled.count_released bound ?_
  rw [empty closed]
  exact List.not_mem_nil

/-- A name of 256 bytes, which SQLite refuses with `SQLITE_MISUSE`. -/
def overlongName : Functions.Registration := ⟨List.replicate 256 97, 1, {}⟩

/-- The holder of a rejected registration is destroyed by SQLite and by the `unique_ptr`. -/
theorem rejected_holder_destroyed_twice :
    ∃ con, exec (step 2) [.create overlongName .misuse, .close .ok] (opened 0) = some con ∧
      con.holders = 1 ∧ con.destroyed = [0, 0] ∧
      ¬EveryState (step 2) DestroyedOnce [.create overlongName .misuse, .close .ok] (opened 0) := by
  refine ⟨_, rfl, rfl, rfl, fun all => ?_⟩
  have settled : DestroyedOnce ⟨none, [], 1, [0, 0]⟩ :=
    everyState_final (step 2) DestroyedOnce _ _ _ all rfl
  have twice := settled 0
  revert twice
  decide

end Functions
end VSQLite
