import VSQLite.Command.Model
import VSQLite.Lib.Run

/-!
# The connection pool

The pool, the calls of `acquire` that threads have in flight, and the leases and
`shared()` pointers they hold.  A step is one atomic piece: what a thread does under
the mutex, the factory call outside it, the construction of the lease, or one
operation on leases and aliases.  `notify_one` wakes a thread of the scheduler's
choice, and a sleeping thread may wake for no reason.
-/

set_option autoImplicit false

namespace VSQLite
open Lib

abbrev ConnId := Nat

/-- Where a call of `acquire` is: in `cv_.wait`; woken, about to test the loop condition
again; about to call the factory, with a slot reserved; after the factory threw, about
to give the slot back; past that with its connection, which the factory may have left
null; returned or thrown. -/
inductive AcquirePhase where
  | sleeping
  | woken
  | creating
  | failed
  | holding (conn : Option ConnId)
  | done
deriving DecidableEq, Repr

/-- `connection_` shares ownership with `state_`, so it is the same shared state. -/
structure Lease where
  state : Option Nat
  connection : Option Nat
deriving DecidableEq, Repr

def Lease.empty : Lease := ⟨none, none⟩

/-- `states` are the resources of the shared states, in the order they were made;
`produced` is what the factory has returned. -/
structure Pool where
  capacity : Nat
  created : Nat
  idle : List ConnId
  calls : List AcquirePhase
  states : List (Option ConnId)
  leases : List Lease
  aliases : List (Option Nat)
  produced : List ConnId

inductive FactoryResult where
  | connection (conn : ConnId)
  | null
  | throws
deriving DecidableEq, Repr

namespace Pool

/-- The constructor of the pool; `factory` says whether the `std::function` is not empty. -/
def construct (capacity : Nat) (factory : Bool) : Except Exception Pool :=
  if capacity = 0 then
    .error (.databaseException (ascii "connection_pool capacity must be greater than zero"))
  else if factory = false then
    .error (.databaseException (ascii "connection_pool requires a valid factory"))
  else .ok ⟨capacity, 0, [], [], [], [], [], []⟩

/-- One round of the loop in `acquire`. -/
def round (pool : Pool) : Pool × AcquirePhase :=
  match pool.idle.getLast? with
  | some conn => ({ pool with idle := pool.idle.dropLast }, .holding (some conn))
  | none =>
      if pool.created < pool.capacity then
        ({ pool with created := pool.created + 1 }, .creating)
      else (pool, .sleeping)

def setCall (call : Nat) (phase : AcquirePhase) (pool : Pool) : Pool :=
  { pool with calls := pool.calls.set call phase }

/-- `cv_.notify_one()`: if some thread sleeps, one that does is woken. -/
def notifyOne (chosen : Nat) (pool : Pool) : Option Pool :=
  if AcquirePhase.sleeping ∈ pool.calls then
    if pool.calls[chosen]? = some .sleeping then some (pool.setCall chosen .woken) else none
  else some pool

/-- `connection_pool::release`. -/
def release (conn : ConnId) (chosen : Nat) (pool : Pool) : Option Pool :=
  notifyOne chosen { pool with idle := pool.idle ++ [conn] }

/-- The number of `shared_ptr`s that own a shared state. -/
def refs (pool : Pool) (state : Nat) : Nat :=
  pool.leases.countP (fun lease => lease.state = some state) +
    pool.leases.countP (fun lease => lease.connection = some state) +
    pool.aliases.count (some state)

/-- After a `shared_ptr` to the state is gone: if it was the last one, the destructor of
the shared state gives the resource back to the pool. -/
def dropped (state : Option Nat) (chosen : Nat) (pool : Pool) : Option Pool :=
  match state with
  | none => some pool
  | some state =>
      if pool.refs state = 0 then
        match pool.states[state]? with
        | some (some conn) =>
            release conn chosen { pool with states := pool.states.set state none }
        | _ => some pool
      else some pool

def setLease (lease : Nat) (value : Lease) (pool : Pool) : Pool :=
  { pool with leases := pool.leases.set lease value }

/-- `lease::release`. -/
def leaseRelease (lease : Nat) (chosen : Nat) (pool : Pool) : Option Pool :=
  match pool.leases[lease]? with
  | none => none
  | some held =>
      ((pool.setLease lease { held with connection := none }).dropped held.connection chosen).bind
        fun pool => (pool.setLease lease .empty).dropped held.state chosen

/-- The constructor of a lease from `acquire`. -/
def makeLease (conn : Option ConnId) (pool : Pool) : Pool :=
  match conn with
  | none => { pool with leases := pool.leases ++ [.empty] }
  | some conn =>
      { pool with
        states := pool.states ++ [some conn]
        leases := pool.leases ++ [⟨some pool.states.length, some pool.states.length⟩] }

def moveConstruct (source : Nat) (pool : Pool) : Option Pool :=
  (pool.leases[source]?).map fun held =>
    { pool with leases := pool.leases.set source .empty ++ [held] }

/-- `lease::operator=(lease &&)`. -/
def moveAssign (target source chosen : Nat) (pool : Pool) : Option Pool :=
  match pool.leases[target]?, pool.leases[source]? with
  | some _, some held =>
      if target = source then some pool
      else (pool.leaseRelease target chosen).map fun pool =>
        (pool.setLease target held).setLease source .empty
  | _, _ => none

end Pool

inductive PoolAction where
  | enter
  | wakeSpuriously (call : Nat)
  | retest (call : Nat)
  | factory (call : Nat) (result : FactoryResult)
  | giveBack (call : Nat) (chosen : Nat)
  | lease (call : Nat)
  | defaultLease
  | moveConstruct (source : Nat)
  | moveAssign (target source : Nat) (chosen : Nat)
  | dropLease (lease : Nat) (chosen : Nat)
  | share (lease : Nat)
  | copyAlias (pointer : Nat)
  | dropAlias (pointer : Nat) (chosen : Nat)
deriving DecidableEq, Repr

namespace Pool

/-- The factory never returns a connection twice. -/
def factoryReturns (call : Nat) (result : FactoryResult) (pool : Pool) : Option Pool :=
  match result with
  | .connection conn =>
      if conn ∈ pool.produced then none
      else some { pool.setCall call (.holding (some conn)) with produced := conn :: pool.produced }
  | .null => some (pool.setCall call (.holding none))
  | .throws => some (pool.setCall call .failed)

/-- A dropped alias keeps its place, as the null pointer. -/
def dropAlias (pointer chosen : Nat) (pool : Pool) : Option Pool :=
  match pool.aliases[pointer]? with
  | none => none
  | some state => { pool with aliases := pool.aliases.set pointer none }.dropped state chosen

def step (pool : Pool) : PoolAction → Option Pool
  | .enter => some { pool.round.1 with calls := pool.calls ++ [pool.round.2] }
  | .wakeSpuriously call =>
      if pool.calls[call]? = some .sleeping then some (pool.setCall call .woken) else none
  | .retest call =>
      if pool.calls[call]? = some .woken then some (pool.round.1.setCall call pool.round.2)
      else none
  | .factory call result =>
      if pool.calls[call]? = some .creating then pool.factoryReturns call result else none
  | .giveBack call chosen =>
      if pool.calls[call]? = some .failed then
        notifyOne chosen { pool.setCall call .done with created := pool.created - 1 }
      else none
  | .lease call =>
      match pool.calls[call]? with
      | some (.holding conn) => some ((pool.setCall call .done).makeLease conn)
      | _ => none
  | .defaultLease => some { pool with leases := pool.leases ++ [.empty] }
  | .moveConstruct source => pool.moveConstruct source
  | .moveAssign target source chosen => pool.moveAssign target source chosen
  | .dropLease lease chosen => pool.leaseRelease lease chosen
  | .share lease =>
      (pool.leases[lease]?).map fun held =>
        { pool with aliases := pool.aliases ++ [held.connection] }
  | .copyAlias pointer =>
      (pool.aliases[pointer]?).map fun state => { pool with aliases := pool.aliases ++ [state] }
  | .dropAlias pointer chosen => pool.dropAlias pointer chosen

/-- A state some run of a constructed pool leads to. -/
def Reached (pool : Pool) : Prop :=
  ∃ capacity factory start, construct capacity factory = .ok start ∧ Reachable step start pool

end Pool
end VSQLite
