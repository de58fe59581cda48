import VSQLite.Open.Progress
import VSQLite.Pool.Slots

/-!
# Growing a pool

A pool whose factory is `make_factory(db, mode)`.  The factory call of an `acquire` is
the constructor of a connection, request by request, while other threads go on and
anybody changes other files.
-/

set_option autoImplicit false

namespace VSQLite
open Lib

/-- `opening` is what is left of a constructor that has made a request; `live` are the
connections the factory has returned, each with the file it has open. -/
structure Growth where
  pool : Pool
  files : FileSystem
  opening : Nat → Option (Os (Option Nat))
  live : List (ConnId × Option Nat)

inductive GrowthAction where
  | pool (action : PoolAction)
  | create (call : Nat) (refused : Option Refusal) (conn : ConnId)
  | outside (path : Text) (node : Node)
deriving DecidableEq

namespace Growth

section Growth
variable (followSymlinks : Bool) (db : Text) (mode : OpenMode)

def start (capacity : Nat) (files : FileSystem) : Except Exception Growth :=
  match Pool.construct capacity true with
  | .ok pool => .ok ⟨pool, files, fun _ => none, []⟩
  | .error thrown => .error thrown

def constructor (call : Nat) (world : Growth) : Os (Option Nat) :=
  (world.opening call).getD (connectionOpen followSymlinks db mode)

def setOpening (call : Nat) (rest : Option (Os (Option Nat))) (world : Growth) : Growth :=
  { world with opening := fun other => if other = call then rest else world.opening other }

/-- One request of a constructor, or its end. -/
def create (call : Nat) (refused : Option Refusal) (conn : ConnId) (world : Growth) :
    Option Growth :=
  if world.pool.calls[call]? = some .creating then
    match world.constructor followSymlinks db mode call with
    | .returns file =>
        (world.pool.step (.factory call (.connection conn))).map fun pool =>
          { world.setOpening call none with pool := pool, live := (conn, file) :: world.live }
    | .throws _ =>
        (world.pool.step (.factory call .throws)).map fun pool =>
          { world.setOpening call none with pool := pool }
    | .call request next =>
        let answered := world.files.perform request refused
        some { world.setOpening call (some (next answered.2)) with files := answered.1 }
  else none

def outside (path : Text) (node : Node) (world : Growth) : Option Growth :=
  if path = db then none
  else if known : node.upTo world.files.fresh = true then
    some { world with files := world.files.place path node known }
  else none

def step (world : Growth) : GrowthAction → Option Growth
  | .pool (.factory _ _) => none
  | .pool action => (world.pool.step action).map fun pool => { world with pool := pool }
  | .create call refused conn => world.create followSymlinks db mode call refused conn
  | .outside path node => world.outside db path node

end Growth
end Growth

/-! ## What the pool leaves alone -/

namespace Pool

/-- No connection is produced, and whoever is in the factory stays there. -/
def Undisturbed (pool next : Pool) : Prop :=
  next.produced = pool.produced ∧
    ∀ call : Nat, pool.calls[call]? = some .creating → next.calls[call]? = some .creating

theorem undisturbed_of_same {pool next : Pool} (produced : next.produced = pool.produced)
    (calls : next.calls = pool.calls) : Undisturbed pool next :=
  ⟨produced, fun call creating => by rw [calls, creating]⟩

theorem Undisturbed.trans {first second third : Pool} (early : Undisturbed first second)
    (late : Undisturbed second third) : Undisturbed first third :=
  ⟨late.1.trans early.1, fun call creating => late.2 call (early.2 call creating)⟩

theorem setCall_undisturbed (pool : Pool) (call : Nat) (before after : AcquirePhase)
    (found : pool.calls[call]? = some before) (elsewhere : before ≠ .creating) :
    Undisturbed pool (pool.setCall call after) := by
  refine ⟨rfl, fun other creating => ?_⟩
  have different : call ≠ other := by
    intro same
    rw [same, creating] at found
    exact elsewhere (Option.some.inj found).symm
  rw [setCall, List.getElem?_set, if_neg different, creating]

theorem notifyOne_undisturbed (chosen : Nat) (pool next : Pool)
    (enabled : notifyOne chosen pool = some next) : Undisturbed pool next := by
  rcases notifyOne_cases chosen pool next enabled with ⟨rfl, _⟩ | ⟨rfl, found⟩
  · exact undisturbed_of_same rfl rfl
  · exact setCall_undisturbed pool chosen .sleeping .woken found (by simp)

theorem dropped_undisturbed (state : Option Nat) (chosen : Nat) (pool next : Pool)
    (enabled : pool.dropped state chosen = some next) : Undisturbed pool next := by
  rcases dropped_cases state chosen pool next enabled with
    ⟨rfl, _⟩ | ⟨found, conn, _, _, _, notified⟩
  · exact undisturbed_of_same rfl rfl
  · have given : Undisturbed pool (pool.returned found conn) := undisturbed_of_same rfl rfl
    exact given.trans (notifyOne_undisturbed chosen _ next notified)

theorem leaseRelease_undisturbed (lease chosen : Nat) (pool next : Pool)
    (enabled : pool.leaseRelease lease chosen = some next) : Undisturbed pool next := by
  obtain ⟨held, first, _, early, late⟩ := leaseRelease_cases lease chosen enabled
  have cleared := dropped_undisturbed _ chosen _ first early
  have emptied := dropped_undisturbed _ chosen _ next late
  exact ⟨emptied.1.trans cleared.1, fun call creating =>
    emptied.2 call (cleared.2 call creating)⟩

theorem round_undisturbed (pool : Pool) : Undisturbed pool pool.round.1 := by
  obtain ⟨_, _, _, produced, calls, _⟩ := round_keeps pool
  exact undisturbed_of_same produced calls

theorem step_undisturbed (pool next : Pool) (action : PoolAction)
    (enabled : pool.step action = some next)
    (elsewhere : ∀ call result, action ≠ .factory call result) : Undisturbed pool next := by
  cases moved_of_step action enabled with
  | enter =>
      obtain ⟨_, _, _, produced, _, _⟩ := round_keeps pool
      refine ⟨produced, fun call creating => ?_⟩
      have bounded := (List.getElem?_eq_some_iff.mp creating).1
      exact (List.getElem?_append_left bounded).trans creating
  | wake call found => exact setCall_undisturbed pool call .sleeping .woken found (by simp)
  | retest call found =>
      obtain ⟨_, _, _, _, calls, _⟩ := round_keeps pool
      rw [← calls] at found
      exact (round_undisturbed pool).trans
        (setCall_undisturbed pool.round.1 call .woken _ found (by simp))
  | connection call conn found => exact absurd rfl (elsewhere call (.connection conn))
  | null call found => exact absurd rfl (elsewhere call .null)
  | throws call found => exact absurd rfl (elsewhere call .throws)
  | giveBack call chosen next found notified =>
      have moved := setCall_undisturbed pool call .failed .done found (by simp)
      have woken := notifyOne_undisturbed chosen _ next notified
      exact ⟨woken.1.trans moved.1, fun other creating => woken.2 other (moved.2 other creating)⟩
  | lease call conn found =>
      have moved := setCall_undisturbed pool call _ .done found (by simp)
      cases conn with
      | none => exact moved
      | some conn => exact moved
  | defaultLease => exact undisturbed_of_same rfl rfl
  | moveConstruct source next constructed =>
      obtain ⟨held, _, rfl⟩ := Option.map_eq_some_iff.mp constructed
      exact undisturbed_of_same rfl rfl
  | moveAssign target source chosen next assigned =>
      rcases moveAssign_cases target source chosen assigned with
        rfl | ⟨_, _, released, _, _, _, release, rfl⟩
      · exact undisturbed_of_same rfl rfl
      · exact leaseRelease_undisturbed target chosen pool released release
  | dropLease lease chosen next released =>
      exact leaseRelease_undisturbed lease chosen pool next released
  | share lease held found => exact undisturbed_of_same rfl rfl
  | copyAlias pointer state found => exact undisturbed_of_same rfl rfl
  | dropAlias pointer chosen state next found dropped =>
      exact dropped_undisturbed state chosen
        { pool with aliases := pool.aliases.set pointer none } next dropped

end Pool
end VSQLite
