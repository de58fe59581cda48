import VSQLite.Lib.Census
import VSQLite.Lib.Recency
import VSQLite.Pool.Model

/-!
# Every connection has one place

A connection the factory has returned is idle, owned by one shared state, or in the
hands of one call of `acquire`.  A shared state owns its connection as long as some
lease or alias refers to it; with the last of them the connection goes back.
-/

set_option autoImplicit false

namespace VSQLite
open Lib

/-- The call has a slot and no connection for it yet. -/
def AcquirePhase.creates : AcquirePhase → Bool
  | .creating => true
  | .failed => true
  | _ => false

/-- The call has this connection and no lease for it yet. -/
def AcquirePhase.holds (conn : ConnId) (phase : AcquirePhase) : Bool :=
  decide (phase = .holding (some conn))

def AcquirePhase.holdsSome : AcquirePhase → Bool
  | .holding (some _) => true
  | _ => false

/-- The number of pointers of a lease that own the shared state. -/
def Lease.refs (state : Nat) (lease : Lease) : Nat :=
  (if lease.state = some state then 1 else 0) + if lease.connection = some state then 1 else 0

namespace Pool

/-- The number of shared states that own the connection. -/
def owners (pool : Pool) (conn : ConnId) : Nat := pool.states.count (some conn)

/-- The number of calls that have it in their hands. -/
def inHand (pool : Pool) (conn : ConnId) : Nat := pool.calls.countP (AcquirePhase.holds conn)

def leased (pool : Pool) : Nat := pool.states.countP Option.isSome

def inCreation (pool : Pool) : Nat := pool.calls.countP AcquirePhase.creates

def inHands (pool : Pool) : Nat := pool.calls.countP AcquirePhase.holdsSome

/-- `exempt` is a shared state whose last pointer has just gone. -/
structure Custody (exempt : Option Nat) (pool : Pool) : Prop where
  leases : ∀ lease ∈ pool.leases, lease.connection = lease.state
  known : ∀ state, 0 < pool.refs state → ∃ conn, pool.states[state]? = some (some conn)
  referenced : ∀ state conn, pool.states[state]? = some (some conn) →
    0 < pool.refs state ∨ exempt = some state
  place : ∀ conn, pool.idle.count conn + pool.owners conn + pool.inHand conn =
    pool.produced.count conn
  distinct : pool.produced.Nodup

/-! ## What a step comes to -/

/-- One more call, at the phase its first round left it in. -/
def entered (pool : Pool) : Pool := { pool.round.1 with calls := pool.calls ++ [pool.round.2] }

def produce (call : Nat) (conn : ConnId) (pool : Pool) : Pool :=
  { pool.setCall call (.holding (some conn)) with produced := conn :: pool.produced }

def giveUp (call : Nat) (pool : Pool) : Pool :=
  { pool.setCall call .done with created := pool.created - 1 }

/-- The steps that are enabled, each with what makes it so. -/
inductive Moved (pool : Pool) : PoolAction → Pool → Prop where
  | enter : Moved pool .enter pool.entered
  | wake (call : Nat) (found : pool.calls[call]? = some .sleeping) :
      Moved pool (.wakeSpuriously call) (pool.setCall call .woken)
  | retest (call : Nat) (found : pool.calls[call]? = some .woken) :
      Moved pool (.retest call) (pool.round.1.setCall call pool.round.2)
  | connection (call : Nat) (conn : ConnId) (found : pool.calls[call]? = some .creating)
      (new : conn ∉ pool.produced) :
      Moved pool (.factory call (.connection conn)) (pool.produce call conn)
  | null (call : Nat) (found : pool.calls[call]? = some .creating) :
      Moved pool (.factory call .null) (pool.setCall call (.holding none))
  | throws (call : Nat) (found : pool.calls[call]? = some .creating) :
      Moved pool (.factory call .throws) (pool.setCall call .failed)
  | giveBack (call chosen : Nat) (next : Pool) (found : pool.calls[call]? = some .failed)
      (notified : notifyOne chosen (pool.giveUp call) = some next) :
      Moved pool (.giveBack call chosen) next
  | lease (call : Nat) (conn : Option ConnId) (found : pool.calls[call]? = some (.holding conn)) :
      Moved pool (.lease call) ((pool.setCall call .done).makeLease conn)
  | defaultLease : Moved pool .defaultLease { pool with leases := pool.leases ++ [.empty] }
  | moveConstruct (source : Nat) (next : Pool)
      (constructed : pool.moveConstruct source = some next) :
      Moved pool (.moveConstruct source) next
  | moveAssign (target source chosen : Nat) (next : Pool)
      (assigned : pool.moveAssign target source chosen = some next) :
      Moved pool (.moveAssign target source chosen) next
  | dropLease (lease chosen : Nat) (next : Pool)
      (released : pool.leaseRelease lease chosen = some next) :
      Moved pool (.dropLease lease chosen) next
  | share (lease : Nat) (held : Lease) (found : pool.leases[lease]? = some held) :
      Moved pool (.share lease) { pool with aliases := pool.aliases ++ [held.connection] }
  | copyAlias (pointer : Nat) (state : Option Nat) (found : pool.aliases[pointer]? = some state) :
      Moved pool (.copyAlias pointer) { pool with aliases := pool.aliases ++ [state] }
  | dropAlias (pointer chosen : Nat) (state : Option Nat) (next : Pool)
      (found : pool.aliases[pointer]? = some state)
      (dropped : { pool with aliases := pool.aliases.set pointer none }.dropped state chosen =
        some next) :
      Moved pool (.dropAlias pointer chosen) next

theorem moved_of_step {pool next : Pool} (action : PoolAction)
    (enabled : pool.step action = some next) : Moved pool action next := by
  cases action with
  | enter =>
      cases enabled
      exact .enter
  | wakeSpuriously call =>
      simp only [step] at enabled
      split at enabled
      · rename_i found
        cases enabled
        exact .wake call found
      · cases enabled
  | retest call =>
      simp only [step] at enabled
      split at enabled
      · rename_i found
        cases enabled
        exact .retest call found
      · cases enabled
  | factory call result =>
      simp only [step] at enabled
      split at enabled
      · rename_i found
        cases result with
        | connection conn =>
            simp only [factoryReturns] at enabled
            split at enabled
            · cases enabled
            · rename_i new
              cases enabled
              exact .connection call conn found new
        | null =>
            cases enabled
            exact .null call found
        | throws =>
            cases enabled
            exact .throws call found
      · cases enabled
  | giveBack call chosen =>
      simp only [step] at enabled
      split at enabled
      · rename_i found
        exact .giveBack call chosen next found enabled
      · cases enabled
  | lease call =>
      simp only [step] at enabled
      split at enabled
      · rename_i conn found
        cases enabled
        exact .lease call conn found
      · cases enabled
  | defaultLease =>
      cases enabled
      exact .defaultLease
  | moveConstruct source => exact .moveConstruct source next enabled
  | moveAssign target source chosen => exact .moveAssign target source chosen next enabled
  | dropLease lease chosen => exact .dropLease lease chosen next enabled
  | share lease =>
      obtain ⟨held, found, rfl⟩ := Option.map_eq_some_iff.mp enabled
      exact .share lease held found
  | copyAlias pointer =>
      obtain ⟨state, found, rfl⟩ := Option.map_eq_some_iff.mp enabled
      exact .copyAlias pointer state found
  | dropAlias pointer chosen =>
      simp only [step, dropAlias] at enabled
      split at enabled
      · cases enabled
      · rename_i state found
        exact .dropAlias pointer chosen state next found enabled

theorem moveAssign_cases {pool next : Pool} (target source chosen : Nat)
    (assigned : pool.moveAssign target source chosen = some next) :
    next = pool ∨ ∃ old held released, target ≠ source ∧ pool.leases[target]? = some old ∧
      pool.leases[source]? = some held ∧ pool.leaseRelease target chosen = some released ∧
      next = (released.setLease target held).setLease source .empty := by
  unfold moveAssign at assigned
  split at assigned
  · rename_i old held targetFound sourceFound
    split at assigned
    · cases assigned
      exact Or.inl rfl
    · rename_i different
      obtain ⟨released, release, rfl⟩ := Option.map_eq_some_iff.mp assigned
      exact Or.inr ⟨old, held, released, different, targetFound, sourceFound, release, rfl⟩
  · cases assigned

/-! ## Counting references -/

theorem refs_setLease (pool : Pool) (index : Nat) (held new : Lease)
    (found : pool.leases[index]? = some held) (state : Nat) :
    (pool.setLease index new).refs state + held.refs state = pool.refs state + new.refs state := by
  have first := countP_set_add (fun lease : Lease => decide (lease.state = some state))
    pool.leases index held new found
  have second := countP_set_add (fun lease : Lease => decide (lease.connection = some state))
    pool.leases index held new found
  simp only [decide_eq_true_eq] at first second
  simp only [refs, setLease, Lease.refs]
  omega

theorem refs_addLease (pool : Pool) (new : Lease) (state : Nat) :
    { pool with leases := pool.leases ++ [new] }.refs state =
      pool.refs state + new.refs state := by
  simp only [refs, List.countP_append, List.countP_singleton, Lease.refs, decide_eq_true_eq]
  omega

theorem refs_addAlias (pool : Pool) (pointer : Option Nat) (state : Nat) :
    { pool with aliases := pool.aliases ++ [pointer] }.refs state =
      pool.refs state + if pointer = some state then 1 else 0 := by
  simp only [refs, List.count_append, List.count_singleton, beq_iff_eq]
  omega

theorem refs_dropAlias (pool : Pool) (index : Nat) (pointer : Option Nat)
    (found : pool.aliases[index]? = some pointer) (state : Nat) :
    { pool with aliases := pool.aliases.set index none }.refs state +
        (if pointer = some state then 1 else 0) = pool.refs state := by
  have moved := countP_set_add (fun alias_ : Option Nat => alias_ == some state) pool.aliases index
    pointer none found
  simp only [beq_iff_eq, reduceCtorEq, if_false, Nat.add_zero] at moved
  simp only [refs, List.count]
  omega

theorem refs_empty (state : Nat) : Lease.empty.refs state = 0 := by
  simp [Lease.refs, Lease.empty]

theorem refs_of_mem (pool : Pool) (lease : Lease) (member : lease ∈ pool.leases) (state : Nat)
    (own : lease.state = some state) : 0 < pool.refs state := by
  have counted : 0 < pool.leases.countP (fun lease => lease.state = some state) :=
    List.countP_pos_iff.mpr ⟨lease, member, by simp [own]⟩
  unfold refs
  omega

theorem refs_of_alias (pool : Pool) (state : Nat) (member : some state ∈ pool.aliases) :
    0 < pool.refs state := by
  have counted := List.count_pos_iff.mpr member
  unfold refs
  omega

/-! ## Moving a call on -/

theorem inHand_setCall (pool : Pool) (call : Nat) (before after : AcquirePhase)
    (found : pool.calls[call]? = some before) (conn : ConnId) :
    (pool.setCall call after).inHand conn + (if before.holds conn then 1 else 0) =
      pool.inHand conn + if after.holds conn then 1 else 0 :=
  countP_set_add (AcquirePhase.holds conn) pool.calls call before after found

theorem inCreation_setCall (pool : Pool) (call : Nat) (before after : AcquirePhase)
    (found : pool.calls[call]? = some before) :
    (pool.setCall call after).inCreation + (if before.creates then 1 else 0) =
      pool.inCreation + if after.creates then 1 else 0 :=
  countP_set_add AcquirePhase.creates pool.calls call before after found

theorem inHands_setCall (pool : Pool) (call : Nat) (before after : AcquirePhase)
    (found : pool.calls[call]? = some before) :
    (pool.setCall call after).inHands + (if before.holdsSome then 1 else 0) =
      pool.inHands + if after.holdsSome then 1 else 0 :=
  countP_set_add AcquirePhase.holdsSome pool.calls call before after found

theorem notifyOne_cases (chosen : Nat) (pool next : Pool)
    (enabled : notifyOne chosen pool = some next) :
    (next = pool ∧ AcquirePhase.sleeping ∉ pool.calls) ∨
      (next = pool.setCall chosen .woken ∧ pool.calls[chosen]? = some .sleeping) := by
  unfold notifyOne at enabled
  split at enabled
  · split at enabled
    · rename_i found
      cases enabled
      exact Or.inr ⟨rfl, found⟩
    · cases enabled
  · rename_i nobody
    cases enabled
    exact Or.inl ⟨rfl, nobody⟩

/-- Custody survives what leaves the shared states and their reference counts alone. -/
theorem Custody.reshape {exempt : Option Nat} {pool next : Pool} (custody : Custody exempt pool)
    (states : next.states = pool.states) (refs : ∀ state, next.refs state = pool.refs state)
    (leases : ∀ lease ∈ next.leases, lease.connection = lease.state)
    (place : ∀ conn, next.idle.count conn + next.owners conn + next.inHand conn =
      next.produced.count conn)
    (distinct : next.produced.Nodup) : Custody exempt next := by
  refine ⟨leases, ?_, ?_, place, distinct⟩
  · intro state referenced
    rw [refs] at referenced
    rw [states]
    exact custody.known state referenced
  · intro state conn owned
    rw [states] at owned
    rw [refs]
    exact custody.referenced state conn owned

theorem setCall_custody {exempt : Option Nat} {pool : Pool} (custody : Custody exempt pool)
    (call : Nat) (before after : AcquirePhase) (found : pool.calls[call]? = some before)
    (empty : ∀ conn, before.holds conn = false ∧ after.holds conn = false) :
    Custody exempt (pool.setCall call after) := by
  refine custody.reshape rfl (fun _ => rfl) custody.leases (fun other => ?_) custody.distinct
  have changed := inHand_setCall pool call before after found other
  simp only [empty other, Bool.false_eq_true, if_false, Nat.add_zero] at changed
  rw [changed]
  exact custody.place other

theorem woken_custody {exempt : Option Nat} {pool : Pool} (custody : Custody exempt pool)
    (call : Nat) (found : pool.calls[call]? = some .sleeping) :
    Custody exempt (pool.setCall call .woken) := by
  apply setCall_custody custody call .sleeping .woken found
  intro conn
  simp [AcquirePhase.holds]

theorem notifyOne_custody {exempt : Option Nat} {pool next : Pool} (custody : Custody exempt pool)
    (chosen : Nat) (enabled : notifyOne chosen pool = some next) : Custody exempt next := by
  rcases notifyOne_cases chosen pool next enabled with ⟨rfl, _⟩ | ⟨rfl, found⟩
  · exact custody
  · exact woken_custody custody chosen found

/-! ## The last pointer to a shared state -/

def returned (state : Nat) (conn : ConnId) (pool : Pool) : Pool :=
  { pool with idle := pool.idle ++ [conn], states := pool.states.set state none }

theorem dropped_cases (state : Option Nat) (chosen : Nat) (pool next : Pool)
    (enabled : pool.dropped state chosen = some next) :
    (next = pool ∧ ∀ found, state = some found →
      0 < pool.refs found ∨ ∀ conn, pool.states[found]? ≠ some (some conn)) ∨
    ∃ found conn, state = some found ∧ pool.refs found = 0 ∧
      pool.states[found]? = some (some conn) ∧
      notifyOne chosen (pool.returned found conn) = some next := by
  unfold dropped at enabled
  cases state with
  | none =>
      cases enabled
      exact Or.inl ⟨rfl, fun _ same => by cases same⟩
  | some found =>
      dsimp only at enabled
      split at enabled
      · rename_i unreferenced
        split at enabled
        · rename_i conn owned
          exact Or.inr ⟨found, conn, rfl, unreferenced, owned, enabled⟩
        · rename_i empty
          cases enabled
          refine Or.inl ⟨rfl, fun other same => Or.inr fun conn owned => ?_⟩
          cases same
          exact empty conn owned
      · rename_i referenced
        cases enabled
        refine Or.inl ⟨rfl, fun other same => Or.inl ?_⟩
        cases same
        omega

theorem owners_returned (pool : Pool) (state : Nat) (conn other : ConnId)
    (found : pool.states[state]? = some (some conn)) :
    (pool.returned state conn).owners other + (if conn = other then 1 else 0) =
      pool.owners other := by
  have moved := countP_set_add (fun resource : Option ConnId => resource == some other)
    pool.states state (some conn) none found
  simp only [beq_iff_eq, Option.some.injEq, reduceCtorEq, if_false, Nat.add_zero] at moved
  exact moved

theorem returned_custody {pool : Pool} (state : Nat) (conn : ConnId)
    (custody : Custody (some state) pool) (unreferenced : pool.refs state = 0)
    (found : pool.states[state]? = some (some conn)) :
    Custody none (pool.returned state conn) := by
  have sameRefs : ∀ other, (pool.returned state conn).refs other = pool.refs other :=
    fun other => rfl
  refine ⟨custody.leases, fun other referenced => ?_, fun other resource owned => ?_,
    fun other => ?_, custody.distinct⟩
  · rw [sameRefs] at referenced
    obtain ⟨resource, owned⟩ := custody.known other referenced
    have different : state ≠ other := by
      intro same
      rw [← same, unreferenced] at referenced
      exact Nat.lt_irrefl 0 referenced
    exact ⟨resource, by rw [returned, List.getElem?_set, if_neg different, owned]⟩
  · rw [returned, List.getElem?_set] at owned
    split at owned
    · split at owned <;> cases owned
    · rename_i different
      rcases custody.referenced other resource owned with referenced | same
      · exact Or.inl referenced
      · cases same
        exact absurd rfl different
  · have total := custody.place other
    have gone := owners_returned pool state conn other found
    have same : (pool.returned state conn).inHand other = pool.inHand other := rfl
    rw [same]
    simp only [returned, List.count_append, List.count_singleton, beq_iff_eq] at gone ⊢
    omega

theorem dropped_custody {pool next : Pool} (state : Option Nat) (chosen : Nat)
    (custody : Custody state pool) (enabled : pool.dropped state chosen = some next) :
    Custody none next := by
  rcases dropped_cases state chosen pool next enabled with
    ⟨rfl, kept⟩ | ⟨found, conn, rfl, unreferenced, owned, notified⟩
  · refine ⟨custody.leases, custody.known, fun other conn owned => ?_, custody.place,
      custody.distinct⟩
    rcases custody.referenced other conn owned with referenced | same
    · exact Or.inl referenced
    · rcases kept other same with referenced | empty
      · exact Or.inl referenced
      · exact absurd owned (empty conn)
  · exact notifyOne_custody (returned_custody found conn custody unreferenced owned) chosen notified

/-! ## Leases -/

theorem released_custody {pool : Pool} (custody : Custody none pool) (index : Nat) (held : Lease)
    (found : pool.leases[index]? = some held) :
    Custody held.state (pool.setLease index .empty) := by
  have counted := refs_setLease pool index held .empty found
  refine ⟨fun lease member => ?_, fun state referenced => ?_, fun state conn owned => ?_,
    custody.place, custody.distinct⟩
  · rcases List.mem_or_eq_of_mem_set member with old | rfl
    · exact custody.leases lease old
    · rfl
  · have here := counted state
    rw [refs_empty] at here
    exact custody.known state (by omega)
  · have here := counted state
    rw [refs_empty] at here
    by_cases mine : held.state = some state
    · exact Or.inr mine
    · have same := custody.leases held (List.mem_of_getElem? found)
      simp only [Lease.refs, same, if_neg mine] at here
      have before := (custody.referenced state conn owned).resolve_right (by simp)
      exact Or.inl (by omega)

/-- Clearing the first of its two pointers never is the end of a lease's shared state. -/
theorem leaseRelease_eq {pool : Pool} (custody : Custody none pool) (index chosen : Nat)
    (held : Lease) (found : pool.leases[index]? = some held) :
    pool.leaseRelease index chosen = (pool.setLease index .empty).dropped held.state chosen := by
  have first : (pool.setLease index { held with connection := none }).dropped
      held.connection chosen = some (pool.setLease index { held with connection := none }) := by
    rw [custody.leases held (List.mem_of_getElem? found)]
    cases own : held.state with
    | none => rfl
    | some state =>
        have counted := refs_setLease pool index held { held with connection := none } found state
        have bounded : index < pool.leases.length := (List.getElem?_eq_some_iff.mp found).1
        have member : { held with connection := none } ∈
            (pool.setLease index { held with connection := none }).leases :=
          List.mem_set bounded _
        have referenced := refs_of_mem _ _ member state own
        rw [own] at referenced
        rw [dropped]
        exact if_neg (Nat.ne_of_gt referenced)
  unfold leaseRelease
  rw [found]
  dsimp only
  rw [first, Option.bind_some]
  have same : (pool.setLease index { held with connection := none }).setLease index .empty =
      pool.setLease index .empty := by
    simp [setLease]
  rw [same]

/-- The connection of a lease is dropped, then its share in the state. -/
theorem leaseRelease_cases {pool next : Pool} (index chosen : Nat)
    (enabled : pool.leaseRelease index chosen = some next) :
    ∃ held first, pool.leases[index]? = some held ∧
      (pool.setLease index { held with connection := none }).dropped held.connection chosen =
        some first ∧
      (first.setLease index .empty).dropped held.state chosen = some next := by
  unfold leaseRelease at enabled
  split at enabled
  · cases enabled
  · rename_i held found
    obtain ⟨first, early, late⟩ := Option.bind_eq_some_iff.mp enabled
    exact ⟨held, first, found, early, late⟩

theorem leaseRelease_custody {pool next : Pool} (custody : Custody none pool)
    (index chosen : Nat) (enabled : pool.leaseRelease index chosen = some next) :
    Custody none next := by
  obtain ⟨held, _, found, _⟩ := leaseRelease_cases index chosen enabled
  rw [leaseRelease_eq custody index chosen held found] at enabled
  exact dropped_custody held.state chosen (released_custody custody index held found) enabled

theorem notifyOne_leases (chosen : Nat) (pool next : Pool)
    (enabled : notifyOne chosen pool = some next) : next.leases = pool.leases := by
  rcases notifyOne_cases chosen pool next enabled with ⟨rfl, _⟩ | ⟨rfl, _⟩ <;> rfl

theorem dropped_leases (state : Option Nat) (chosen : Nat) (pool next : Pool)
    (enabled : pool.dropped state chosen = some next) : next.leases = pool.leases := by
  rcases dropped_cases state chosen pool next enabled with
    ⟨rfl, _⟩ | ⟨found, conn, _, _, _, notified⟩
  · rfl
  · have woken := notifyOne_leases chosen (pool.returned found conn) next notified
    exact woken

theorem moveConstruct_custody {pool next : Pool} (custody : Custody none pool) (source : Nat)
    (enabled : pool.moveConstruct source = some next) : Custody none next := by
  obtain ⟨held, found, rfl⟩ := Option.map_eq_some_iff.mp enabled
  have paired := custody.leases held (List.mem_of_getElem? found)
  refine custody.reshape rfl (fun state => ?_) (fun lease member => ?_) custody.place
    custody.distinct
  · have removed := refs_setLease pool source held .empty found state
    rw [refs_empty] at removed
    have added := refs_addLease (pool.setLease source .empty) held state
    exact added.trans removed
  · rcases List.mem_append.mp member with old | new
    · rcases List.mem_or_eq_of_mem_set old with old | rfl
      · exact custody.leases lease old
      · rfl
    · rw [List.mem_singleton.mp new]
      exact paired

theorem moveAssign_custody {pool next : Pool} (custody : Custody none pool)
    (target source chosen : Nat) (enabled : pool.moveAssign target source chosen = some next) :
    Custody none next := by
  rcases moveAssign_cases target source chosen enabled with
    rfl | ⟨old, held, released, different, targetFound, sourceFound, release, rfl⟩
  · exact custody
  · have after := leaseRelease_custody custody target chosen release
    rw [leaseRelease_eq custody target chosen old targetFound] at release
    have leases := dropped_leases old.state chosen _ released release
    have paired := custody.leases held (List.mem_of_getElem? sourceFound)
    have bounded : target < pool.leases.length := (List.getElem?_eq_some_iff.mp targetFound).1
    have emptied : released.leases[target]? = some .empty := by
      rw [leases, setLease, List.getElem?_set_self bounded]
    have kept : (released.setLease target held).leases[source]? = some held := by
      rw [setLease, leases, setLease, List.getElem?_set, if_neg different, List.getElem?_set,
        if_neg different, sourceFound]
    refine after.reshape rfl (fun state => ?_) (fun lease member => ?_) after.place
      after.distinct
    · have added := refs_setLease released target .empty held emptied state
      have removed := refs_setLease (released.setLease target held) source held .empty kept state
      rw [refs_empty] at added removed
      omega
    · rcases List.mem_or_eq_of_mem_set member with set | rfl
      · rcases List.mem_or_eq_of_mem_set set with kept | rfl
        · exact after.leases lease kept
        · exact paired
      · rfl

theorem addAlias_custody {pool : Pool} (custody : Custody none pool) (pointer : Option Nat)
    (referenced : ∀ state, pointer = some state → 0 < pool.refs state) :
    Custody none { pool with aliases := pool.aliases ++ [pointer] } := by
  have counted := refs_addAlias pool pointer
  refine ⟨custody.leases, fun state positive => ?_, fun state conn owned => ?_, custody.place,
    custody.distinct⟩
  · by_cases mine : pointer = some state
    · exact custody.known state (referenced state mine)
    · rw [counted, if_neg mine] at positive
      exact custody.known state positive
  · have before := (custody.referenced state conn owned).resolve_right (by simp)
    rw [counted]
    exact Or.inl (by omega)

theorem dropAlias_custody {pool next : Pool} (custody : Custody none pool) (pointer chosen : Nat)
    (state : Option Nat) (found : pool.aliases[pointer]? = some state)
    (dropped : { pool with aliases := pool.aliases.set pointer none }.dropped state chosen =
      some next) : Custody none next := by
  refine dropped_custody state chosen ?_ dropped
  have counted := refs_dropAlias pool pointer state found
  refine ⟨custody.leases, fun other referenced => ?_, fun other conn owned => ?_,
    custody.place, custody.distinct⟩
  · have here := counted other
    exact custody.known other (by omega)
  · have here := counted other
    by_cases mine : state = some other
    · exact Or.inr mine
    · rw [if_neg mine, Nat.add_zero] at here
      rw [here]
      exact Or.inl ((custody.referenced other conn owned).resolve_right (by simp))

/-! ## The locked section -/

theorem round_cases (pool : Pool) :
    (∃ conn, pool.idle.getLast? = some conn ∧
      pool.round = ({ pool with idle := pool.idle.dropLast }, .holding (some conn))) ∨
    (pool.idle = [] ∧ pool.created < pool.capacity ∧
      pool.round = ({ pool with created := pool.created + 1 }, .creating)) ∨
    (pool.idle = [] ∧ pool.capacity ≤ pool.created ∧ pool.round = (pool, .sleeping)) := by
  unfold round
  cases last : pool.idle.getLast? with
  | some conn => exact Or.inl ⟨conn, rfl, rfl⟩
  | none =>
      have empty := List.getLast?_eq_none_iff.mp last
      by_cases room : pool.created < pool.capacity
      · exact Or.inr (Or.inl ⟨empty, room, if_pos room⟩)
      · exact Or.inr (Or.inr ⟨empty, Nat.not_lt.mp room, if_neg room⟩)

theorem round_keeps (pool : Pool) :
    pool.round.1.states = pool.states ∧ pool.round.1.leases = pool.leases ∧
      pool.round.1.aliases = pool.aliases ∧ pool.round.1.produced = pool.produced ∧
      pool.round.1.calls = pool.calls ∧ pool.round.1.capacity = pool.capacity := by
  rcases round_cases pool with ⟨conn, _, result⟩ | ⟨_, _, result⟩ | ⟨_, _, result⟩
  · rw [result]
    exact ⟨rfl, rfl, rfl, rfl, rfl, rfl⟩
  · rw [result]
    exact ⟨rfl, rfl, rfl, rfl, rfl, rfl⟩
  · rw [result]
    exact ⟨rfl, rfl, rfl, rfl, rfl, rfl⟩

theorem round_count (pool : Pool) (conn : ConnId) :
    pool.round.1.idle.count conn + (if pool.round.2.holds conn then 1 else 0) =
      pool.idle.count conn := by
  rcases round_cases pool with ⟨taken, last, result⟩ | ⟨_, _, result⟩ | ⟨_, _, result⟩
  · have split := Recency.count_dropLast conn pool.idle
    rw [last, Option.toList_some, List.count_singleton] at split
    rw [result]
    simpa [AcquirePhase.holds, beq_iff_eq] using split
  · rw [result]
    rfl
  · rw [result]
    rfl

theorem entered_custody {pool : Pool} (custody : Custody none pool) :
    Custody none pool.entered := by
  obtain ⟨states, leases, aliases, produced, _, _⟩ := round_keeps pool
  refine custody.reshape states (fun state => ?_) ?_ (fun conn => ?_) ?_
  · simp only [refs, entered, leases, aliases]
  · intro lease member
    rw [entered, leases] at member
    exact custody.leases lease member
  · have total := custody.place conn
    have moved := round_count pool conn
    simp only [owners, inHand, entered, states, produced, List.countP_append,
      List.countP_singleton] at total ⊢
    omega
  · rw [entered, produced]
    exact custody.distinct

theorem retested_custody {pool : Pool} (custody : Custody none pool) (call : Nat)
    (found : pool.calls[call]? = some .woken) :
    Custody none (pool.round.1.setCall call pool.round.2) := by
  obtain ⟨states, leases, aliases, produced, calls, _⟩ := round_keeps pool
  refine custody.reshape states (fun state => ?_) ?_ (fun conn => ?_) ?_
  · simp only [refs, setCall, leases, aliases]
  · intro lease member
    rw [setCall, leases] at member
    exact custody.leases lease member
  · have total := custody.place conn
    have moved := round_count pool conn
    rw [← calls] at found
    have changed := inHand_setCall pool.round.1 call .woken pool.round.2 found conn
    have before : pool.round.1.inHand conn = pool.inHand conn := by
      rw [inHand, calls, inHand]
    have idle : AcquirePhase.woken.holds conn = false := by simp [AcquirePhase.holds]
    rw [before, idle] at changed
    simp only [Bool.false_eq_true, if_false, Nat.add_zero] at changed
    rw [changed]
    simp only [owners, setCall, states, produced] at total ⊢
    omega
  · rw [setCall, produced]
    exact custody.distinct

/-! ## The factory and the lease -/

theorem produce_custody {pool : Pool} (custody : Custody none pool) (call : Nat) (conn : ConnId)
    (found : pool.calls[call]? = some .creating) (new : conn ∉ pool.produced) :
    Custody none (pool.produce call conn) := by
  refine custody.reshape rfl (fun _ => rfl) custody.leases (fun other => ?_)
    (List.nodup_cons.mpr ⟨new, custody.distinct⟩)
  have total := custody.place other
  have changed := inHand_setCall pool call .creating (.holding (some conn)) found other
  simp only [AcquirePhase.holds, reduceCtorEq, AcquirePhase.holding.injEq, Option.some.injEq,
    decide_eq_true_eq, decide_false, Bool.false_eq_true, if_false, Nat.add_zero] at changed
  change pool.idle.count other + pool.owners other +
    (pool.setCall call (.holding (some conn))).inHand other = (conn :: pool.produced).count other
  rw [changed, List.count_cons]
  simp only [beq_iff_eq]
  omega

theorem emptyLease_custody {pool : Pool} (custody : Custody none pool) :
    Custody none { pool with leases := pool.leases ++ [.empty] } := by
  refine custody.reshape rfl (fun state => ?_) (fun lease member => ?_) custody.place
    custody.distinct
  · have added := refs_addLease pool .empty state
    rw [refs_empty] at added
    exact added
  · rcases List.mem_append.mp member with old | new
    · exact custody.leases lease old
    · rw [List.mem_singleton.mp new]
      rfl

theorem makeLease_custody {pool : Pool} (custody : Custody none pool) (call : Nat)
    (conn : Option ConnId) (found : pool.calls[call]? = some (.holding conn)) :
    Custody none ((pool.setCall call .done).makeLease conn) := by
  have changed := inHand_setCall pool call (.holding conn) .done found
  have holdsNone : ∀ other, AcquirePhase.done.holds other = false := by
    intro other
    simp [AcquirePhase.holds]
  cases conn with
  | none =>
      have done := setCall_custody custody call (.holding none) .done found fun other =>
        ⟨by simp [AcquirePhase.holds], holdsNone other⟩
      exact emptyLease_custody done
  | some conn =>
      have fresh : ∀ state, pool.states.length ≤ state → pool.refs state = 0 := by
        intro state beyond
        by_contra referenced
        obtain ⟨other, owned⟩ := custody.known state (Nat.pos_of_ne_zero referenced)
        rw [List.getElem?_eq_none beyond] at owned
        cases owned
      have counted : ∀ state, ((pool.setCall call .done).makeLease (some conn)).refs state =
          pool.refs state + if pool.states.length = state then 2 else 0 := by
        intro state
        have added := refs_addLease (pool.setCall call .done)
          ⟨some pool.states.length, some pool.states.length⟩ state
        have total : Lease.refs state ⟨some pool.states.length, some pool.states.length⟩ =
            if pool.states.length = state then 2 else 0 := by
          by_cases same : pool.states.length = state
          · simp [Lease.refs, same]
          · simp [Lease.refs, same]
        rw [← total]
        exact added
      have states : ((pool.setCall call .done).makeLease (some conn)).states =
          pool.states ++ [some conn] := rfl
      refine ⟨fun lease member => ?_, fun state referenced => ?_, fun state other owned => ?_,
        fun other => ?_, custody.distinct⟩
      · rcases List.mem_append.mp member with old | new
        · exact custody.leases lease old
        · rw [List.mem_singleton.mp new]
      · rw [counted] at referenced
        rw [states, List.getElem?_append]
        by_cases same : pool.states.length = state
        · subst same
          exact ⟨conn, by simp⟩
        · rw [if_neg same, Nat.add_zero] at referenced
          obtain ⟨other, owned⟩ := custody.known state referenced
          have bounded := (List.getElem?_eq_some_iff.mp owned).1
          exact ⟨other, by rw [if_pos bounded, owned]⟩
      · rw [counted]
        rw [states, List.getElem?_append] at owned
        split at owned
        · have before := (custody.referenced state other owned).resolve_right (by simp)
          exact Or.inl (by omega)
        · rename_i beyond
          have bounded := (List.getElem?_eq_some_iff.mp owned).1
          rw [List.length_singleton] at bounded
          have same : pool.states.length = state := by omega
          rw [if_pos same]
          exact Or.inl (by omega)
      · have here := changed other
        rw [holdsNone] at here
        simp only [AcquirePhase.holds, AcquirePhase.holding.injEq, Option.some.injEq,
          decide_eq_true_eq, Bool.false_eq_true, if_false, Nat.add_zero] at here
        have total := custody.place other
        change pool.idle.count other + (pool.states ++ [some conn]).count (some other) +
          (pool.setCall call .done).inHand other = pool.produced.count other
        rw [List.count_append, List.count_singleton]
        simp only [beq_iff_eq, Option.some.injEq, owners] at total ⊢
        omega

theorem step_custody {pool next : Pool} (custody : Custody none pool) (action : PoolAction)
    (enabled : pool.step action = some next) : Custody none next := by
  cases moved_of_step action enabled with
  | enter => exact entered_custody custody
  | wake call found => exact woken_custody custody call found
  | retest call found => exact retested_custody custody call found
  | connection call conn found new => exact produce_custody custody call conn found new
  | null call found =>
      apply setCall_custody custody call .creating (.holding none) found
      intro conn
      simp [AcquirePhase.holds]
  | throws call found =>
      apply setCall_custody custody call .creating .failed found
      intro conn
      simp [AcquirePhase.holds]
  | giveBack call chosen next found notified =>
      refine notifyOne_custody ?_ chosen notified
      have moved := setCall_custody custody call .failed .done found fun conn => by
        simp [AcquirePhase.holds]
      exact ⟨moved.leases, moved.known, moved.referenced, moved.place, moved.distinct⟩
  | lease call conn found => exact makeLease_custody custody call conn found
  | defaultLease => exact emptyLease_custody custody
  | moveConstruct source next constructed =>
      exact moveConstruct_custody custody source constructed
  | moveAssign target source chosen next assigned =>
      exact moveAssign_custody custody target source chosen assigned
  | dropLease lease chosen next released =>
      exact leaseRelease_custody custody lease chosen released
  | share lease held found =>
      have member := List.mem_of_getElem? found
      refine addAlias_custody custody held.connection fun state own => ?_
      rw [custody.leases held member] at own
      exact refs_of_mem pool held member state own
  | copyAlias pointer state found =>
      refine addAlias_custody custody state fun referenced own => ?_
      exact refs_of_alias pool referenced (own ▸ List.mem_of_getElem? found)
  | dropAlias pointer chosen state next found dropped =>
      exact dropAlias_custody custody pointer chosen state found dropped

theorem construct_eq (capacity : Nat) (factory : Bool) (start : Pool)
    (constructed : construct capacity factory = .ok start) :
    0 < capacity ∧ start = ⟨capacity, 0, [], [], [], [], [], []⟩ := by
  unfold construct at constructed
  split at constructed
  · cases constructed
  · rename_i positive
    split at constructed
    · cases constructed
    · cases constructed
      exact ⟨Nat.pos_of_ne_zero positive, rfl⟩

theorem construct_custody (capacity : Nat) (factory : Bool) (start : Pool)
    (constructed : construct capacity factory = .ok start) : Custody none start := by
  obtain ⟨_, rfl⟩ := construct_eq capacity factory start constructed
  refine ⟨fun lease member => ?_, fun state referenced => ?_, fun state conn owned => ?_,
    fun conn => rfl, List.nodup_nil⟩
  · cases member
  · cases referenced
  · rw [List.getElem?_nil] at owned
    cases owned

theorem reached_custody (pool : Pool) (reached : Reached pool) : Custody none pool := by
  obtain ⟨capacity, factory, start, constructed, reachable⟩ := reached
  exact reachable_invariant step (Custody none) start pool
    (construct_custody capacity factory start constructed)
    (fun _ action next custody enabled => step_custody custody action enabled) reachable

end Pool
end VSQLite
