import VSQLite.Pool.Slots

/-!
# Exclusivity

A connection is never in two places, and comes back once for every lease that was made
of it, with the last pointer to the lease's shared state.
-/

set_option autoImplicit false

namespace VSQLite
open Lib

namespace Pool

/-- What a step does to the shared states and the idle connections: either one shared
state gives its connection back, or none does. -/
def Returns (pool next : Pool) : Prop :=
  (∃ added, next.states = pool.states ++ added ∧
    ∀ conn, next.idle.count conn ≤ pool.idle.count conn) ∨
  ∃ state conn, pool.states[state]? = some (some conn) ∧
    next.states = pool.states.set state none ∧ next.idle = pool.idle ++ [conn]

theorem returns_of_same {pool next : Pool} (states : next.states = pool.states)
    (idle : next.idle = pool.idle) : Returns pool next :=
  Or.inl ⟨[], by rw [states, List.append_nil], fun conn => Nat.le_of_eq (by rw [idle])⟩

theorem notifyOne_same (chosen : Nat) (pool next : Pool)
    (enabled : notifyOne chosen pool = some next) :
    next.states = pool.states ∧ next.idle = pool.idle := by
  rcases notifyOne_cases chosen pool next enabled with ⟨rfl, _⟩ | ⟨rfl, _⟩
  · exact ⟨rfl, rfl⟩
  · exact ⟨rfl, rfl⟩

theorem dropped_returns (state : Option Nat) (chosen : Nat) (pool next : Pool)
    (enabled : pool.dropped state chosen = some next) : Returns pool next := by
  rcases dropped_cases state chosen pool next enabled with
    ⟨rfl, _⟩ | ⟨found, conn, _, _, owned, notified⟩
  · exact returns_of_same rfl rfl
  · obtain ⟨states, idle⟩ := notifyOne_same chosen _ next notified
    exact Or.inr ⟨found, conn, owned, states, idle⟩

theorem leaseRelease_returns {pool next : Pool} (custody : Custody none pool)
    (lease chosen : Nat) (enabled : pool.leaseRelease lease chosen = some next) :
    Returns pool next := by
  obtain ⟨held, _, found, _⟩ := leaseRelease_cases lease chosen enabled
  rw [leaseRelease_eq custody lease chosen held found] at enabled
  have after := dropped_returns held.state chosen (pool.setLease lease .empty) next enabled
  exact after

theorem round_returns (pool : Pool) : Returns pool pool.round.1 := by
  obtain ⟨states, _⟩ := round_keeps pool
  refine Or.inl ⟨[], by rw [states, List.append_nil], fun conn => ?_⟩
  have moved := round_count pool conn
  omega

theorem step_returns {pool next : Pool} (custody : Custody none pool) (action : PoolAction)
    (enabled : pool.step action = some next) : Returns pool next := by
  cases moved_of_step action enabled with
  | enter => exact round_returns pool
  | wake call found => exact returns_of_same rfl rfl
  | retest call found => exact round_returns pool
  | connection call conn found => exact returns_of_same rfl rfl
  | null call found => exact returns_of_same rfl rfl
  | throws call found => exact returns_of_same rfl rfl
  | giveBack call chosen next found notified =>
      obtain ⟨states, idle⟩ := notifyOne_same chosen _ next notified
      exact returns_of_same states idle
  | lease call conn found =>
      cases conn with
      | none => exact returns_of_same rfl rfl
      | some conn => exact Or.inl ⟨[some conn], rfl, fun _ => Nat.le_refl _⟩
  | defaultLease => exact returns_of_same rfl rfl
  | moveConstruct source next constructed =>
      obtain ⟨held, _, rfl⟩ := Option.map_eq_some_iff.mp constructed
      exact returns_of_same rfl rfl
  | moveAssign target source chosen next assigned =>
      rcases moveAssign_cases target source chosen assigned with
        rfl | ⟨_, _, released, _, _, _, release, rfl⟩
      · exact returns_of_same rfl rfl
      · have after := leaseRelease_returns custody target chosen release
        exact after
  | dropLease lease chosen next released =>
      exact leaseRelease_returns custody lease chosen released
  | share lease held found => exact returns_of_same rfl rfl
  | copyAlias pointer state found => exact returns_of_same rfl rfl
  | dropAlias pointer chosen state next found dropped =>
      have after := dropped_returns state chosen
        { pool with aliases := pool.aliases.set pointer none } next dropped
      exact after

theorem Custody.owned_not_idle {pool : Pool} (custody : Custody none pool) (state : Nat)
    (conn : ConnId) (owned : pool.states[state]? = some (some conn)) :
    pool.idle.count conn = 0 := by
  have total := custody.place conn
  rw [custody.distinct.count] at total
  have counted : 0 < pool.owners conn := List.count_pos_iff.mpr (List.mem_of_getElem? owned)
  split at total <;> omega

/-- A shared state keeps its connection as long as something refers to it, and gives it
back in the step that drops the last reference. -/
theorem step_owned_state {pool next : Pool} (custody : Custody none pool) (action : PoolAction)
    (enabled : pool.step action = some next) (state : Nat) (conn : ConnId)
    (owned : pool.states[state]? = some (some conn)) :
    (0 < next.refs state ∧ next.states[state]? = some (some conn) ∧ next.idle.count conn = 0) ∨
    (next.refs state = 0 ∧ next.states[state]? = some none ∧ next.idle.count conn = 1) := by
  have after := step_custody custody action enabled
  have bounded := (List.getElem?_eq_some_iff.mp owned).1
  have keeps : next.states[state]? = some (some conn) → 0 < next.refs state ∧
      next.states[state]? = some (some conn) ∧ next.idle.count conn = 0 := by
    intro still
    exact ⟨(after.referenced state conn still).resolve_right (by simp), still,
      after.owned_not_idle state conn still⟩
  rcases step_returns custody action enabled with
    ⟨added, states, _⟩ | ⟨other, resource, found, states, idle⟩
  · apply Or.inl
    apply keeps
    rw [states, List.getElem?_append_left bounded, owned]
  · by_cases same : other = state
    · subst same
      rw [owned] at found
      cases found
      have empty : next.states[other]? = some none := by
        rw [states, List.getElem?_set_self bounded]
      refine Or.inr ⟨?_, empty, ?_⟩
      · by_contra referenced
        obtain ⟨resource, still⟩ := after.known other (Nat.pos_of_ne_zero referenced)
        rw [empty] at still
        cases still
      · rw [idle, List.count_append, custody.owned_not_idle other conn owned]
        simp
    · apply Or.inl
      apply keeps
      rw [states, List.getElem?_set, if_neg same, owned]

theorem step_empty_state {pool next : Pool} (custody : Custody none pool) (action : PoolAction)
    (enabled : pool.step action = some next) (state : Nat)
    (empty : pool.states[state]? = some none) : next.states[state]? = some none := by
  have bounded := (List.getElem?_eq_some_iff.mp empty).1
  rcases step_returns custody action enabled with
    ⟨added, states, _⟩ | ⟨other, resource, found, states, _⟩
  · rw [states, List.getElem?_append_left bounded, empty]
  · rw [states, List.getElem?_set]
    by_cases same : other = state
    · rw [if_pos same, if_pos (same ▸ bounded)]
    · rw [if_neg same, empty]

theorem step_becomes_idle {pool next : Pool} (custody : Custody none pool) (action : PoolAction)
    (enabled : pool.step action = some next) (conn : ConnId)
    (grown : pool.idle.count conn < next.idle.count conn) :
    ∃ state : Nat, pool.states[state]? = some (some conn) ∧
      next.states[state]? = some none := by
  rcases step_returns custody action enabled with
    ⟨added, _, idle⟩ | ⟨state, resource, found, states, idle⟩
  · have shrunk := idle conn
    omega
  · rw [idle, List.count_append, List.count_singleton] at grown
    by_cases same : resource = conn
    · subst same
      refine ⟨state, found, ?_⟩
      rw [states, List.getElem?_set_self (List.getElem?_eq_some_iff.mp found).1]
    · simp [same] at grown

/-- In every reachable state each connection the factory produced is in one place:
idle, owned by a shared state, or in the hands of a call of `acquire`.  A shared state
owns its connection while a lease or alias refers to it; the step that drops the last
of them, and no other step, puts the connection among the idle ones; and the shared
state stays empty.  The places that are taken do not exceed the slots. -/
theorem pool_exclusive (pool : Pool) (reached : Reached pool) :
    (∀ conn, pool.idle.count conn + pool.owners conn + pool.inHand conn =
      if conn ∈ pool.produced then 1 else 0) ∧
    (∀ state : Nat, 0 < pool.refs state ↔ ∃ conn, pool.states[state]? = some (some conn)) ∧
    (∀ action next, pool.step action = some next →
      (∀ (state : Nat) (conn : ConnId), pool.states[state]? = some (some conn) →
        (0 < next.refs state ∧ next.states[state]? = some (some conn) ∧
          next.idle.count conn = 0) ∨
        (next.refs state = 0 ∧ next.states[state]? = some none ∧ next.idle.count conn = 1)) ∧
      (∀ state : Nat, pool.states[state]? = some none → next.states[state]? = some none) ∧
      ∀ conn, pool.idle.count conn < next.idle.count conn →
        ∃ state : Nat,
          pool.states[state]? = some (some conn) ∧ next.states[state]? = some none) ∧
    pool.idle.length + pool.leased + pool.inHands + pool.inCreation ≤ pool.created ∧
    pool.created ≤ pool.capacity := by
  have custody := reached_custody pool reached
  obtain ⟨lost, balanced⟩ := reached_balanced pool reached
  refine ⟨fun conn => ?_, fun state => ⟨custody.known state, ?_⟩, fun action next enabled => ?_,
    ?_, balanced.limits.2⟩
  · rw [custody.place conn, custody.distinct.count]
  · rintro ⟨conn, owned⟩
    exact (custody.referenced state conn owned).resolve_right (by simp)
  · refine ⟨?_, ?_, ?_⟩
    · intro state conn owned
      exact step_owned_state custody action enabled state conn owned
    · intro state empty
      exact step_empty_state custody action enabled state empty
    · intro conn grown
      exact step_becomes_idle custody action enabled conn grown
  · have slots := balanced.slots
    omega

/-- A lease is given away and taken over by another, and its alias outlives it. -/
theorem pool_exclusive_shared :
    ∃ start pool, construct 1 true = .ok start ∧
      exec step [.enter, .factory 0 (.connection 7), .lease 0, .share 0, .moveConstruct 0,
        .dropLease 1 0] start = some pool ∧
      pool.states[0]? = some (some 7) ∧ 0 < pool.refs 0 ∧
      pool.idle.count 7 + pool.owners 7 + pool.inHand 7 = if 7 ∈ pool.produced then 1 else 0 := by
  refine ⟨_, _, rfl, rfl, rfl, by decide, ?_⟩
  exact (pool_exclusive _ ⟨1, true, _, rfl, [.enter, .factory 0 (.connection 7), .lease 0,
    .share 0, .moveConstruct 0, .dropLease 1 0], rfl⟩).1 7

/-- Between the factory call and the lease a connection is neither idle nor owned by a
shared state. -/
theorem connection_in_hand :
    ∃ pool, Reached pool ∧ 7 ∈ pool.produced ∧ pool.idle.count 7 = 0 ∧ pool.owners 7 = 0 :=
  ⟨_, ⟨1, true, _, rfl, [.enter, .factory 0 (.connection 7)], rfl⟩, by decide, rfl, rfl⟩

end Pool
end VSQLite
