import VSQLite.Pool.Ownership

/-!
# Slots

`created_` counts the slots that are reserved.  A slot belongs to an idle connection,
a shared state, or a call of `acquire` on its way.  One whose factory call returned the
null pointer belongs to nobody, and is never given back.
-/

set_option autoImplicit false

namespace VSQLite
open Lib

def PoolAction.returnsNull : PoolAction → Bool
  | .factory _ .null => true
  | _ => false

namespace Pool

/-- Every reserved slot is accounted for; `lost` of them belong to nobody. -/
structure Balanced (capacity lost : Nat) (pool : Pool) : Prop where
  slots : pool.created =
    pool.idle.length + pool.leased + pool.inCreation + pool.inHands + lost
  made : pool.created = pool.produced.length + pool.inCreation + lost
  limits : pool.capacity = capacity ∧ pool.created ≤ capacity

theorem setCall_balanced {capacity lost : Nat} {pool : Pool}
    (balanced : Balanced capacity lost pool) (call : Nat) (before after : AcquirePhase)
    (found : pool.calls[call]? = some before) (creates : after.creates = before.creates)
    (holds : after.holdsSome = before.holdsSome) :
    Balanced capacity lost (pool.setCall call after) := by
  have creation := inCreation_setCall pool call before after found
  have hands := inHands_setCall pool call before after found
  rw [creates] at creation
  rw [holds] at hands
  refine ⟨?_, ?_, balanced.limits⟩
  · have slots := balanced.slots
    rw [Nat.add_right_cancel creation, Nat.add_right_cancel hands]
    exact slots
  · have made := balanced.made
    rw [Nat.add_right_cancel creation]
    exact made

theorem notifyOne_balanced {capacity lost : Nat} {pool next : Pool}
    (balanced : Balanced capacity lost pool) (chosen : Nat)
    (enabled : notifyOne chosen pool = some next) : Balanced capacity lost next := by
  rcases notifyOne_cases chosen pool next enabled with ⟨rfl, _⟩ | ⟨rfl, found⟩
  · exact balanced
  · exact setCall_balanced balanced chosen .sleeping .woken found rfl rfl

theorem leased_returned (pool : Pool) (state : Nat) (conn : ConnId)
    (found : pool.states[state]? = some (some conn)) :
    (pool.returned state conn).leased + 1 = pool.leased := by
  have moved := countP_set_add Option.isSome pool.states state (some conn) none found
  simp only [Option.isSome_some, Option.isSome_none, if_true, Bool.false_eq_true, if_false,
    Nat.add_zero] at moved
  exact moved

theorem dropped_balanced {capacity lost : Nat} {pool next : Pool} (state : Option Nat)
    (chosen : Nat) (balanced : Balanced capacity lost pool)
    (enabled : pool.dropped state chosen = some next) :
    Balanced capacity lost next := by
  rcases dropped_cases state chosen pool next enabled with
    ⟨rfl, _⟩ | ⟨found, conn, rfl, _, owned, notified⟩
  · exact balanced
  · apply notifyOne_balanced _ chosen notified
    refine ⟨?_, balanced.made, balanced.limits⟩
    have slots := balanced.slots
    have fewer := leased_returned pool found conn owned
    have creation : (pool.returned found conn).inCreation = pool.inCreation := rfl
    have hands : (pool.returned found conn).inHands = pool.inHands := rfl
    have created : (pool.returned found conn).created = pool.created := rfl
    rw [creation, hands, created]
    simp only [returned, List.length_append, List.length_singleton] at fewer ⊢
    omega

theorem round_slots (pool : Pool) :
    pool.round.1.created = pool.created + (if pool.round.2.creates then 1 else 0) ∧
      pool.round.1.idle.length + (if pool.round.2.holdsSome then 1 else 0) =
        pool.idle.length ∧
      (pool.created ≤ pool.capacity → pool.round.1.created ≤ pool.capacity) := by
  rcases round_cases pool with ⟨taken, last, result⟩ | ⟨_, room, result⟩ | ⟨_, _, result⟩
  · rw [result]
    have positive : 0 < pool.idle.length := by
      apply List.length_pos_iff.mpr
      intro empty
      rw [empty] at last
      cases last
    refine ⟨rfl, ?_, id⟩
    simp only [List.length_dropLast, AcquirePhase.holdsSome, if_true]
    omega
  · rw [result]
    exact ⟨rfl, rfl, fun _ => room⟩
  · rw [result]
    exact ⟨rfl, rfl, id⟩

theorem round_limits {capacity lost : Nat} {pool : Pool}
    (balanced : Balanced capacity lost pool) :
    pool.round.1.capacity = capacity ∧ pool.round.1.created ≤ capacity := by
  obtain ⟨_, _, _, _, _, kept⟩ := round_keeps pool
  obtain ⟨_, _, bound⟩ := round_slots pool
  rw [balanced.limits.1] at kept bound
  exact ⟨kept, bound balanced.limits.2⟩

theorem entered_balanced {capacity lost : Nat} {pool : Pool}
    (balanced : Balanced capacity lost pool) : Balanced capacity lost pool.entered := by
  obtain ⟨states, _, _, produced, _, _⟩ := round_keeps pool
  obtain ⟨created, idle, _⟩ := round_slots pool
  have creation : pool.entered.inCreation =
      pool.inCreation + if pool.round.2.creates then 1 else 0 := by
    simp only [inCreation, entered, List.countP_append, List.countP_singleton]
  refine ⟨?_, ?_, round_limits balanced⟩
  · have slots := balanced.slots
    have hands : pool.entered.inHands =
        pool.inHands + if pool.round.2.holdsSome then 1 else 0 := by
      simp only [inHands, entered, List.countP_append, List.countP_singleton]
    rw [creation, hands]
    simp only [leased, entered, states, created] at slots ⊢
    omega
  · have made := balanced.made
    rw [creation]
    simp only [entered, produced, created] at made ⊢
    omega

theorem retested_balanced {capacity lost : Nat} {pool : Pool}
    (balanced : Balanced capacity lost pool) (call : Nat)
    (found : pool.calls[call]? = some .woken) :
    Balanced capacity lost (pool.round.1.setCall call pool.round.2) := by
  obtain ⟨states, _, _, produced, calls, _⟩ := round_keeps pool
  obtain ⟨created, idle, _⟩ := round_slots pool
  rw [← calls] at found
  have creation := inCreation_setCall pool.round.1 call .woken pool.round.2 found
  have hands := inHands_setCall pool.round.1 call .woken pool.round.2 found
  have before : pool.round.1.inCreation = pool.inCreation ∧
      pool.round.1.inHands = pool.inHands := by
    simp only [inCreation, inHands, calls, and_self]
  rw [before.1] at creation
  rw [before.2] at hands
  have empty : AcquirePhase.woken.creates = false ∧ AcquirePhase.woken.holdsSome = false :=
    ⟨rfl, rfl⟩
  simp only [empty, Bool.false_eq_true, if_false, Nat.add_zero] at creation hands
  refine ⟨?_, ?_, round_limits balanced⟩
  · have slots := balanced.slots
    rw [creation, hands]
    simp only [leased, setCall, states, created] at slots ⊢
    omega
  · have made := balanced.made
    rw [creation]
    simp only [setCall, produced, created] at made ⊢
    omega

theorem makeLease_balanced {capacity lost : Nat} {pool : Pool}
    (balanced : Balanced capacity lost pool) (call : Nat) (conn : Option ConnId)
    (found : pool.calls[call]? = some (.holding conn)) :
    Balanced capacity lost ((pool.setCall call .done).makeLease conn) := by
  cases conn with
  | none =>
      have moved := setCall_balanced balanced call (.holding none) .done found rfl rfl
      exact ⟨moved.slots, moved.made, moved.limits⟩
  | some conn =>
      have creation := inCreation_setCall pool call _ .done found
      have hands := inHands_setCall pool call _ .done found
      simp only [AcquirePhase.creates, AcquirePhase.holdsSome, Bool.false_eq_true, if_false,
        if_true, Nat.add_zero] at creation hands
      refine ⟨?_, ?_, balanced.limits⟩
      · have slots := balanced.slots
        change pool.created = pool.idle.length +
          (pool.states ++ [some conn]).countP Option.isSome +
          (pool.setCall call .done).inCreation + (pool.setCall call .done).inHands + lost
        rw [List.countP_append, List.countP_singleton]
        simp only [Option.isSome_some, if_true, leased] at slots ⊢
        omega
      · have made := balanced.made
        change pool.created = pool.produced.length + (pool.setCall call .done).inCreation + lost
        omega

theorem produce_balanced {capacity lost : Nat} {pool : Pool}
    (balanced : Balanced capacity lost pool) (call : Nat) (conn : ConnId)
    (found : pool.calls[call]? = some .creating) :
    Balanced capacity lost (pool.produce call conn) := by
  have creation := inCreation_setCall pool call _ (.holding (some conn)) found
  have hands := inHands_setCall pool call _ (.holding (some conn)) found
  simp only [AcquirePhase.creates, AcquirePhase.holdsSome, Bool.false_eq_true, if_false,
    if_true, Nat.add_zero] at creation hands
  refine ⟨?_, ?_, balanced.limits⟩
  · have slots := balanced.slots
    change pool.created = pool.idle.length + pool.leased +
      (pool.setCall call (.holding (some conn))).inCreation +
      (pool.setCall call (.holding (some conn))).inHands + lost
    omega
  · have made := balanced.made
    change pool.created = (conn :: pool.produced).length +
      (pool.setCall call (.holding (some conn))).inCreation + lost
    rw [List.length_cons]
    omega

/-- A null pointer takes the place of the connection, and the slot is nobody's. -/
theorem null_balanced {capacity lost : Nat} {pool : Pool}
    (balanced : Balanced capacity lost pool) (call : Nat)
    (found : pool.calls[call]? = some .creating) :
    Balanced capacity (lost + 1) (pool.setCall call (.holding none)) := by
  have creation := inCreation_setCall pool call _ (.holding none) found
  have hands := inHands_setCall pool call _ (.holding none) found
  simp only [AcquirePhase.creates, AcquirePhase.holdsSome, Bool.false_eq_true, if_false,
    if_true, Nat.add_zero] at creation hands
  refine ⟨?_, ?_, balanced.limits⟩
  · have slots := balanced.slots
    change pool.created = pool.idle.length + pool.leased +
      (pool.setCall call (.holding none)).inCreation +
      (pool.setCall call (.holding none)).inHands + (lost + 1)
    omega
  · have made := balanced.made
    change pool.created =
      pool.produced.length + (pool.setCall call (.holding none)).inCreation + (lost + 1)
    omega

theorem giveUp_balanced {capacity lost : Nat} {pool : Pool}
    (balanced : Balanced capacity lost pool) (call : Nat)
    (found : pool.calls[call]? = some .failed) :
    Balanced capacity lost (pool.giveUp call) := by
  have creation := inCreation_setCall pool call _ .done found
  have hands := inHands_setCall pool call _ .done found
  simp only [AcquirePhase.creates, AcquirePhase.holdsSome, Bool.false_eq_true, if_false,
    if_true, Nat.add_zero] at creation hands
  refine ⟨?_, ?_, balanced.limits.1, ?_⟩
  · have slots := balanced.slots
    change pool.created - 1 = pool.idle.length + pool.leased +
      (pool.setCall call .done).inCreation + (pool.setCall call .done).inHands + lost
    omega
  · have made := balanced.made
    change pool.created - 1 =
      pool.produced.length + (pool.setCall call .done).inCreation + lost
    omega
  · exact Nat.le_trans (Nat.sub_le _ _) balanced.limits.2

theorem leaseRelease_balanced {capacity lost : Nat} {pool next : Pool}
    (balanced : Balanced capacity lost pool) (lease chosen : Nat)
    (enabled : pool.leaseRelease lease chosen = some next) :
    Balanced capacity lost next := by
  obtain ⟨held, first, _, early, late⟩ := leaseRelease_cases lease chosen enabled
  have cleared : Balanced capacity lost (pool.setLease lease { held with connection := none }) :=
    ⟨balanced.slots, balanced.made, balanced.limits⟩
  have after := dropped_balanced held.connection chosen cleared early
  have emptied : Balanced capacity lost (first.setLease lease .empty) :=
    ⟨after.slots, after.made, after.limits⟩
  exact dropped_balanced held.state chosen emptied late

theorem step_balanced {capacity lost : Nat} {pool next : Pool}
    (balanced : Balanced capacity lost pool) (action : PoolAction)
    (enabled : pool.step action = some next) :
    Balanced capacity (lost + if action.returnsNull then 1 else 0) next := by
  cases moved_of_step action enabled with
  | enter => exact entered_balanced balanced
  | wake call found => exact setCall_balanced balanced call .sleeping .woken found rfl rfl
  | retest call found => exact retested_balanced balanced call found
  | connection call conn found => exact produce_balanced balanced call conn found
  | null call found => exact null_balanced balanced call found
  | throws call found => exact setCall_balanced balanced call .creating .failed found rfl rfl
  | giveBack call chosen next found notified =>
      exact notifyOne_balanced (giveUp_balanced balanced call found) chosen notified
  | lease call conn found => exact makeLease_balanced balanced call conn found
  | defaultLease => exact ⟨balanced.slots, balanced.made, balanced.limits⟩
  | moveConstruct source next constructed =>
      obtain ⟨held, _, rfl⟩ := Option.map_eq_some_iff.mp constructed
      exact ⟨balanced.slots, balanced.made, balanced.limits⟩
  | moveAssign target source chosen next assigned =>
      rcases moveAssign_cases target source chosen assigned with
        rfl | ⟨_, _, released, _, _, _, release, rfl⟩
      · exact balanced
      · have after := leaseRelease_balanced balanced target chosen release
        exact ⟨after.slots, after.made, after.limits⟩
  | dropLease lease chosen next released =>
      exact leaseRelease_balanced balanced lease chosen released
  | share lease held found => exact ⟨balanced.slots, balanced.made, balanced.limits⟩
  | copyAlias pointer state found => exact ⟨balanced.slots, balanced.made, balanced.limits⟩
  | dropAlias pointer chosen state next found dropped =>
      have cleared : Balanced capacity lost
          { pool with aliases := pool.aliases.set pointer none } :=
        ⟨balanced.slots, balanced.made, balanced.limits⟩
      exact dropped_balanced state chosen cleared dropped

/-- Along a run a slot is lost with every null pointer the factory returns. -/
theorem exec_balanced (capacity : Nat) (actions : List PoolAction) (lost : Nat)
    (pool final : Pool) (balanced : Balanced capacity lost pool)
    (run : exec step actions pool = some final) :
    Balanced capacity (lost + actions.countP PoolAction.returnsNull) final := by
  induction actions generalizing lost pool with
  | nil =>
      cases run
      exact balanced
  | cons action rest ih =>
      obtain ⟨next, enabled, later⟩ := exec_cons_some step action rest pool final run
      have total := ih _ next (step_balanced balanced action enabled) later
      rw [List.countP_cons]
      have same : lost + (rest.countP PoolAction.returnsNull +
          if action.returnsNull = true then 1 else 0) =
          lost + (if action.returnsNull = true then 1 else 0) +
            rest.countP PoolAction.returnsNull := by omega
      rw [same]
      exact total

theorem construct_balanced (capacity : Nat) (factory : Bool) (start : Pool)
    (constructed : construct capacity factory = .ok start) : Balanced capacity 0 start := by
  obtain ⟨_, rfl⟩ := construct_eq capacity factory start constructed
  exact ⟨rfl, rfl, rfl, Nat.zero_le _⟩

theorem reached_balanced (pool : Pool) (reached : Reached pool) :
    ∃ lost, Balanced pool.capacity lost pool := by
  obtain ⟨capacity, factory, start, constructed, actions, run⟩ := reached
  have balanced := exec_balanced capacity actions 0 start pool
    (construct_balanced capacity factory start constructed) run
  exact ⟨_, balanced.limits.1.symm ▸ balanced⟩

/-! ## Conservation -/

/-- No call of `acquire` is between its locked section and its return. -/
def Quiescent (pool : Pool) : Prop := pool.inCreation = 0 ∧ pool.inHands = 0 ∧
  AcquirePhase.holding none ∉ pool.calls

/-- Every slot belongs to an idle or to a leased connection, and with all leases and
aliases gone the next `acquire` goes ahead. -/
def Conserved (pool : Pool) : Prop :=
  pool.created = pool.idle.length + pool.leased ∧
    ((∀ state, pool.refs state = 0) → pool.round.2 ≠ .sleeping)

theorem leased_eq_zero {pool : Pool} (custody : Custody none pool)
    (unreferenced : ∀ state, pool.refs state = 0) : pool.leased = 0 := by
  apply List.countP_eq_zero.mpr
  intro resource member owned
  obtain ⟨conn, rfl⟩ := Option.isSome_iff_exists.mp owned
  obtain ⟨state, found⟩ := List.mem_iff_getElem?.mp member
  have referenced := (custody.referenced state conn found).resolve_right (by simp)
  rw [unreferenced state] at referenced
  exact Nat.lt_irrefl 0 referenced

/-- In every run that has come to rest the slots are conserved exactly when no factory
call of the run returned the null pointer. -/
theorem slots_conserved_iff (capacity : Nat) (factory : Bool) (start : Pool)
    (constructed : construct capacity factory = .ok start) (actions : List PoolAction)
    (pool : Pool) (run : exec step actions start = some pool) (quiescent : Quiescent pool) :
    Conserved pool ↔ ∀ action ∈ actions, action.returnsNull = false := by
  have balanced := exec_balanced capacity actions 0 start pool
    (construct_balanced capacity factory start constructed) run
  have positive := (construct_eq capacity factory start constructed).1
  have custody := reached_custody pool ⟨capacity, factory, start, constructed, actions, run⟩
  have slots := balanced.slots
  rw [quiescent.1, quiescent.2.1, Nat.zero_add] at slots
  have none : (∀ action ∈ actions, action.returnsNull = false) ↔
      actions.countP PoolAction.returnsNull = 0 := by
    rw [List.countP_eq_zero]
    simp only [Bool.not_eq_true]
  rw [none]
  constructor
  · intro conserved
    have total := conserved.1
    omega
  · intro unlost
    rw [unlost] at slots
    refine ⟨by omega, fun unreferenced asleep => ?_⟩
    rw [leased_eq_zero custody unreferenced] at slots
    rcases round_cases pool with ⟨conn, _, result⟩ | ⟨_, _, result⟩ | ⟨empty, full, result⟩
    · rw [result] at asleep
      cases asleep
    · rw [result] at asleep
      cases asleep
    · rw [empty, List.length_nil] at slots
      have same := balanced.limits.1
      omega

/-- One connection, taken and given back. -/
theorem slots_conserved_returned :
    ∃ pool, exec step [.enter, .factory 0 (.connection 7), .lease 0, .dropLease 0 0]
        ⟨1, 0, [], [], [], [], [], []⟩ = some pool ∧
      Conserved pool ∧ pool.idle = [7] :=
  ⟨_, rfl, (slots_conserved_iff 1 true _ rfl
    [.enter, .factory 0 (.connection 7), .lease 0, .dropLease 0 0] _ rfl
    ⟨rfl, rfl, by decide⟩).mpr (by decide), rfl⟩

/-- A factory that returns the null pointer once fills a pool of capacity 1. -/
theorem null_connection_loses_slot :
    ∃ start pool, construct 1 true = .ok start ∧
      exec step [.enter, .factory 0 .null, .lease 0, .dropLease 0 0] start = some pool ∧
      Quiescent pool ∧ ¬Conserved pool ∧ pool.round.2 = .sleeping := by
  refine ⟨_, _, rfl, rfl, ⟨rfl, rfl, by decide⟩, ?_, rfl⟩
  intro conserved
  cases conserved.1

end Pool
end VSQLite
