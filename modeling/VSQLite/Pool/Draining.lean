import VSQLite.Pool.Wakeup

/-!
# The pool drains

Calls of `acquire` that go on, and holders that let go of what they have, come to an end: each
of their steps makes a weight smaller.  Where none of them is left, nobody sleeps, unless every
slot was lost to a factory that returned the null pointer.
-/

set_option autoImplicit false

namespace VSQLite
open Lib

/-- The steps of `acquire`, and the end of a lease or alias that holds a connection; nobody new
comes in, and no thread wakes for no reason. -/
def PoolAction.Drains (pool : Pool) : PoolAction → Prop
  | .retest _ => True
  | .factory _ _ => True
  | .giveBack _ _ => True
  | .lease _ => True
  | .dropLease index _ => pool.leases[index]? ≠ some .empty
  | .dropAlias pointer _ => pool.aliases[pointer]? ≠ some none
  | _ => False

/-- A bound on the steps it takes a call to return.  One that sleeps is woken once for each
slot that comes free; that step is on account of who gives it back. -/
def AcquirePhase.weight : AcquirePhase → Nat
  | .sleeping => 4
  | .woken => 5
  | .creating => 4
  | .failed => 2
  | .holding _ => 3
  | .done => 0

def Lease.weight (lease : Lease) : Nat := if lease = .empty then 0 else 2

/-- The weight of an alias. -/
def pointerWeight (pointer : Option Nat) : Nat := if pointer = none then 0 else 2

namespace Pool

def weight (pool : Pool) : Nat :=
  (pool.calls.map AcquirePhase.weight).sum + (pool.leases.map Lease.weight).sum +
    (pool.aliases.map pointerWeight).sum

theorem weight_le (pool : Pool) :
    pool.weight ≤ 5 * pool.calls.length + 2 * (pool.leases.length + pool.aliases.length) := by
  have calls := sum_map_le AcquirePhase.weight 5 pool.calls fun phase => by
    cases phase <;> simp [AcquirePhase.weight]
  have leases := sum_map_le Lease.weight 2 pool.leases fun lease => by
    unfold Lease.weight
    split <;> simp
  have aliases := sum_map_le pointerWeight 2 pool.aliases fun pointer => by
    unfold pointerWeight
    split <;> simp
  unfold weight
  omega

theorem weight_setCall (pool : Pool) (call : Nat) (before after : AcquirePhase)
    (found : pool.calls[call]? = some before) :
    (pool.setCall call after).weight + before.weight = pool.weight + after.weight := by
  have moved := sum_map_set_add AcquirePhase.weight pool.calls call before after found
  simp only [weight, setCall]
  omega

theorem weight_setLease (pool : Pool) (lease : Nat) (before after : Lease)
    (found : pool.leases[lease]? = some before) :
    (pool.setLease lease after).weight + before.weight = pool.weight + after.weight := by
  have moved := sum_map_set_add Lease.weight pool.leases lease before after found
  simp only [weight, setLease]
  omega

theorem weight_dropAlias (pool : Pool) (pointer : Nat) (before : Option Nat)
    (found : pool.aliases[pointer]? = some before) :
    { pool with aliases := pool.aliases.set pointer none }.weight + pointerWeight before =
      pool.weight := by
  have moved := sum_map_set_add pointerWeight pool.aliases pointer before none found
  have nothing : pointerWeight none = 0 := rfl
  simp only [weight]
  omega

theorem weight_notifyOne {pool next : Pool} (chosen : Nat)
    (enabled : notifyOne chosen pool = some next) : next.weight ≤ pool.weight + 1 := by
  rcases notifyOne_cases chosen pool next enabled with ⟨rfl, _⟩ | ⟨rfl, found⟩
  · exact Nat.le_succ _
  · have moved := weight_setCall pool chosen .sleeping .woken found
    simp only [AcquirePhase.weight] at moved
    omega

theorem weight_dropped {pool next : Pool} (state : Option Nat) (chosen : Nat)
    (enabled : pool.dropped state chosen = some next) : next.weight ≤ pool.weight + 1 := by
  rcases dropped_cases state chosen pool next enabled with
    ⟨rfl, _⟩ | ⟨found, conn, _, _, _, notified⟩
  · exact Nat.le_succ _
  · have woken := weight_notifyOne chosen notified
    exact woken

theorem weight_round (pool : Pool) :
    pool.round.1.weight = pool.weight ∧ pool.round.2.weight ≤ 4 := by
  obtain ⟨_, leases, aliases, _, calls, _⟩ := round_keeps pool
  refine ⟨by simp only [weight, leases, aliases, calls], ?_⟩
  rcases round_cases pool with ⟨conn, _, result⟩ | ⟨_, _, result⟩ | ⟨_, _, result⟩
  · rw [result]
    exact Nat.le_succ 3
  · rw [result]
    exact Nat.le_refl 4
  · rw [result]
    exact Nat.le_refl 4

theorem weight_makeLease (conn : Option ConnId) (pool : Pool) :
    (pool.makeLease conn).weight ≤ pool.weight + 2 := by
  cases conn with
  | none =>
      simp only [weight, makeLease, List.map_append, List.sum_append]
      have empty : ([.empty].map Lease.weight).sum = 0 := rfl
      omega
  | some conn =>
      simp only [weight, makeLease, List.map_append, List.sum_append]
      have full : ([⟨some pool.states.length, some pool.states.length⟩].map Lease.weight).sum = 2 :=
        rfl
      omega

theorem step_weight {pool next : Pool} (custody : Custody none pool) (action : PoolAction)
    (drains : action.Drains pool) (enabled : pool.step action = some next) :
    next.weight < pool.weight := by
  cases moved_of_step action enabled with
  | retest call found =>
      obtain ⟨_, _, _, _, calls, _⟩ := round_keeps pool
      obtain ⟨same, lighter⟩ := weight_round pool
      have moved := weight_setCall pool.round.1 call .woken pool.round.2 (calls.symm ▸ found)
      have woken : AcquirePhase.woken.weight = 5 := rfl
      omega
  | connection call conn found _ =>
      have moved := weight_setCall pool call .creating (.holding (some conn)) found
      have same : (pool.produce call conn).weight =
        (pool.setCall call (.holding (some conn))).weight := rfl
      simp only [AcquirePhase.weight] at moved
      omega
  | null call found =>
      have moved := weight_setCall pool call .creating (.holding none) found
      simp only [AcquirePhase.weight] at moved
      omega
  | throws call found =>
      have moved := weight_setCall pool call .creating .failed found
      simp only [AcquirePhase.weight] at moved
      omega
  | giveBack call chosen _ found notified =>
      have moved := weight_setCall pool call .failed .done found
      have woken := weight_notifyOne chosen notified
      have same : (pool.giveUp call).weight = (pool.setCall call .done).weight := rfl
      simp only [AcquirePhase.weight] at moved
      omega
  | lease call conn found =>
      have moved := weight_setCall pool call (.holding conn) .done found
      have made := weight_makeLease conn (pool.setCall call .done)
      simp only [AcquirePhase.weight] at moved
      omega
  | dropLease lease chosen _ released =>
      obtain ⟨held, _, found, _⟩ := leaseRelease_cases lease chosen released
      rw [leaseRelease_eq custody lease chosen held found] at released
      have moved := weight_setLease pool lease held .empty found
      have woken := weight_dropped held.state chosen released
      have full : held.weight = 2 := by
        rw [Lease.weight, if_neg]
        intro empty
        exact drains (empty ▸ found)
      have empty : Lease.empty.weight = 0 := rfl
      omega
  | dropAlias pointer chosen state _ found dropped =>
      have moved := weight_dropAlias pool pointer state found
      have woken := weight_dropped state chosen dropped
      have full : pointerWeight state = 2 := by
        rw [pointerWeight, if_neg]
        intro empty
        exact drains (empty ▸ found)
      omega
  | enter => exact drains.elim
  | wake call _ => exact drains.elim
  | defaultLease => exact drains.elim
  | moveConstruct source _ _ => exact drains.elim
  | moveAssign target source chosen _ _ => exact drains.elim
  | share lease held _ => exact drains.elim
  | copyAlias pointer state _ => exact drains.elim

/-! ## Where nothing is left to do -/

/-- No call of `acquire` can go on, and no lease or alias holds a connection. -/
def Drained (pool : Pool) : Prop :=
  ∀ action : PoolAction, action.Drains pool → pool.step action = none

theorem notifyOne_enabled (pool : Pool) : ∃ chosen, notifyOne chosen pool ≠ none := by
  by_cases asleep : AcquirePhase.sleeping ∈ pool.calls
  · obtain ⟨chosen, found⟩ := List.mem_iff_getElem?.mp asleep
    refine ⟨chosen, ?_⟩
    rw [notifyOne, if_pos asleep, if_pos found]
    exact Option.some_ne_none _
  · refine ⟨0, ?_⟩
    rw [notifyOne, if_neg asleep]
    exact Option.some_ne_none _

theorem dropped_enabled (pool : Pool) (state : Option Nat) :
    ∃ chosen, pool.dropped state chosen ≠ none := by
  cases state with
  | none => exact ⟨0, Option.some_ne_none _⟩
  | some state =>
      by_cases unreferenced : pool.refs state = 0
      · cases owned : pool.states[state]? with
        | none =>
            refine ⟨0, ?_⟩
            simp [dropped, unreferenced, owned]
        | some resource =>
            cases resource with
            | none =>
                refine ⟨0, ?_⟩
                simp [dropped, unreferenced, owned]
            | some conn =>
                obtain ⟨chosen, enabled⟩ := notifyOne_enabled (pool.returned state conn)
                refine ⟨chosen, ?_⟩
                simp only [dropped, unreferenced, if_true, owned, release]
                exact enabled
      · refine ⟨0, ?_⟩
        rw [dropped, if_neg unreferenced]
        exact Option.some_ne_none _

theorem Drained.phase {pool : Pool} (drained : Drained pool) (phase : AcquirePhase)
    (member : phase ∈ pool.calls) : phase = .done ∨ phase = .sleeping := by
  obtain ⟨call, found⟩ := List.mem_iff_getElem?.mp member
  cases phase with
  | sleeping => exact Or.inr rfl
  | woken =>
      have refused := drained (.retest call) trivial
      rw [step, if_pos found] at refused
      cases refused
  | creating =>
      have refused := drained (.factory call .throws) trivial
      rw [step, if_pos found] at refused
      cases refused
  | failed =>
      obtain ⟨chosen, enabled⟩ := notifyOne_enabled (pool.giveUp call)
      have refused := drained (.giveBack call chosen) trivial
      rw [step, if_pos found] at refused
      exact absurd refused enabled
  | holding conn =>
      have refused := drained (.lease call) trivial
      simp only [step, found] at refused
      cases refused
  | done => exact Or.inl rfl

theorem Drained.lease {pool : Pool} (drained : Drained pool) (custody : Custody none pool)
    (lease : Lease) (member : lease ∈ pool.leases) : lease = .empty := by
  obtain ⟨index, found⟩ := List.mem_iff_getElem?.mp member
  by_contra full
  obtain ⟨chosen, enabled⟩ := dropped_enabled (pool.setLease index .empty) lease.state
  have refused := drained (.dropLease index chosen) fun empty =>
    full (Option.some.inj (found.symm.trans empty))
  rw [step, leaseRelease_eq custody index chosen lease found] at refused
  exact enabled refused

theorem Drained.alias_null {pool : Pool} (drained : Drained pool) (state : Option Nat)
    (member : state ∈ pool.aliases) : state = none := by
  obtain ⟨pointer, found⟩ := List.mem_iff_getElem?.mp member
  by_contra full
  obtain ⟨chosen, enabled⟩ := dropped_enabled
    { pool with aliases := pool.aliases.set pointer none } state
  have refused := drained (.dropAlias pointer chosen) fun empty =>
    full (Option.some.inj (found.symm.trans empty))
  simp only [step, dropAlias, found] at refused
  exact enabled refused

theorem Drained.unreferenced {pool : Pool} (drained : Drained pool)
    (custody : Custody none pool) (state : Nat) : pool.refs state = 0 := by
  have leases : pool.leases.countP (fun lease => lease.state = some state) = 0 ∧
      pool.leases.countP (fun lease => lease.connection = some state) = 0 := by
    constructor
    · apply List.countP_eq_zero.mpr
      intro lease member
      rw [drained.lease custody lease member]
      exact Bool.false_ne_true
    · apply List.countP_eq_zero.mpr
      intro lease member
      rw [drained.lease custody lease member]
      exact Bool.false_ne_true
  have aliases : pool.aliases.count (some state) = 0 := by
    apply List.count_eq_zero.mpr
    intro member
    cases drained.alias_null (some state) member
  rw [refs, leases.1, leases.2, aliases]

/-- A call that nothing can wake any more waits for slots that are all lost. -/
theorem Drained.settled {capacity lost : Nat} {pool : Pool} (drained : Drained pool)
    (custody : Custody none pool) (balanced : Balanced capacity lost pool)
    (attended : Attended 0 pool) :
    pool.idle.length + lost = pool.created ∧
      ∀ phase ∈ pool.calls, phase = .done ∨ phase = .sleeping ∧ lost = capacity := by
  have creation : pool.inCreation = 0 := by
    apply List.countP_eq_zero.mpr
    intro phase member
    rcases drained.phase phase member with rfl | rfl <;> exact Bool.false_ne_true
  have hands : pool.inHands = 0 := by
    apply List.countP_eq_zero.mpr
    intro phase member
    rcases drained.phase phase member with rfl | rfl <;> exact Bool.false_ne_true
  have woken : pool.wokenUp = 0 := by
    apply List.count_eq_zero.mpr
    intro member
    rcases drained.phase .woken member with same | same <;> cases same
  have slots := balanced.slots
  rw [leased_eq_zero custody (drained.unreferenced custody), creation, hands] at slots
  refine ⟨by omega, fun phase member => ?_⟩
  rcases drained.phase phase member with finished | asleep
  · exact Or.inl finished
  · subst asleep
    have bound := attended (List.count_pos_iff.mpr member)
    rw [woken, available] at bound
    have limits := balanced.limits
    exact Or.inr ⟨rfl, by omega⟩

theorem drained_of_settled {pool : Pool}
    (calls : ∀ phase ∈ pool.calls, phase = .done ∨ phase = .sleeping)
    (leases : ∀ lease ∈ pool.leases, lease = .empty)
    (aliases : ∀ pointer ∈ pool.aliases, pointer = none) : Drained pool := by
  have resting : ∀ (call : Nat) (phase : AcquirePhase), pool.calls[call]? = some phase →
      phase = .done ∨ phase = .sleeping :=
    fun call phase found => calls phase (List.mem_of_getElem? found)
  intro action drains
  by_contra enabled
  obtain ⟨next, stepped⟩ := Option.ne_none_iff_exists'.mp enabled
  cases moved_of_step action stepped with
  | retest call found => rcases resting call _ found with same | same <;> cases same
  | connection call conn found _ => rcases resting call _ found with same | same <;> cases same
  | null call found => rcases resting call _ found with same | same <;> cases same
  | throws call found => rcases resting call _ found with same | same <;> cases same
  | giveBack call chosen _ found _ => rcases resting call _ found with same | same <;> cases same
  | lease call conn found => rcases resting call _ found with same | same <;> cases same
  | dropLease lease chosen _ released =>
      obtain ⟨held, _, found, _⟩ := leaseRelease_cases lease chosen released
      exact drains (leases held (List.mem_of_getElem? found) ▸ found)
  | dropAlias pointer chosen state _ found _ =>
      exact drains (aliases state (List.mem_of_getElem? found) ▸ found)
  | enter => exact drains.elim
  | wake call _ => exact drains.elim
  | defaultLease => exact drains.elim
  | moveConstruct source _ _ => exact drains.elim
  | moveAssign target source chosen _ _ => exact drains.elim
  | share lease held _ => exact drains.elim
  | copyAlias pointer state _ => exact drains.elim

theorem reached_attended (pool : Pool) (reached : Reached pool) : Attended 0 pool := by
  obtain ⟨capacity, factory, start, constructed, reachable⟩ := reached
  refine reachable_invariant step (Attended 0) start pool ?_
    (fun _ action _ attended enabled => step_attended attended action enabled) reachable
  obtain ⟨_, rfl⟩ := construct_eq capacity factory start constructed
  intro asleep
  cases asleep

/-- After any run, once nobody new comes in and holders only let go, the pool comes to rest
within a number of steps that the calls, leases and aliases there are bound; and then every call
has returned or thrown and every connection is idle, unless all slots were lost to null
pointers of the factory. -/
theorem pool_drains (capacity : Nat) (factory : Bool) (start pool final : Pool)
    (constructed : construct capacity factory = .ok start) (past later : List PoolAction)
    (run : exec step past start = some pool) (drain : exec step later pool = some final)
    (drains : EveryStep step (fun pool action => action.Drains pool) later pool) :
    let lost := (past ++ later).countP PoolAction.returnsNull
    later.length ≤ 5 * pool.calls.length + 2 * (pool.leases.length + pool.aliases.length) ∧
      (Drained final →
        final.idle.length + lost = final.created ∧
        ∀ phase ∈ final.calls, phase = .done ∨ phase = .sleeping ∧ lost = capacity) := by
  intro lost
  have whole : exec step (past ++ later) start = some final := by
    rw [exec_append, run]
    exact drain
  have begun : Reached pool := ⟨capacity, factory, start, constructed, past, run⟩
  have ended : Reached final := ⟨capacity, factory, start, constructed, past ++ later, whole⟩
  constructor
  · have shorter := exec_length_le step (Custody none) (fun pool action => action.Drains pool)
      weight (fun _ action _ custody enabled => step_custody custody action enabled)
      (fun _ action _ custody allowed enabled => step_weight custody action allowed enabled)
      later pool final (reached_custody pool begun) drains drain
    have bound := pool.weight_le
    omega
  · intro drained
    have balanced := exec_balanced capacity (past ++ later) 0 start final
      (construct_balanced capacity factory start constructed) whole
    rw [Nat.zero_add] at balanced
    exact drained.settled (reached_custody final ended) balanced (reached_attended final ended)

/-- A thread waits for the one connection, which the holder of its lease shares with an alias. -/
theorem pool_drains_shared :
    ∃ start pool final, construct 1 true = .ok start ∧
      exec step [.enter, .factory 0 (.connection 7), .lease 0, .share 0, .enter] start =
        some pool ∧
      exec step [.dropLease 0 0, .dropAlias 0 1, .retest 1, .lease 1, .dropLease 1 0] pool =
        some final ∧
      Drained final ∧ final.idle.length + 0 = final.created ∧
      ∀ phase ∈ final.calls, phase = .done ∨ phase = .sleeping ∧ 0 = 1 := by
  have drained : Drained ⟨1, 1, [7], [.done, .done], [none, none], [.empty, .empty], [none], [7]⟩ :=
    drained_of_settled (by decide) (by decide) (by decide)
  refine ⟨_, _, _, rfl, rfl, rfl, drained, ?_⟩
  refine (pool_drains 1 true _ _ _ rfl
    [.enter, .factory 0 (.connection 7), .lease 0, .share 0, .enter]
    [.dropLease 0 0, .dropAlias 0 1, .retest 1, .lease 1, .dropLease 1 0] rfl rfl ?_).2 drained
  apply everyStep_cons step _ _ _ _ _ rfl (fun same => by cases same)
  apply everyStep_cons step _ _ _ _ _ rfl (fun same => by cases same)
  apply everyStep_cons step _ _ _ _ _ rfl trivial
  apply everyStep_cons step _ _ _ _ _ rfl trivial
  apply everyStep_cons step _ _ _ _ _ rfl (fun same => by cases same)
  trivial

end Pool
end VSQLite
