import VSQLite.Pool.Slots

/-!
# No lost wake-up

Availability grows in two places, both under the mutex: when a connection is given back
and when a failed creation gives its slot back.  Each wakes one thread, so while any
thread sleeps there are as many threads on the way as there is something to take.
-/

set_option autoImplicit false

namespace VSQLite
open Lib

namespace Pool

def sleepers (pool : Pool) : Nat := pool.calls.count .sleeping

/-- The threads that have been woken and have not tested the loop condition again. -/
def wokenUp (pool : Pool) : Nat := pool.calls.count .woken

def available (pool : Pool) : Nat := pool.idle.length + (pool.capacity - pool.created)

/-- Nobody sleeps over more than `spare` slots that no thread is on its way to. -/
def Attended (spare : Nat) (pool : Pool) : Prop :=
  0 < pool.sleepers → pool.available ≤ pool.wokenUp + spare

theorem count_setCall (counted : AcquirePhase) (pool : Pool) (call : Nat)
    (before after : AcquirePhase) (found : pool.calls[call]? = some before) :
    (pool.setCall call after).calls.count counted + (if before = counted then 1 else 0) =
      pool.calls.count counted + if after = counted then 1 else 0 := by
  have moved := countP_set_add (fun phase : AcquirePhase => phase == counted) pool.calls call
    before after found
  simp only [beq_iff_eq] at moved
  exact moved

theorem attended_setCall {spare : Nat} {pool : Pool} (attended : Attended spare pool) (call : Nat)
    (before after : AcquirePhase) (found : pool.calls[call]? = some before)
    (wasBusy : before ≠ .sleeping ∧ before ≠ .woken)
    (isBusy : after ≠ .sleeping ∧ after ≠ .woken) : Attended spare (pool.setCall call after) := by
  intro asleep
  have sleeping := count_setCall .sleeping pool call before after found
  have woken := count_setCall .woken pool call before after found
  rw [if_neg wasBusy.1, if_neg isBusy.1] at sleeping
  rw [if_neg wasBusy.2, if_neg isBusy.2] at woken
  have bound := attended (by simp only [sleepers] at asleep ⊢; omega)
  have same : (pool.setCall call after).available = pool.available := rfl
  rw [same]
  simp only [wokenUp] at bound ⊢
  omega

theorem attended_woken {spare : Nat} {pool : Pool} (attended : Attended (spare + 1) pool)
    (call : Nat) (found : pool.calls[call]? = some .sleeping) :
    Attended spare (pool.setCall call .woken) := by
  intro _
  have woken := count_setCall .woken pool call .sleeping .woken found
  simp only [reduceCtorEq, if_false, Nat.add_zero, if_true] at woken
  have slept : 0 < pool.sleepers := List.count_pos_iff.mpr (List.mem_of_getElem? found)
  have bound := attended slept
  have same : (pool.setCall call .woken).available = pool.available := rfl
  rw [same]
  simp only [wokenUp] at bound ⊢
  omega

/-- One notification makes up for one more slot. -/
theorem attended_notifyOne {pool next : Pool} (attended : Attended 1 pool) (chosen : Nat)
    (enabled : notifyOne chosen pool = some next) : Attended 0 next := by
  rcases notifyOne_cases chosen pool next enabled with ⟨rfl, nobody⟩ | ⟨rfl, found⟩
  · intro asleep
    exact absurd (List.count_pos_iff.mp asleep) nobody
  · exact attended_woken attended chosen found

theorem attended_dropped {pool next : Pool} (attended : Attended 0 pool) (state : Option Nat)
    (chosen : Nat) (enabled : pool.dropped state chosen = some next) : Attended 0 next := by
  rcases dropped_cases state chosen pool next enabled with
    ⟨rfl, _⟩ | ⟨found, conn, _, _, _, notified⟩
  · exact attended
  · refine attended_notifyOne ?_ chosen notified
    intro asleep
    have bound := attended asleep
    have woken : (pool.returned found conn).wokenUp = pool.wokenUp := rfl
    rw [woken]
    simp only [available, returned, List.length_append, List.length_singleton] at bound ⊢
    omega

theorem attended_leaseRelease {pool next : Pool} (attended : Attended 0 pool)
    (lease chosen : Nat) (enabled : pool.leaseRelease lease chosen = some next) :
    Attended 0 next := by
  obtain ⟨held, first, _, early, late⟩ := leaseRelease_cases lease chosen enabled
  have cleared : Attended 0 (pool.setLease lease { held with connection := none }) := attended
  have after := attended_dropped cleared held.connection chosen early
  have emptied : Attended 0 (first.setLease lease .empty) := after
  exact attended_dropped emptied held.state chosen late

theorem round_available (pool : Pool) :
    (pool.round.1.available + 1 ≤ pool.available ∨ pool.available = 0) ∧
      pool.round.1.available ≤ pool.available ∧ pool.round.2 ≠ .woken ∧
      (pool.round.2 = .sleeping → pool.round.1.available = 0) := by
  rcases round_cases pool with ⟨conn, last, result⟩ | ⟨empty, room, result⟩ |
    ⟨empty, full, result⟩
  · have positive : 0 < pool.idle.length := by
      apply List.length_pos_iff.mpr
      intro empty
      rw [empty] at last
      cases last
    rw [result]
    simp only [available, List.length_dropLast]
    refine ⟨by omega, by omega, by simp, fun same => by cases same⟩
  · rw [result]
    simp only [available]
    refine ⟨by omega, by omega, by simp, fun same => by cases same⟩
  · rw [result]
    have nothing : pool.available = 0 := by
      simp only [available, empty, List.length_nil]
      omega
    exact ⟨Or.inr nothing, Nat.le_refl _, by simp, fun _ => nothing⟩

/-- A newly arriving thread may overtake those that were woken. -/
theorem attended_entered {pool : Pool} (attended : Attended 0 pool) :
    Attended 0 pool.entered := by
  obtain ⟨_, _, _, _, _, capacity⟩ := round_keeps pool
  obtain ⟨_, shrinks, notWoken, nothing⟩ := round_available pool
  intro asleep
  have same : pool.entered.available = pool.round.1.available := rfl
  rw [same]
  by_cases slept : pool.round.2 = .sleeping
  · rw [nothing slept]
    exact Nat.zero_le _
  · have before : 0 < pool.sleepers := by
      simp only [sleepers, entered, List.count_append, List.count_singleton, beq_iff_eq,
        if_neg slept, Nat.add_zero] at asleep
      exact asleep
    have woken : pool.entered.wokenUp = pool.wokenUp := by
      simp only [wokenUp, entered, List.count_append, List.count_singleton, beq_iff_eq,
        if_neg notWoken, Nat.add_zero]
    rw [woken]
    exact Nat.le_trans shrinks (attended before)

theorem attended_retested {pool : Pool} (attended : Attended 0 pool) (call : Nat)
    (found : pool.calls[call]? = some .woken) :
    Attended 0 (pool.round.1.setCall call pool.round.2) := by
  obtain ⟨_, _, _, _, calls, _⟩ := round_keeps pool
  obtain ⟨takes, _, notWoken, nothing⟩ := round_available pool
  intro asleep
  have same : (pool.round.1.setCall call pool.round.2).available = pool.round.1.available := rfl
  rw [same]
  rw [← calls] at found
  by_cases slept : pool.round.2 = .sleeping
  · rw [nothing slept]
    exact Nat.zero_le _
  · have sleeping := count_setCall .sleeping pool.round.1 call .woken pool.round.2 found
    have woken := count_setCall .woken pool.round.1 call .woken pool.round.2 found
    rw [calls, if_neg slept] at sleeping
    rw [calls, if_neg notWoken, if_pos rfl] at woken
    simp only [reduceCtorEq, if_false, Nat.add_zero] at sleeping woken
    have before : 0 < pool.sleepers := by
      simp only [sleepers] at asleep ⊢
      omega
    have bound := attended before
    simp only [wokenUp] at bound ⊢
    rcases takes with fewer | none
    · omega
    · have shrinks := (round_available pool).2.1
      omega

theorem attended_giveUp {pool : Pool} (attended : Attended 0 pool) (call : Nat)
    (found : pool.calls[call]? = some .failed) : Attended 1 (pool.giveUp call) := by
  have moved := attended_setCall attended call .failed .done found
    ⟨by simp, by simp⟩ ⟨by simp, by simp⟩
  intro asleep
  have bound := moved asleep
  change pool.idle.length + (pool.capacity - (pool.created - 1)) ≤
    (pool.setCall call .done).wokenUp + 1
  change pool.idle.length + (pool.capacity - pool.created) ≤
    (pool.setCall call .done).wokenUp + 0 at bound
  omega

theorem step_attended {pool next : Pool} (attended : Attended 0 pool) (action : PoolAction)
    (enabled : pool.step action = some next) : Attended 0 next := by
  cases moved_of_step action enabled with
  | enter => exact attended_entered attended
  | wake call found =>
      apply attended_woken _ call found
      intro asleep
      exact Nat.le_succ_of_le (attended asleep)
  | retest call found => exact attended_retested attended call found
  | connection call conn found =>
      exact attended_setCall attended call .creating (.holding (some conn)) found
        ⟨by simp, by simp⟩ ⟨by simp, by simp⟩
  | null call found =>
      exact attended_setCall attended call .creating (.holding none) found
        ⟨by simp, by simp⟩ ⟨by simp, by simp⟩
  | throws call found =>
      exact attended_setCall attended call .creating .failed found
        ⟨by simp, by simp⟩ ⟨by simp, by simp⟩
  | giveBack call chosen next found notified =>
      exact attended_notifyOne (attended_giveUp attended call found) chosen notified
  | lease call conn found =>
      have moved := attended_setCall attended call (.holding conn) .done found
        ⟨by simp, by simp⟩ ⟨by simp, by simp⟩
      cases conn with
      | none => exact moved
      | some conn => exact moved
  | defaultLease => exact attended
  | moveConstruct source next constructed =>
      obtain ⟨held, _, rfl⟩ := Option.map_eq_some_iff.mp constructed
      exact attended
  | moveAssign target source chosen next assigned =>
      rcases moveAssign_cases target source chosen assigned with
        rfl | ⟨_, _, released, _, _, _, release, rfl⟩
      · exact attended
      · have after := attended_leaseRelease attended target chosen release
        exact after
  | dropLease lease chosen next released =>
      exact attended_leaseRelease attended lease chosen released
  | share lease held found => exact attended
  | copyAlias pointer state found => exact attended
  | dropAlias pointer chosen state next found dropped =>
      have cleared : Attended 0 { pool with aliases := pool.aliases.set pointer none } := attended
      exact attended_dropped cleared state chosen dropped

/-- In every reachable state in which a thread sleeps, the slots that can be taken at
once are at most as many as the threads that were woken and have not looked again. -/
theorem no_lost_wakeup (pool : Pool) (reached : Reached pool) (asleep : 0 < pool.sleepers) :
    pool.created ≤ pool.capacity ∧
      pool.idle.length + (pool.capacity - pool.created) ≤ pool.wokenUp := by
  obtain ⟨lost, balanced⟩ := reached_balanced pool reached
  obtain ⟨capacity, factory, start, constructed, reachable⟩ := reached
  have attended : Attended 0 pool := by
    refine reachable_invariant step (Attended 0) start pool ?_ ?_ reachable
    · obtain ⟨_, rfl⟩ := construct_eq capacity factory start constructed
      intro asleep
      cases asleep
    · intro before action next attended enabled
      exact step_attended attended action enabled
  exact ⟨balanced.limits.2, attended asleep⟩

/-- Two threads wait for one connection; it comes back, and a third overtakes the one
that was woken. -/
theorem no_lost_wakeup_overtaken :
    ∃ start pool, construct 1 true = .ok start ∧
      exec step [.enter, .factory 0 (.connection 7), .lease 0, .enter, .enter,
        .dropLease 0 1, .enter] start = some pool ∧
      pool.sleepers = 1 ∧ pool.wokenUp = 1 ∧
      pool.idle.length + (pool.capacity - pool.created) ≤ pool.wokenUp :=
  ⟨_, _, rfl, rfl, rfl, rfl, (no_lost_wakeup _ ⟨1, true, _, rfl, [.enter,
    .factory 0 (.connection 7), .lease 0, .enter, .enter, .dropLease 0 1, .enter], rfl⟩
    (by decide)).2⟩

end Pool
end VSQLite
