import Mathlib.Logic.Basic

/-!
# Runs of a partial step function

A system is a step function that answers `none` when an action is not enabled.
This file has the executions of such a system, the invariant rule, and the rule
that trades a property of all states along a run for a condition on its steps.
-/

set_option autoImplicit false

namespace VSQLite.Lib

section Run
variable {State Action : Type}

/-- The state a list of actions leads to, `none` once an action is not enabled. -/
def exec (step : State → Action → Option State) : List Action → State → Option State
  | [], state => some state
  | action :: rest, state => (step state action).bind (exec step rest)

def Reachable (step : State → Action → Option State) (initial state : State) : Prop :=
  ∃ actions, exec step actions initial = some state

theorem exec_cons_some (step : State → Action → Option State) (action : Action)
    (rest : List Action) (state final : State)
    (run : exec step (action :: rest) state = some final) :
    ∃ next, step state action = some next ∧ exec step rest next = some final := by
  simpa only [exec, Option.bind_eq_some_iff] using run

/-- What every enabled step preserves holds at the end of every run. -/
theorem exec_preserves (step : State → Action → Option State) (Inv : State → Prop)
    (preserved : ∀ state action next, Inv state → step state action = some next → Inv next)
    (actions : List Action) (state final : State) (start : Inv state)
    (run : exec step actions state = some final) : Inv final := by
  induction actions generalizing state with
  | nil =>
      cases Option.some.inj run
      exact start
  | cons action rest ih =>
      obtain ⟨next, enabled, later⟩ := exec_cons_some step action rest state final run
      exact ih next (preserved state action next start enabled) later

theorem reachable_invariant (step : State → Action → Option State) (Inv : State → Prop)
    (initial state : State) (start : Inv initial)
    (preserved : ∀ state action next, Inv state → step state action = some next → Inv next)
    (reached : Reachable step initial state) : Inv state := by
  obtain ⟨actions, run⟩ := reached
  exact exec_preserves step Inv preserved actions initial state start run

/-- `P` holds of every step the run takes. -/
def EveryStep (step : State → Action → Option State) (P : State → Action → Prop) :
    List Action → State → Prop
  | [], _ => True
  | action :: rest, state =>
      ∀ next, step state action = some next → P state action ∧ EveryStep step P rest next

/-- `Q` holds in every state the run goes through, the first one included. -/
def EveryState (step : State → Action → Option State) (Q : State → Prop) :
    List Action → State → Prop
  | [], state => Q state
  | action :: rest, state =>
      Q state ∧ ∀ next, step state action = some next → EveryState step Q rest next

theorem everyState_head (step : State → Action → Option State) (Q : State → Prop)
    (actions : List Action) (state : State) (all : EveryState step Q actions state) : Q state := by
  cases actions with
  | nil => exact all
  | cons _ _ => exact all.1

/-- If the steps that meet `P` are those that lead on, then a run stays good, its steps having
something of their own besides, exactly when all its steps meet `P`. -/
theorem everyState_and_everyStep_iff_of_carried (step : State → Action → Option State)
    (Carried Q : State → Prop) (R P : State → Action → Prop)
    (good : ∀ state, Carried state → Q state)
    (carried : ∀ state action next, Carried state → P state action →
      step state action = some next → Carried next ∧ R state action)
    (lost : ∀ state action next, Carried state → ¬P state action →
      step state action = some next → Q next → ¬R state action)
    (actions : List Action) (state : State) (start : Carried state) :
    (EveryState step Q actions state ∧ EveryStep step R actions state) ↔
      EveryStep step P actions state := by
  induction actions generalizing state with
  | nil => exact ⟨fun _ => trivial, fun _ => ⟨good state start, trivial⟩⟩
  | cons action rest ih =>
      constructor
      · rintro ⟨states, steps⟩ next enabled
        have nextGood := everyState_head step Q rest next (states.2 next enabled)
        obtain ⟨own, later⟩ := steps next enabled
        have met : P state action := Classical.byContradiction fun missed =>
          lost state action next start missed enabled nextGood own
        have nextCarried := (carried state action next start met enabled).1
        exact ⟨met, (ih next nextCarried).mp ⟨states.2 next enabled, later⟩⟩
      · intro steps
        refine ⟨⟨good state start, fun next enabled => ?_⟩, fun next enabled => ?_⟩
        · obtain ⟨met, later⟩ := steps next enabled
          obtain ⟨nextCarried, _⟩ := carried state action next start met enabled
          exact ((ih next nextCarried).mpr later).1
        · obtain ⟨met, later⟩ := steps next enabled
          obtain ⟨nextCarried, own⟩ := carried state action next start met enabled
          exact ⟨own, ((ih next nextCarried).mpr later).2⟩

theorem everyStep_of_forall (step : State → Action → Option State) (P : State → Action → Prop)
    (all : ∀ state action, P state action) (actions : List Action) (state : State) :
    EveryStep step P actions state := by
  induction actions generalizing state with
  | nil => trivial
  | cons action rest ih => exact fun next _ => ⟨all state action, ih next⟩

theorem everyState_iff_of_carried (step : State → Action → Option State)
    (Carried Q : State → Prop) (P : State → Action → Prop)
    (good : ∀ state, Carried state → Q state)
    (carried : ∀ state action next, Carried state → P state action →
      step state action = some next → Carried next)
    (lost : ∀ state action next, Carried state → ¬P state action →
      step state action = some next → ¬Q next)
    (actions : List Action) (state : State) (start : Carried state) :
    EveryState step Q actions state ↔ EveryStep step P actions state := by
  have free : EveryStep step (fun _ _ => True) actions state :=
    everyStep_of_forall step _ (fun _ _ => trivial) actions state
  rw [← everyState_and_everyStep_iff_of_carried step Carried Q (fun _ _ => True) P good ?_ ?_
    actions state start]
  · exact (and_iff_left free).symm
  · intro state action next here met enabled
    exact ⟨carried state action next here met enabled, trivial⟩
  · intro state action next here missed enabled nextGood _
    exact lost state action next here missed enabled nextGood

/-- If, under an invariant, a step from a good state leads to a good state exactly
when it meets `P`, then a run stays good exactly when all its steps meet `P`. -/
theorem everyState_iff_everyStep (step : State → Action → Option State)
    (Inv Q : State → Prop) (P : State → Action → Prop)
    (preserved : ∀ state action next, Inv state → step state action = some next → Inv next)
    (exact_step : ∀ state action next, Inv state → Q state →
      step state action = some next → (Q next ↔ P state action))
    (actions : List Action) (state : State) (start : Inv state) (good : Q state) :
    EveryState step Q actions state ↔ EveryStep step P actions state := by
  refine everyState_iff_of_carried step (fun state => Inv state ∧ Q state) Q P
    (fun _ here => here.2) ?_ ?_ actions state ⟨start, good⟩
  · rintro state action next ⟨inv, here⟩ met enabled
    exact ⟨preserved state action next inv enabled,
      (exact_step state action next inv here enabled).mpr met⟩
  · rintro state action next ⟨inv, here⟩ missed enabled nextGood
    exact missed ((exact_step state action next inv here enabled).mp nextGood)

theorem everyState_and_everyStep_iff (step : State → Action → Option State)
    (Inv Q : State → Prop) (R P : State → Action → Prop)
    (preserved : ∀ state action next, Inv state → step state action = some next → Inv next)
    (exact_step : ∀ state action next, Inv state → Q state →
      step state action = some next → ((Q next ∧ R state action) ↔ P state action))
    (actions : List Action) (state : State) (start : Inv state) (good : Q state) :
    (EveryState step Q actions state ∧ EveryStep step R actions state) ↔
      EveryStep step P actions state := by
  refine everyState_and_everyStep_iff_of_carried step (fun state => Inv state ∧ Q state) Q R P
    (fun _ here => here.2) ?_ ?_ actions state ⟨start, good⟩
  · rintro state action next ⟨inv, here⟩ met enabled
    obtain ⟨nextGood, own⟩ := (exact_step state action next inv here enabled).mpr met
    exact ⟨⟨preserved state action next inv enabled, nextGood⟩, own⟩
  · rintro state action next ⟨inv, here⟩ missed enabled nextGood own
    exact missed ((exact_step state action next inv here enabled).mp ⟨nextGood, own⟩)

theorem everyStep_cons (step : State → Action → Option State) (P : State → Action → Prop)
    (action : Action) (rest : List Action) (state next : State)
    (enabled : step state action = some next) (met : P state action)
    (later : EveryStep step P rest next) : EveryStep step P (action :: rest) state := by
  intro other stepped
  cases Option.some.inj (enabled.symm.trans stepped)
  exact ⟨met, later⟩

theorem everyStep_mono (step : State → Action → Option State) (Inv : State → Prop)
    (P Q : State → Action → Prop)
    (preserved : ∀ state action next, Inv state → P state action →
      step state action = some next → Inv next)
    (gives : ∀ state action next, Inv state → P state action →
      step state action = some next → Q state action)
    (actions : List Action) (state : State) (start : Inv state)
    (steps : EveryStep step P actions state) : EveryStep step Q actions state := by
  induction actions generalizing state with
  | nil => trivial
  | cons action rest ih =>
      intro next enabled
      obtain ⟨met, later⟩ := steps next enabled
      have nextInv := preserved state action next start met enabled
      exact ⟨gives state action next start met enabled, ih next nextInv later⟩

/-- Properties of steps that agree under an invariant agree along every run, if the steps that
have them preserve it. -/
theorem everyStep_congr (step : State → Action → Option State) (Inv : State → Prop)
    (P Q : State → Action → Prop)
    (preserved : ∀ state action next, Inv state → P state action →
      step state action = some next → Inv next)
    (agree : ∀ state action next, Inv state → step state action = some next →
      (P state action ↔ Q state action))
    (actions : List Action) (state : State) (start : Inv state) :
    EveryStep step P actions state ↔ EveryStep step Q actions state := by
  constructor
  · exact everyStep_mono step Inv P Q preserved
      (fun state action next inv met enabled => (agree state action next inv enabled).mp met)
      actions state start
  · refine everyStep_mono step Inv Q P (fun state action next inv met enabled => ?_)
      (fun state action next inv met enabled => (agree state action next inv enabled).mpr met)
      actions state start
    exact preserved state action next inv ((agree state action next inv enabled).mpr met) enabled

theorem everyStep_preserves (step : State → Action → Option State) (Inv : State → Prop)
    (P : State → Action → Prop)
    (preserved : ∀ state action next, Inv state → P state action →
      step state action = some next → Inv next)
    (actions : List Action) (state final : State) (start : Inv state)
    (steps : EveryStep step P actions state) (run : exec step actions state = some final) :
    Inv final := by
  induction actions generalizing state with
  | nil =>
      cases Option.some.inj run
      exact start
  | cons action rest ih =>
      obtain ⟨next, enabled, later⟩ := exec_cons_some step action rest state final run
      obtain ⟨met, others⟩ := steps next enabled
      exact ih next (preserved state action next start met enabled) others later

theorem exec_length_le (step : State → Action → Option State) (Inv : State → Prop)
    (P : State → Action → Prop) (measure : State → Nat)
    (preserved : ∀ state action next, Inv state → step state action = some next → Inv next)
    (decreases : ∀ state action next, Inv state → P state action →
      step state action = some next → measure next < measure state)
    (actions : List Action) (state final : State) (start : Inv state)
    (steps : EveryStep step P actions state) (run : exec step actions state = some final) :
    actions.length + measure final ≤ measure state := by
  induction actions generalizing state with
  | nil =>
      cases Option.some.inj run
      exact Nat.le_of_eq (Nat.zero_add _)
  | cons action rest ih =>
      obtain ⟨next, enabled, later⟩ := exec_cons_some step action rest state final run
      obtain ⟨met, others⟩ := steps next enabled
      have fewer := decreases state action next start met enabled
      have tail := ih next (preserved state action next start enabled) others later
      rw [List.length_cons]
      omega

theorem exec_append (step : State → Action → Option State) (first second : List Action)
    (state : State) :
    exec step (first ++ second) state = (exec step first state).bind (exec step second) := by
  induction first generalizing state with
  | nil => rfl
  | cons action rest ih =>
      simp only [List.cons_append, exec, Option.bind_assoc]
      exact congrArg _ (funext ih)

theorem everyState_final (step : State → Action → Option State) (Q : State → Prop)
    (actions : List Action) (state final : State)
    (all : EveryState step Q actions state) (run : exec step actions state = some final) :
    Q final := by
  induction actions generalizing state with
  | nil =>
      cases Option.some.inj run
      exact all
  | cons action rest ih =>
      obtain ⟨next, enabled, later⟩ := exec_cons_some step action rest state final run
      exact ih next (all.2 next enabled) later

theorem everyState_preserves (step : State → Action → Option State) (Inv Q : State → Prop)
    (preserved : ∀ state action next, Inv state → Q state →
      step state action = some next → Inv next)
    (actions : List Action) (state final : State) (start : Inv state)
    (all : EveryState step Q actions state) (run : exec step actions state = some final) :
    Inv final := by
  induction actions generalizing state with
  | nil =>
      cases Option.some.inj run
      exact start
  | cons action rest ih =>
      obtain ⟨next, enabled, later⟩ := exec_cons_some step action rest state final run
      exact ih next (preserved state action next start all.1 enabled) (all.2 next enabled) later

/-- Under an invariant that enables every action, every run leads somewhere, and what is seen of
the state there is what the actions make of it one after the other. -/
theorem exec_total {Seen : Type} (step : State → Action → Option State) (Inv : State → Prop)
    (view : State → Seen) (fold : Seen → Action → Seen)
    (enabled : ∀ state action, Inv state → ∃ next, step state action = some next ∧ Inv next ∧
      view next = fold (view state) action)
    (actions : List Action) (state : State) (start : Inv state) :
    ∃ final, exec step actions state = some final ∧ Inv final ∧
      view final = actions.foldl fold (view state) := by
  induction actions generalizing state with
  | nil => exact ⟨state, rfl, start, rfl⟩
  | cons action rest ih =>
      obtain ⟨next, taken, nextInv, seen⟩ := enabled state action start
      obtain ⟨final, later, finalInv, folded⟩ := ih next nextInv
      refine ⟨final, ?_, finalInv, ?_⟩
      · rw [exec, taken]
        exact later
      · rw [List.foldl_cons, ← seen]
        exact folded

/-- If an action the specification sees is matched by one step of it, and any other
leaves the view as it is, then a run whose steps have `P` looks like the specification's run of
the actions it sees. -/
theorem exec_refines {Spec Visible : Type} (step : State → Action → Option State)
    (spec : Spec → Visible → Option Spec) (visible : Action → Option Visible)
    (view : State → Spec) (Inv : State → Prop) (P : State → Action → Prop)
    (preserved : ∀ state action next, Inv state → P state action →
      step state action = some next → Inv next)
    (matched : ∀ state action seen, Inv state → visible action = some seen →
      (step state action).map view = spec (view state) seen)
    (silent : ∀ state action, Inv state → visible action = none →
      (step state action).map view = some (view state))
    (actions : List Action) (state : State) (start : Inv state)
    (steps : EveryStep step P actions state) :
    (exec step actions state).map view =
      exec spec (actions.filterMap visible) (view state) := by
  induction actions generalizing state with
  | nil => rfl
  | cons action rest ih =>
      simp only [exec, List.filterMap_cons]
      cases sees : visible action with
      | none =>
          obtain ⟨next, enabled, same⟩ := Option.map_eq_some_iff.mp (silent state action start sees)
          obtain ⟨met, later⟩ := steps next enabled
          rw [enabled, Option.bind_some,
            ih next (preserved state action next start met enabled) later, same]
      | some seen =>
          have here := matched state action seen start sees
          simp only [exec, ← here]
          cases enabled : step state action with
          | none => rfl
          | some next =>
              obtain ⟨met, later⟩ := steps next enabled
              exact ih next (preserved state action next start met enabled) later

end Run
end VSQLite.Lib
