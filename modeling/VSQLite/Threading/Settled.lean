import VSQLite.Threading.Model

/-!
# One mode for the process

A successful call settles the mode once and for all: until then nothing but the default is
stored, and what is stored then SQLite works in.
-/

set_option autoImplicit false

namespace VSQLite
open Lib

/-- The mode an event shows to be the one that is settled; a reader may see the default before
there is one. -/
def ThreadingEvent.settles : ThreadingEvent → Option ThreadingMode
  | .returned mode true => some mode
  | .returned _ false => none
  | .read mode => if mode = .serialized then none else some mode

def ThreadingEvent.Agrees (mode : ThreadingMode) : ThreadingEvent → Prop
  | .returned asked result => result = decide (mode = asked)
  | .read seen => seen = mode

/-- From the first event that shows a mode on, calls return whether they ask for this one, and
readers see it. -/
def SettledOnce (history : List ThreadingEvent) : Prop :=
  history.Pairwise fun first later => ∀ mode, first.settles = some mode → later.Agrees mode

/-- What SQLite was told when a call for the mode is at the phase. -/
def ConfigurePhase.Told (mode : ThreadingMode) (library : Library) : ConfigurePhase → Prop
  | .initializing => library.mode = mode
  | .storing => library = ⟨mode, true⟩
  | .locking => False
  | _ => True

namespace Threading

/-- No mode is stored; one is, and the call that stored it is about to return; and that call
has returned. -/
inductive Stage (threading : Threading) : Prop where
  | undecided (unlocked : threading.threadingLocked = false)
      (unset : threading.configuredMode = .serialized)
      (silent : ∀ event ∈ threading.history, event.settles = none)
      (told : ∀ mode phase, threading.inside = some (mode, phase) →
        phase.Told mode threading.library)
  | stored (unlocked : threading.threadingLocked = false)
      (inside : threading.inside = some (threading.configuredMode, .locking))
      (library : threading.library = ⟨threading.configuredMode, true⟩)
      (settled : ∀ event ∈ threading.history, ∀ mode, event.settles = some mode →
        threading.configuredMode = mode ∧ event ≠ .returned mode true)
  | settled (locked : threading.threadingLocked = true)
      (inside : ∀ mode phase, threading.inside = some (mode, phase) → phase = .testing)
      (library : threading.library = ⟨threading.configuredMode, true⟩)
      (settled : ∀ event ∈ threading.history, ∀ mode, event.settles = some mode →
        threading.configuredMode = mode)

theorem stage_initial (build : Build) : Stage (initial build) := by
  refine .undecided rfl rfl ?_ ?_
  · intro _ member
    cases member
  · intro _ _ impossible
    cases impossible

end Threading

theorem SettledOnce.snoc {history : List ThreadingEvent} (once : SettledOnce history)
    (event : ThreadingEvent)
    (agrees : ∀ first ∈ history, ∀ mode, first.settles = some mode → event.Agrees mode) :
    SettledOnce (history ++ [event]) := by
  refine List.pairwise_append.mpr ⟨once, List.pairwise_singleton _ _, ?_⟩
  intro first member last isLast mode shows
  cases List.mem_singleton.mp isLast
  exact agrees first member mode shows

theorem SettledOnce.snoc_silent {history : List ThreadingEvent} (once : SettledOnce history)
    (silent : ∀ event ∈ history, event.settles = none) (event : ThreadingEvent) :
    SettledOnce (history ++ [event]) := by
  apply once.snoc event
  intro first member mode shows
  rw [silent first member] at shows
  cases shows

theorem SettledOnce.snoc_configured {threading : Threading}
    (once : SettledOnce threading.history)
    (settled : ∀ event ∈ threading.history, ∀ mode, event.settles = some mode →
      threading.configuredMode = mode)
    (event : ThreadingEvent) (agrees : event.Agrees threading.configuredMode) :
    SettledOnce (threading.history ++ [event]) := by
  apply once.snoc event
  intro first member mode shows
  rw [← settled first member mode shows]
  exact agrees

theorem ThreadingEvent.settles_of_agrees (mode shown : ThreadingMode) (event : ThreadingEvent)
    (agrees : event.Agrees mode) (shows : event.settles = some shown) : mode = shown := by
  cases event with
  | returned asked result =>
      cases result with
      | false => cases shows
      | true =>
          have same : mode = asked := by simpa using agrees.symm
          exact same.trans (Option.some.inj shows)
  | read seen =>
      have same : seen = mode := agrees
      rw [ThreadingEvent.settles] at shows
      split at shows
      · cases shows
      · rw [← same]
        exact Option.some.inj shows

namespace Threading

section Steps
variable {build : Build} {threading : Threading}

theorem silent_snoc (silent : ∀ event ∈ threading.history, event.settles = none)
    (event : ThreadingEvent) (shows : event.settles = none) :
    ∀ other ∈ threading.history ++ [event], other.settles = none := by
  intro other member
  rcases List.mem_append.mp member with earlier | last
  · exact silent other earlier
  · rw [List.mem_singleton.mp last]
    exact shows

theorem stage_finish_false (once : SettledOnce threading.history)
    (unlocked : threading.threadingLocked = false) (unset : threading.configuredMode = .serialized)
    (silent : ∀ event ∈ threading.history, event.settles = none) (mode : ThreadingMode)
    (library : Library) :
    SettledOnce ({ threading with library := library }.finish mode false).history ∧
      Stage ({ threading with library := library }.finish mode false) := by
  refine ⟨once.snoc_silent silent _, .undecided unlocked unset (silent_snoc silent _ rfl) ?_⟩
  intro _ _ impossible
  cases impossible

theorem stage_go (once : SettledOnce threading.history)
    (unlocked : threading.threadingLocked = false) (unset : threading.configuredMode = .serialized)
    (silent : ∀ event ∈ threading.history, event.settles = none) (mode : ThreadingMode)
    (library : Library) (phase : ConfigurePhase) (told : phase.Told mode library) :
    SettledOnce ({ threading with library := library }.go mode phase).history ∧
      Stage ({ threading with library := library }.go mode phase) := by
  refine ⟨once, .undecided unlocked unset silent ?_⟩
  intro other next same
  cases same
  exact told

theorem stage_undecided (rc : ResultCode) (mode : ThreadingMode) (phase : ConfigurePhase)
    (once : SettledOnce threading.history) (unlocked : threading.threadingLocked = false)
    (unset : threading.configuredMode = .serialized)
    (silent : ∀ event ∈ threading.history, event.settles = none)
    (told : phase.Told mode threading.library) :
    SettledOnce (threading.configureThreading build rc mode phase).history ∧
      Stage (threading.configureThreading build rc mode phase) := by
  cases phase with
  | testing =>
      simp only [configureThreading, unlocked, Bool.false_eq_true, if_false]
      exact stage_go once unlocked unset silent mode threading.library .shuttingDown trivial
  | shuttingDown =>
      exact stage_go once unlocked unset silent mode _ .configuring trivial
  | configuring =>
      simp only [configureThreading]
      split
      · rename_i accepted
        exact stage_go once unlocked unset silent mode _ .initializing
          (sqlite3Config_ok build mode _ accepted)
      · exact stage_go once unlocked unset silent mode _ .recovering trivial
  | recovering =>
      exact stage_finish_false once unlocked unset silent mode _
  | initializing =>
      simp only [configureThreading]
      split
      · rename_i done
        have initialized := sqlite3Initialize_ok rc threading.library done
        have asked : threading.library.mode = mode := told
        rw [asked] at initialized
        exact stage_go once unlocked unset silent mode _ .storing initialized
      · exact stage_finish_false once unlocked unset silent mode _
  | storing =>
      refine ⟨once, .stored unlocked rfl told ?_⟩
      intro event member shown shows
      rw [silent event member] at shows
      cases shows
  | locking => exact told.elim

theorem settled_snoc (settled : ∀ event ∈ threading.history, ∀ mode, event.settles = some mode →
      threading.configuredMode = mode)
    (event : ThreadingEvent) (agrees : event.Agrees threading.configuredMode) :
    ∀ other ∈ threading.history ++ [event], ∀ mode, other.settles = some mode →
      threading.configuredMode = mode := by
  intro other member mode shows
  rcases List.mem_append.mp member with earlier | last
  · exact settled other earlier mode shows
  · cases List.mem_singleton.mp last
    exact event.settles_of_agrees _ _ agrees shows

theorem stage_locking (once : SettledOnce threading.history)
    (library : threading.library = ⟨threading.configuredMode, true⟩)
    (settled : ∀ event ∈ threading.history, ∀ mode, event.settles = some mode →
      threading.configuredMode = mode) :
    let returned := { threading with threadingLocked := true }.finish threading.configuredMode true
    SettledOnce returned.history ∧ Stage returned := by
  have agrees : ThreadingEvent.Agrees threading.configuredMode
      (.returned threading.configuredMode true) := (decide_eq_true rfl).symm
  refine ⟨once.snoc_configured settled _ agrees, .settled rfl ?_ library ?_⟩
  · intro _ _ impossible
    cases impossible
  · exact settled_snoc settled _ agrees

theorem stage_testing (once : SettledOnce threading.history)
    (locked : threading.threadingLocked = true)
    (library : threading.library = ⟨threading.configuredMode, true⟩)
    (settled : ∀ event ∈ threading.history, ∀ mode, event.settles = some mode →
      threading.configuredMode = mode) (mode : ThreadingMode) :
    let returned := threading.finish mode (threading.configuredMode = mode)
    SettledOnce returned.history ∧ Stage returned := by
  refine ⟨once.snoc_configured settled _ rfl, .settled locked ?_ library ?_⟩
  · intro _ _ impossible
    cases impossible
  · exact settled_snoc settled _ rfl

theorem stage_proceed (rc : ResultCode) (mode : ThreadingMode) (phase : ConfigurePhase)
    (once : SettledOnce threading.history) (stage : Stage threading)
    (inside : threading.inside = some (mode, phase)) :
    SettledOnce (threading.configureThreading build rc mode phase).history ∧
      Stage (threading.configureThreading build rc mode phase) := by
  cases stage with
  | undecided unlocked unset silent told =>
      exact stage_undecided rc mode phase once unlocked unset silent (told mode phase inside)
  | stored unlocked last library settled =>
      rw [inside] at last
      cases last
      exact stage_locking once library fun event member mode shows =>
        (settled event member mode shows).1
  | settled locked waits library settled =>
      rw [waits mode phase inside]
      simp only [configureThreading, locked, if_true]
      exact stage_testing once locked library settled mode

theorem stage_read (once : SettledOnce threading.history) (stage : Stage threading) :
    let event := ThreadingEvent.read threading.configuredMode
    let next := { threading with history := threading.history ++ [event] }
    SettledOnce next.history ∧ Stage next := by
  cases stage with
  | undecided unlocked unset silent told =>
      refine ⟨once.snoc_silent silent _, .undecided unlocked unset (silent_snoc silent _ ?_) told⟩
      exact if_pos unset
  | stored unlocked last library settled =>
      have shown := fun event member mode shows => (settled event member mode shows).1
      refine ⟨once.snoc_configured shown _ rfl, .stored unlocked last library ?_⟩
      intro event member mode shows
      have agrees : ThreadingEvent.Agrees threading.configuredMode
          (.read threading.configuredMode) := rfl
      refine ⟨settled_snoc shown _ agrees event member mode shows, ?_⟩
      rcases List.mem_append.mp member with earlier | last
      · exact (settled event earlier mode shows).2
      · intro impossible
        rw [List.mem_singleton.mp last] at impossible
        cases impossible
  | settled locked waits library settled =>
      exact ⟨once.snoc_configured settled _ rfl,
        .settled locked waits library (settled_snoc settled _ rfl)⟩

theorem stage_connect (rc : ResultCode) (stage : Stage threading) :
    Stage { threading with library := (sqlite3Initialize rc threading.library).2 } := by
  cases stage with
  | undecided unlocked unset silent told =>
      refine .undecided unlocked unset silent ?_
      intro mode phase inside
      have before := told mode phase inside
      cases phase with
      | initializing => exact (sqlite3Initialize_mode rc threading.library).trans before
      | storing =>
          have initialized : threading.library = ⟨mode, true⟩ := before
          rw [initialized]
          exact rfl
      | locking => exact before
      | _ => trivial
  | stored unlocked last library settled =>
      refine .stored unlocked last ?_ settled
      rw [library]
      exact rfl
  | settled locked waits library settled =>
      refine .settled locked waits ?_ settled
      rw [library]
      exact rfl

theorem stage_enter (mode : ThreadingMode) (stage : Stage threading)
    (free : threading.inside = none) : Stage (threading.go mode .testing) := by
  cases stage with
  | undecided unlocked unset silent told =>
      refine .undecided unlocked unset silent ?_
      intro other phase same
      cases same
      trivial
  | stored unlocked last library settled =>
      rw [free] at last
      cases last
  | settled locked waits library settled =>
      refine .settled locked ?_ library settled
      intro other phase same
      cases same
      rfl

theorem stage_step (action : ThreadingAction) (next : Threading)
    (once : SettledOnce threading.history) (stage : Stage threading)
    (taken : threading.step build action = some next) :
    SettledOnce next.history ∧ Stage next := by
  cases action with
  | enter mode =>
      simp only [step] at taken
      split at taken
      · rename_i free
        cases taken
        exact ⟨once, stage_enter mode stage free⟩
      · cases taken
  | proceed rc =>
      simp only [step] at taken
      split at taken
      · cases taken
      · rename_i mode phase inside
        cases taken
        exact stage_proceed rc mode phase once stage inside
  | currentThreadingMode =>
      cases taken
      exact stage_read once stage
  | connect rc =>
      cases taken
      exact ⟨once, stage_connect rc stage⟩

end Steps

/-- Whatever the threads do: from the first call that returns true, or the first reader that
sees another mode than the default, every call returns whether it asks for that mode and every
reader sees it.  Once a call has returned true, the mode is stored, and SQLite is initialized
and works in it. -/
theorem threading_mode_settled (build : Build) (threading : Threading)
    (reached : Reachable (step build) (initial build) threading) :
    SettledOnce threading.history ∧
      ∀ mode, .returned mode true ∈ threading.history →
        threading.threadingLocked = true ∧ threading.currentThreadingMode = mode ∧
          threading.library = ⟨mode, true⟩ := by
  obtain ⟨once, stage⟩ := reachable_invariant (step build)
    (fun threading => SettledOnce threading.history ∧ Stage threading) (initial build) threading
    ⟨List.Pairwise.nil, stage_initial build⟩
    (fun _ action next inv taken => stage_step action next inv.1 inv.2 taken) reached
  refine ⟨once, fun mode returned => ?_⟩
  cases stage with
  | undecided unlocked unset silent told => cases silent _ returned
  | stored unlocked last library settled => exact absurd rfl (settled _ returned mode rfl).2
  | settled locked waits library settled =>
      have same := settled _ returned mode rfl
      rw [same] at library
      exact ⟨locked, same, library⟩

/-- Two calls for different modes, and a connection opened while the first one works. -/
def twoCalls : List ThreadingAction :=
  [.enter .multiThread, .proceed .ok, .proceed .ok, .currentThreadingMode, .proceed .ok,
    .connect .ok, .proceed .ok, .proceed .ok, .currentThreadingMode, .proceed .ok,
    .enter .singleThread, .proceed .ok]

theorem threading_mode_settled_two_calls :
    ∃ threading, exec (step threadSafe1) twoCalls (initial threadSafe1) = some threading ∧
      threading.history = [.read .serialized, .read .multiThread, .returned .multiThread true,
        .returned .singleThread false] ∧
      threading.library = ⟨.multiThread, true⟩ ∧ SettledOnce threading.history := by
  refine ⟨_, rfl, rfl, ?_⟩
  obtain ⟨once, settled⟩ := threading_mode_settled threadSafe1 _ ⟨twoCalls, rfl⟩
  exact ⟨(settled .multiThread (by decide)).2.2, once⟩

end Threading
end VSQLite
