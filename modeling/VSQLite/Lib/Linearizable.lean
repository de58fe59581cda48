import Mathlib.Logic.Function.Basic
import VSQLite.Lib.Run

/-!
# Calls in two steps

An object whose member functions several threads call.  `run` is what a call does when it has
the object for itself.  Among other threads a call ends with its first step, or its first step
leaves the object alone and a second one, later, does the work.
-/

set_option autoImplicit false

namespace VSQLite.Lib

/-- A call that has returned, with the times of its first and of its last step. -/
structure Completed (Call Result : Type) where
  call : Call
  returned : Result
  started : Nat
  ended : Nat

section Sequential
variable {Object Call Result : Type} [DecidableEq Result]
variable (run : Object → Call → Option (Object × Result))

/-- The calls one after the other, each with the result it had. -/
def replay : List (Completed Call Result) → Object → Option Object
  | [], object => some object
  | done :: rest, object =>
      (run object done.call).bind fun (next, returned) =>
        if returned = done.returned then replay rest next else none

/-- No call that had ended before another one started comes after it. -/
def RealTime (order : List (Completed Call Result)) : Prop :=
  order.Pairwise fun first second => ¬second.ended < first.started

/-- In an order that respects real time the calls have these results and leave this object. -/
def Linearizable (initial final : Object) (completed : List (Completed Call Result)) : Prop :=
  ∃ order, order.Perm completed ∧ RealTime order ∧ replay run order initial = some final

theorem replay_append (earlier later : List (Completed Call Result)) (object : Object) :
    replay run (earlier ++ later) object =
      (replay run earlier object).bind (replay run later) := by
  induction earlier generalizing object with
  | nil => rfl
  | cons done rest ih =>
      simp only [List.cons_append, replay, Option.bind_assoc]
      congr 1
      funext ⟨next, returned⟩
      dsimp only
      split
      · exact ih next
      · rfl

theorem replay_preserves (Inv : Object → Prop)
    (preserved : ∀ object call next returned, Inv object →
      run object call = some (next, returned) → Inv next)
    (order : List (Completed Call Result)) (initial final : Object) (start : Inv initial)
    (replayed : replay run order initial = some final) : Inv final := by
  induction order generalizing initial with
  | nil =>
      cases Option.some.inj replayed
      exact start
  | cons done rest ih =>
      obtain ⟨⟨next, returned⟩, ran, later⟩ := Option.bind_eq_some_iff.mp replayed
      dsimp only at later
      split at later
      · exact ih next (preserved initial done.call next returned start ran) later
      · cases later

theorem Linearizable.preserves (Inv : Object → Prop)
    (preserved : ∀ object call next returned, Inv object →
      run object call = some (next, returned) → Inv next)
    {initial final : Object} {completed : List (Completed Call Result)} (start : Inv initial)
    (linearizable : Linearizable run initial final completed) : Inv final := by
  obtain ⟨order, _, _, replayed⟩ := linearizable
  exact replay_preserves run Inv preserved order initial final start replayed

end Sequential

/-! ## Several threads -/

/-- A thread waits after the first step of its call.  The results and times of the calls that
have returned are listed in the order of their last steps. -/
structure Shared (Thread Object Call Result : Type) where
  object : Object
  waiting : Thread → Option (Call × Nat)
  completed : List (Completed Call Result)
  clock : Nat
  undefined : Bool

inductive ThreadStep (Thread Call : Type) where
  | start (thread : Thread) (call : Call)
  | resume (thread : Thread)
deriving DecidableEq, Repr

namespace Shared
section Threads
variable {Thread Object Call Result : Type}

def initial (object : Object) : Shared Thread Object Call Result :=
  ⟨object, fun _ => none, [], 0, false⟩

/-- The calls, in the order of their last steps, are a sequential order that leaves the object as
it is. -/
structure InOrder [DecidableEq Result] (run : Object → Call → Option (Object × Result))
    (initial : Object) (shared : Shared Thread Object Call Result) : Prop where
  replayed : replay run shared.completed initial = some shared.object
  realTime : RealTime shared.completed
  past : ∀ done ∈ shared.completed, done.started < shared.clock
  begun : ∀ thread call started, shared.waiting thread = some (call, started) →
    started < shared.clock

/-- What the second step of a waiting call finds. -/
def Resumes (Met : Object → Call → Prop) (shared : Shared Thread Object Call Result) :
    ThreadStep Thread Call → Prop
  | .start _ _ => True
  | .resume thread =>
      ∀ call started, shared.waiting thread = some (call, started) → Met shared.object call

theorem Resumes.mono {Met Other : Object → Call → Prop}
    {shared : Shared Thread Object Call Result} {action : ThreadStep Thread Call}
    (gives : ∀ call, Met shared.object call → Other shared.object call)
    (resumes : shared.Resumes Met action) : shared.Resumes Other action := by
  cases action with
  | start thread call => trivial
  | resume thread => exact fun call started waits => gives call (resumes call started waits)

theorem inOrder_initial [DecidableEq Result] (run : Object → Call → Option (Object × Result))
    (object : Object) :
    InOrder run object (initial object : Shared Thread Object Call Result) :=
  ⟨rfl, List.Pairwise.nil, fun _ member => (by cases member),
    fun _ _ _ waits => (by cases waits)⟩

theorem InOrder.linearizable [DecidableEq Result] {run : Object → Call → Option (Object × Result)}
    {object : Object} {shared : Shared Thread Object Call Result}
    (inOrder : InOrder run object shared) :
    Linearizable run object shared.object shared.completed :=
  ⟨shared.completed, List.Perm.refl _, inOrder.realTime, inOrder.replayed⟩

variable [DecidableEq Thread]

def wait (shared : Shared Thread Object Call Result) (thread : Thread) (call : Call) :
    Shared Thread Object Call Result :=
  { shared with
    waiting := Function.update shared.waiting thread (some (call, shared.clock))
    clock := shared.clock + 1 }

def finish (shared : Shared Thread Object Call Result) (thread : Thread) (call : Call)
    (started : Nat) (object : Object) (returned : Result) : Shared Thread Object Call Result :=
  { shared with
    object := object
    waiting := Function.update shared.waiting thread none
    completed := shared.completed ++ [⟨call, returned, started, shared.clock⟩]
    clock := shared.clock + 1 }

/-- `first` has no result where the call goes on to its second step, `second` has none where
what it does is undefined. -/
def step (first second : Object → Call → Option (Object × Result))
    (shared : Shared Thread Object Call Result) :
    ThreadStep Thread Call → Option (Shared Thread Object Call Result)
  | .start thread call =>
      if shared.undefined || (shared.waiting thread).isSome then none
      else
        match first shared.object call with
        | some (object, returned) =>
            some (shared.finish thread call shared.clock object returned)
        | none => some (shared.wait thread call)
  | .resume thread =>
      if shared.undefined then none
      else
        match shared.waiting thread with
        | none => none
        | some (call, started) =>
            match second shared.object call with
            | some (object, returned) =>
                some (shared.finish thread call started object returned)
            | none => some { shared with undefined := true }

theorem step_resume {first second : Object → Call → Option (Object × Result)}
    {shared : Shared Thread Object Call Result} (defined : shared.undefined = false)
    {thread : Thread} {call : Call} {started : Nat}
    (waits : shared.waiting thread = some (call, started)) :
    shared.step first second (.resume thread) =
      match second shared.object call with
      | some (object, returned) => some (shared.finish thread call started object returned)
      | none => some { shared with undefined := true } := by
  simp only [step, defined, waits, Bool.false_eq_true, if_false]

theorem step_defined_iff {first second : Object → Call → Option (Object × Result)}
    {shared next : Shared Thread Object Call Result} (defined : shared.undefined = false)
    (action : ThreadStep Thread Call) (taken : shared.step first second action = some next) :
    next.undefined = false ↔
      shared.Resumes (fun object call => second object call ≠ none) action := by
  cases action with
  | start thread call =>
      refine ⟨fun _ => trivial, fun _ => ?_⟩
      simp only [step] at taken
      split at taken
      · cases taken
      · split at taken <;> cases taken <;> exact defined
  | resume thread =>
      cases waits : shared.waiting thread with
      | none => simp [step, defined, waits] at taken
      | some waiting =>
          obtain ⟨call, started⟩ := waiting
          rw [step_resume defined waits] at taken
          have found : shared.Resumes (fun object call => second object call ≠ none)
              (.resume thread) ↔ second shared.object call ≠ none := by
            simp [Resumes, waits]
          rw [found]
          cases ended : second shared.object call with
          | none =>
              simp only [ended] at taken
              cases taken
              simp
          | some result =>
              simp only [ended] at taken
              cases taken
              simp [finish, defined]

section Steps
variable [DecidableEq Result] {run first second : Object → Call → Option (Object × Result)}
variable {object : Object} {shared next : Shared Thread Object Call Result}

theorem InOrder.begun_update (inOrder : InOrder run object shared) (thread : Thread)
    (noted : Option (Call × Nat))
    (recent : ∀ call started, noted = some (call, started) → started ≤ shared.clock) :
    ∀ other call started, Function.update shared.waiting thread noted other =
      some (call, started) → started < shared.clock + 1 := by
  intro other call started waits
  by_cases same : other = thread
  · subst same
    rw [Function.update_self] at waits
    exact Nat.lt_succ_of_le (recent call started waits)
  · rw [Function.update_of_ne same] at waits
    exact Nat.lt_succ_of_lt (inOrder.begun other call started waits)

theorem InOrder.wait (inOrder : InOrder run object shared) (thread : Thread) (call : Call) :
    InOrder run object (shared.wait thread call) := by
  refine ⟨inOrder.replayed, inOrder.realTime,
    fun done member => Nat.lt_succ_of_lt (inOrder.past done member), ?_⟩
  apply inOrder.begun_update thread
  intro call started same
  cases same
  exact Nat.le_refl _

theorem InOrder.finish (inOrder : InOrder run object shared) (thread : Thread) (call : Call)
    (started : Nat) (left : Object) (returned : Result) (begun : started ≤ shared.clock)
    (ran : run shared.object call = some (left, returned)) :
    InOrder run object (shared.finish thread call started left returned) := by
  refine ⟨?_, ?_, ?_, ?_⟩
  · simp only [Shared.finish, replay_append, inOrder.replayed, Option.bind_some, replay, ran,
      if_true]
  · refine List.pairwise_append.mpr ⟨inOrder.realTime, List.pairwise_singleton _ _, ?_⟩
    intro done member last isLast
    cases List.mem_singleton.mp isLast
    have earlier := inOrder.past done member
    exact Nat.not_lt.mpr (Nat.le_of_lt earlier)
  · intro done member
    change done.started < shared.clock + 1
    rcases List.mem_append.mp member with earlier | last
    · exact Nat.lt_succ_of_lt (inOrder.past done earlier)
    · cases List.mem_singleton.mp last
      exact Nat.lt_succ_of_le begun
  · apply inOrder.begun_update thread
    intro call started same
    cases same

/-- Calls whose last steps do what they do alone stay in order. -/
theorem InOrder.step (inOrder : InOrder run object shared) {Met : Object → Call → Prop}
    (firstRuns : ∀ object call result, first object call = some result →
      run object call = some result)
    (secondRuns : ∀ object call result, Met object call → second object call = some result →
      run object call = some result)
    (action : ThreadStep Thread Call) (resumes : Resumes Met shared action)
    (taken : shared.step first second action = some next) : InOrder run object next := by
  cases action with
  | start thread call =>
      simp only [Shared.step] at taken
      split at taken
      · cases taken
      · split at taken
        · rename_i left returned ended
          cases taken
          exact inOrder.finish thread call shared.clock left returned (Nat.le_refl _)
            (firstRuns _ _ _ ended)
        · cases taken
          exact inOrder.wait thread call
  | resume thread =>
      simp only [Shared.step] at taken
      split at taken
      · cases taken
      · split at taken
        · cases taken
        · rename_i call started waits
          split at taken
          · rename_i left returned ended
            cases taken
            exact inOrder.finish thread call started left returned
              (Nat.le_of_lt (inOrder.begun thread call started waits))
              (secondRuns _ _ _ (resumes call started waits) ended)
          · cases taken
            exact ⟨inOrder.replayed, inOrder.realTime, inOrder.past, inOrder.begun⟩

end Steps
end Threads
end Shared
end VSQLite.Lib
