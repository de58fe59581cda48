import Mathlib.Logic.Basic

/-!
# Programs that call their environment

A program is what it does next: return, fail, or make a request and go on with the
answer.  The environment may change between two requests.  What a program does is
described by a ghost state that the answers update: which requests it may make in a
ghost state, and with which results it may return in one.
-/

set_option autoImplicit false

namespace VSQLite.Lib

section Calls
variable {Request : Type} {Answer : Request → Type} {Failure : Type}

inductive Program (Answer : Request → Type) (Failure Result : Type) where
  | returns (result : Result)
  | throws (failure : Failure)
  | call (request : Request) (next : Answer request → Program Answer Failure Result)

namespace Program

def bind {First Second : Type} (first : Program Answer Failure First)
    (rest : First → Program Answer Failure Second) : Program Answer Failure Second :=
  match first with
  | .returns result => rest result
  | .throws failure => .throws failure
  | .call request next => .call request fun answer => (next answer).bind rest

instance : Monad (Program Answer Failure) where
  pure := .returns
  bind := bind

/-- The program that makes one request. -/
def request (request : Request) : Program Answer Failure (Answer request) :=
  .call request .returns

variable {Ghost : Type} (after : (request : Request) → Answer request → Ghost → Ghost)
  (may : Ghost → Request → Prop)

/-- From the ghost state the program makes only requests it may make, and returns only
with a good result. -/
def Follows {Result : Type} (good : Ghost → Result → Prop) :
    Program Answer Failure Result → Ghost → Prop
  | .returns result, ghost => good ghost result
  | .throws _, _ => True
  | .call request next, ghost =>
      may ghost request ∧ ∀ answer, Follows good (next answer) (after request answer ghost)

theorem follows_bind {First Second : Type} (middle : Ghost → First → Prop)
    (good : Ghost → Second → Prop) (first : Program Answer Failure First)
    (rest : First → Program Answer Failure Second) (ghost : Ghost)
    (firstFollows : Follows after may middle first ghost)
    (restFollows : ∀ ghost result, middle ghost result →
      Follows after may good (rest result) ghost) :
    Follows after may good (first >>= rest) ghost := by
  induction first generalizing ghost with
  | returns result => exact restFollows ghost result firstFollows
  | throws failure => exact trivial
  | call request next ih =>
      exact ⟨firstFollows.1, fun answer => ih answer _ (firstFollows.2 answer)⟩

theorem follows_request {Result : Type} (good : Ghost → Result → Prop) (asked : Request)
    (rest : Answer asked → Program Answer Failure Result) (ghost : Ghost)
    (allowed : may ghost asked)
    (goesOn : ∀ answer, Follows after may good (rest answer) (after asked answer ghost)) :
    Follows after may good ((request asked : Program Answer Failure _) >>= rest) ghost :=
  ⟨allowed, goesOn⟩

section Exec

/-- A request and its answer. -/
abbrev Exchange (Answer : Request → Type) : Type := (request : Request) × Answer request

/-- The program as an environment answers it that knows the exchanges so far: how it ends,
and the exchanges up to then. -/
def exec {Result : Type} (oracle : List (Exchange Answer) → (request : Request) → Answer request) :
    Program Answer Failure Result → List (Exchange Answer) →
      Except Failure Result × List (Exchange Answer)
  | .returns result, past => (.ok result, past)
  | .throws failure, past => (.error failure, past)
  | .call request next, past =>
      exec oracle (next (oracle past request)) (past ++ [⟨request, oracle past request⟩])

variable (oracle : List (Exchange Answer) → (request : Request) → Answer request)

theorem exec_bind {First Second : Type} (first : Program Answer Failure First)
    (rest : First → Program Answer Failure Second) (past : List (Exchange Answer)) :
    exec oracle (first >>= rest) past =
      match exec oracle first past with
      | (.ok result, seen) => exec oracle (rest result) seen
      | (.error failure, seen) => (.error failure, seen) := by
  induction first generalizing past with
  | returns result => rfl
  | throws failure => rfl
  | call request next ih => exact ih _ _

theorem exec_extends {Result : Type} (program : Program Answer Failure Result)
    (past : List (Exchange Answer)) : past <+: (exec oracle program past).2 := by
  induction program generalizing past with
  | returns result => exact List.prefix_refl past
  | throws failure => exact List.prefix_refl past
  | call request next ih => exact (List.prefix_append past _).trans (ih _ _)

/-- The ghost state after some exchanges. -/
def ghostAfter (exchanges : List (Exchange Answer)) (ghost : Ghost) : Ghost :=
  exchanges.foldl (fun ghost exchange => after exchange.1 exchange.2 ghost) ghost

/-- A run of a program that follows the rules makes each request when it may, and ends with a
good result or in a failure. -/
theorem exec_follows {Result : Type} (good : Ghost → Result → Prop)
    (program : Program Answer Failure Result) (past : List (Exchange Answer)) (ghost : Ghost)
    (follows : Follows after may good program ghost) :
    ∃ later, (exec oracle program past).2 = past ++ later ∧
      (∀ before exchange rest, later = before ++ exchange :: rest →
        may (ghostAfter after before ghost) exchange.1) ∧
      ∀ result, (exec oracle program past).1 = .ok result →
        good (ghostAfter after later ghost) result := by
  induction program generalizing past ghost with
  | returns result =>
      refine ⟨[], (List.append_nil past).symm, ?_, fun value returned => ?_⟩
      · intro before exchange rest impossible
        cases before <;> cases impossible
      · cases returned
        exact follows
  | throws failure =>
      refine ⟨[], (List.append_nil past).symm, ?_, fun value returned => by cases returned⟩
      intro before exchange rest impossible
      cases before <;> cases impossible
  | call request next ih =>
      obtain ⟨allowed, goesOn⟩ := follows
      obtain ⟨later, ends, made, good⟩ := ih (oracle past request)
        (past ++ [⟨request, oracle past request⟩]) _ (goesOn (oracle past request))
      refine ⟨⟨request, oracle past request⟩ :: later, ?_, ?_, good⟩
      · rw [exec, ends, List.append_assoc]
        rfl
      · intro before exchange rest split
        cases before with
        | nil =>
            cases split
            exact allowed
        | cons first others =>
            obtain ⟨same, tail⟩ := List.cons.inj split
            subst same
            exact made others exchange rest tail

/-- Every request the program can make is one of these. -/
def Asks {Result : Type} (asked : Request → Prop) (program : Program Answer Failure Result) :
    Prop :=
  program.Follows (fun _ _ _ => ()) (fun (_ : Unit) request => asked request) (fun _ _ => True) ()

theorem asks_bind {First Second : Type} (asked : Request → Prop)
    (first : Program Answer Failure First) (rest : First → Program Answer Failure Second)
    (firstAsks : Asks asked first) (restAsks : ∀ result, Asks asked (rest result)) :
    Asks asked (first >>= rest) :=
  follows_bind _ _ (fun _ _ => True) _ first rest () firstAsks
    fun _ result _ => restAsks result

theorem Asks.mono {Result : Type} {asked wider : Request → Prop}
    (wide : ∀ request, asked request → wider request) (program : Program Answer Failure Result)
    (asks : Asks asked program) : Asks wider program := by
  induction program with
  | returns result => exact trivial
  | throws failure => exact trivial
  | call request next ih => exact ⟨wide request asks.1, fun answer => ih answer (asks.2 answer)⟩

/-- A run depends only on the answers to requests the program can make. -/
theorem exec_congr {Result : Type}
    (other : List (Exchange Answer) → (request : Request) → Answer request)
    (asked : Request → Prop)
    (agrees : ∀ past request, asked request → oracle past request = other past request)
    (program : Program Answer Failure Result) (past : List (Exchange Answer))
    (asks : Asks asked program) : exec oracle program past = exec other program past := by
  induction program generalizing past with
  | returns result => rfl
  | throws failure => rfl
  | call request next ih =>
      rw [exec, exec, agrees past request asks.1]
      exact ih _ _ (asks.2 _)

/-- The ghost state that is the exchanges so far. -/
def recorded (request : Request) (answer : Answer request) (past : List (Exchange Answer)) :
    List (Exchange Answer) :=
  past ++ [⟨request, answer⟩]

theorem prefix_ne_longer {Item : Type} {past before after : List Item} {item : Item}
    (started : past <+: before) : past ≠ before ++ item :: after := by
  intro same
  have shorter := started.length_le
  rw [same, List.length_append, List.length_cons] at shorter
  omega

theorem exec_recorded_may {Result : Type} (allowed : List (Exchange Answer) → Request → Prop)
    (good : List (Exchange Answer) → Result → Prop) (program : Program Answer Failure Result)
    (past : List (Exchange Answer)) (follows : Follows recorded allowed good program past)
    (before after : List (Exchange Answer)) (exchange : Exchange Answer)
    (started : past <+: before)
    (happens : (exec oracle program past).2 = before ++ exchange :: after) :
    allowed before exchange.1 := by
  induction program generalizing past with
  | returns result => exact (prefix_ne_longer started happens).elim
  | throws failure => exact (prefix_ne_longer started happens).elim
  | call request next ih =>
      have extends_past := exec_extends oracle (next (oracle past request))
        (past ++ [⟨request, oracle past request⟩])
      rw [exec] at happens
      rw [happens] at extends_past
      rcases Nat.lt_or_ge past.length before.length with later | now
      · have started_next : past ++ [⟨request, oracle past request⟩] <+: before := by
          apply List.prefix_of_prefix_length_le extends_past (List.prefix_append _ _)
          rw [List.length_append]
          exact later
        exact ih (oracle past request) _ (follows.2 _) started_next happens
      · have same := started.eq_of_length_le now
        subst same
        obtain ⟨rest, split⟩ := extends_past
        rw [List.append_assoc] at split
        have first := (List.cons.inj (List.append_cancel_left split)).1
        rw [← first]
        exact follows.1

theorem exec_recorded_good {Result : Type} (allowed : List (Exchange Answer) → Request → Prop)
    (good : List (Exchange Answer) → Result → Prop) (program : Program Answer Failure Result)
    (past : List (Exchange Answer)) (follows : Follows recorded allowed good program past)
    (result : Result) (returned : (exec oracle program past).1 = .ok result) :
    good (exec oracle program past).2 result := by
  induction program generalizing past with
  | returns value =>
      cases returned
      exact follows
  | throws failure => cases returned
  | call request next ih => exact ih _ _ (follows.2 _) returned

end Exec
end Program
end Calls
end VSQLite.Lib
