import VSQLite.Transaction.Savepoints

/-!
# What leaves a destructor

`~transaction` swallows what its rollback throws.  `~savepoint` releases, and lets out
what the release throws, which ends the program.
-/

set_option autoImplicit false

namespace VSQLite
open Lib

namespace Scopes
section Runs
variable {Data : Type} (readName : Text → Option Text)

/-- A savepoint object is destroyed while it is active only if a savepoint of its name is
still open on the connection, and SQLite lets it go. -/
def ReleasesOpen (scopes : Scopes Data) (action : ScopeAction Data) : Prop :=
  ∀ index verdict savepoint, action = .destroy index verdict →
    scopes.savepointAt index = some savepoint → savepoint.isActive = true →
    verdict = .proceeds ∧ savepoint.IsOpen readName scopes.db

theorem savepoint_destroy_returns_iff (verdict : Verdict) (db : Database Data)
    (savepoint : Savepoint) :
    (savepoint.destroy readName verdict db).2 = .ok () ↔
      (savepoint.isActive = true → verdict = .proceeds ∧ savepoint.IsOpen readName db) := by
  unfold Savepoint.destroy
  cases active : savepoint.isActive with
  | false => simp
  | true => simpa using savepoint.release_returns_iff readName verdict db

theorem releasesOpen_of_calls (scopes : Scopes Data) (action : ScopeAction Data)
    (calls : ∀ index verdict, action ≠ .destroy index verdict) :
    scopes.ReleasesOpen readName action :=
  fun index verdict _ same => absurd same (calls index verdict)

theorem releasesOpen_destroy_iff (scopes : Scopes Data) (index : Nat) (verdict : Verdict)
    (savepoint : Savepoint) (found : scopes.objects[index]? = some (.savepoint savepoint)) :
    scopes.ReleasesOpen readName (.destroy index verdict) ↔
      (savepoint.destroy readName verdict scopes.db).2 = .ok () := by
  have here := (savepointAt_eq_some index scopes savepoint).mpr found
  rw [savepoint_destroy_returns_iff]
  constructor
  · intro releases active
    exact releases index verdict savepoint rfl here active
  · intro releases _ _ other same at_ active
    cases same
    cases at_.symm.trans here
    exact releases active

theorem terminated_step_iff (scopes : Scopes Data) (action : ScopeAction Data)
    (next : Scopes Data) (enabled : scopes.step readName action = some next) :
    next.terminated = false ↔ scopes.ReleasesOpen readName action := by
  obtain ⟨outcome, run⟩ := step_eq_some readName scopes next action enabled
  unfold Scopes.run at run
  cases running : scopes.terminated with
  | true => simp [running] at run
  | false =>
      simp only [running, Bool.false_eq_true, if_false] at run
      cases action with
      | transaction type verdict =>
          refine iff_of_true ?_ (releasesOpen_of_calls readName scopes _ nofun)
          dsimp only at run
          split at run <;> (cases run; exact running)
      | savepoint name verdict =>
          refine iff_of_true ?_ (releasesOpen_of_calls readName scopes _ nofun)
          dsimp only at run
          split at run <;> (cases run; exact running)
      | call index call verdict =>
          obtain ⟨_, _, result⟩ := Option.map_eq_some_iff.mp run
          cases result
          exact iff_of_true running (releasesOpen_of_calls readName scopes _ nofun)
      | callSavepoint index call verdict =>
          obtain ⟨_, _, result⟩ := Option.map_eq_some_iff.mp run
          cases result
          exact iff_of_true running (releasesOpen_of_calls readName scopes _ nofun)
      | write change =>
          cases run
          exact iff_of_true rfl (releasesOpen_of_calls readName scopes _ nofun)
      | destroy index verdict =>
          cases found : scopes.objects[index]? with
          | none => simp [found] at run
          | some object =>
              simp only [found] at run
              cases object with
              | destroyed => simp at run
              | transaction transaction =>
                  cases run
                  refine iff_of_true running ?_
                  intro _ _ savepoint same at_
                  cases same
                  rw [savepointAt_eq_some, found] at at_
                  cases at_
              | savepoint savepoint =>
                  rw [releasesOpen_destroy_iff readName scopes index verdict savepoint found]
                  cases destroyed : savepoint.destroy readName verdict scopes.db with
                  | mk db result =>
                      cases result with
                      | ok _ =>
                          simp only [destroyed, Option.some.injEq, Prod.mk.injEq] at run
                          rw [← run.1]
                          exact iff_of_true running rfl
                      | error thrown =>
                          simp only [destroyed, Option.some.injEq, Prod.mk.injEq] at run
                          rw [← run.1]
                          exact iff_of_false nofun nofun

/-- Whatever is made on the connection, called and destroyed, in whatever order, and
whatever SQLite refuses: nothing leaves a destructor exactly if no savepoint object
outlives, active, the savepoint it opened. -/
theorem destructors_return_iff (db : Database Data) (actions : List (ScopeAction Data)) :
    EveryState (step readName) (fun scopes => scopes.terminated = false) actions (opened db) ↔
      EveryStep (step readName) (fun scopes action => scopes.ReleasesOpen readName action)
        actions (opened db) := by
  apply everyState_iff_everyStep (step readName) fun _ => True
  · exact fun _ _ _ _ _ => trivial
  · exact fun scopes action next _ _ enabled =>
      terminated_step_iff readName scopes action next enabled
  · exact trivial
  · rfl

/-- A transaction, a savepoint in it, `t.commit()`, and the end of the scope. -/
theorem committed_under_savepoint :
    ¬EveryState (step some) (fun scopes : Scopes Unit => scopes.terminated = false)
      [.transaction .undefined .proceeds, .savepoint (ascii "a") .proceeds,
        .call 0 .commit .proceeds, .destroy 1 .proceeds, .destroy 0 .proceeds]
      (opened ⟨(), none, []⟩) := by
  intro states
  have early := (states.2 _ rfl).2 _ rfl
  have late := (early.2 _ rfl).2 _ rfl
  cases late.1

end Runs
end Scopes
end VSQLite
