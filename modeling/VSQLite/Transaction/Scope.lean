import VSQLite.Transaction.Steps

/-!
# The scope of one transaction object

One object on its connection, called in any order until its scope ends.  What is to be
kept of the content is said by a journal of the run: the writes outside a transaction and
those of the transactions that were committed.
-/

set_option autoImplicit false

namespace VSQLite
open Lib

/-- What a program does between the constructor and the destructor of the object. -/
inductive ScopeUse (Data : Type) where
  | call (which : TransactionCall) (verdict : Verdict)
  | write (change : Data → Data)

def ScopeUse.toScope {Data : Type} : ScopeUse Data → ScopeAction Data
  | .call which verdict => .call 0 which verdict
  | .write change => .write change

/-- What there is to see of one use: calls that returned, those that threw, after which the
transaction is gone or is as it was, and writes. -/
inductive ScopeEvent (Data : Type) where
  | begun
  | committed
  | rolledBack
  | lost
  | threw
  | wrote (change : Data → Data)

/-- The changes that are to be kept, and those of the transaction that is open, each in the
order they were made. -/
structure Journal (Data : Type) where
  kept : List (Data → Data)
  pending : Option (List (Data → Data))

namespace Journal
section Journal
variable {Data : Type}

def replay (content : Data) (changes : List (Data → Data)) : Data :=
  changes.foldl (fun content change => change content) content

def after (journal : Journal Data) : ScopeEvent Data → Journal Data
  | .begun => { journal with pending := some [] }
  | .committed => ⟨journal.kept ++ journal.pending.getD [], none⟩
  | .rolledBack => { journal with pending := none }
  | .lost => { journal with pending := none }
  | .threw => journal
  | .wrote change =>
      match journal.pending with
      | none => { journal with kept := journal.kept ++ [change] }
      | some changes => { journal with pending := some (changes ++ [change]) }

end Journal
end Journal

/-- The last of the calls that returned was `commit`, `end` or `rollback`. -/
def ScopeEvent.endedAfter {Data : Type} (ended : Bool) : ScopeEvent Data → Bool
  | .begun => false
  | .committed => true
  | .rolledBack => true
  | _ => ended

namespace Scopes
section Runs
variable {Data : Type} (readName : Text → Option Text)

def useStep (scopes : Scopes Data) (use : ScopeUse Data) : Option (Scopes Data) :=
  scopes.step readName use.toScope

def observe (scopes : Scopes Data) (use : ScopeUse Data) : ScopeEvent Data :=
  match use with
  | .write change => .wrote change
  | .call which _ =>
      match scopes.run readName use.toScope, which.ending with
      | some (_, .ok ()), none => .begun
      | some (_, .ok ()), some true => .committed
      | some (_, .ok ()), some false => .rolledBack
      | some (next, .error _), _ => if next.db.autocommit then .lost else .threw
      | none, _ => .threw

def events : List (ScopeUse Data) → Scopes Data → List (ScopeEvent Data)
  | [], _ => []
  | use :: rest, scopes =>
      scopes.observe readName use ::
        (match scopes.useStep readName use with
          | none => []
          | some next => events rest next)

/-- The journal of a run that starts with the transaction the constructor has begun. -/
def journalOf (uses : List (ScopeUse Data)) (made : Scopes Data) : Journal Data :=
  (events readName uses made).foldl Journal.after ⟨[], some []⟩

def endedLast (uses : List (ScopeUse Data)) (made : Scopes Data) : Bool :=
  (events readName uses made).foldl ScopeEvent.endedAfter false

/-- The connection, the flags of its one object, and the journal fit together. -/
structure InScope (content : Data) (scopes : Scopes Data) (journal : Journal Data)
    (ended : Bool) (transaction : Transaction) : Prop where
  running : scopes.terminated = false
  objects : scopes.objects = [.transaction transaction]
  notEnding : transaction.isEnding = false
  active : transaction.isActive = !ended
  covered : scopes.db.current ≠ none → transaction.isActive = true
  stored : scopes.db.stored = Journal.replay content journal.kept
  seen : scopes.db.current.map OpenTransaction.seen =
    journal.pending.map fun changes => Journal.replay content (journal.kept ++ changes)

theorem inScope_write (content : Data) (scopes : Scopes Data) (journal : Journal Data)
    (ended : Bool) (transaction : Transaction) (change : Data → Data)
    (holds : InScope content scopes journal ended transaction) :
    InScope content { scopes with db := scopes.db.write change } (journal.after (.wrote change))
      ended transaction := by
  have seen := holds.seen
  cases current : scopes.db.current with
  | none =>
      rw [current] at seen
      have quiet := Option.map_eq_none_iff.mp seen.symm
      refine ⟨holds.running, holds.objects, holds.notEnding, holds.active, ?_, ?_, ?_⟩
      · simp [Database.write, current]
      · simp [Database.write, current, Journal.after, quiet, holds.stored,
          Journal.replay]
      · simp [Database.write, current, Journal.after, quiet]
  | some opened =>
      cases pending : journal.pending with
      | none => simp [current, pending] at seen
      | some changes =>
          have inside : opened.seen = Journal.replay content (journal.kept ++ changes) := by
            simpa [current, pending] using seen
          refine ⟨holds.running, holds.objects, holds.notEnding, holds.active, ?_, ?_, ?_⟩
          · intro _
            exact holds.covered (by rw [current]; exact Option.some_ne_none opened)
          · simp [Database.write, current, Journal.after, pending, holds.stored]
          · simp [Database.write, current, Journal.after, pending, inside,
              Journal.replay]

theorem inScope_call (content : Data) (scopes next : Scopes Data) (journal : Journal Data)
    (ended : Bool) (transaction : Transaction) (which : TransactionCall) (verdict : Verdict)
    (holds : InScope content scopes journal ended transaction)
    (enabled : scopes.useStep readName (.call which verdict) = some next) :
    ∃ after, InScope content next
      (journal.after (scopes.observe readName (.call which verdict)))
      ((scopes.observe readName (.call which verdict)).endedAfter ended) after := by
  obtain ⟨outcome, run⟩ := step_eq_some readName scopes next _ enabled
  have observed : scopes.observe readName (.call which verdict) =
      (match some (next, outcome), which.ending with
        | some (_, .ok ()), none => ScopeEvent.begun
        | some (_, .ok ()), some true => .committed
        | some (_, .ok ()), some false => .rolledBack
        | some (next, .error _), _ => if next.db.autocommit then .lost else .threw
        | none, _ => .threw) := by
    rw [← run]
    rfl
  rw [observed]
  obtain ⟨found, at_, result, shape⟩ := run_call readName scopes next 0 which verdict outcome run
  rw [holds.objects] at at_ shape
  cases at_
  have seen := holds.seen
  rcases which.run_cases readName verdict scopes.db transaction
    with ⟨type, begins, _, free, ran⟩ | ⟨keeps, opened, sql, ends, _, taken, ran⟩ |
      ⟨sql, thrown, after, _, active, notEnding, ran⟩
  · rw [ran] at result shape
    subst result shape
    refine ⟨{ transaction with isActive := true }, ?_⟩
    rw [begins]
    exact ⟨holds.running, rfl, holds.notEnding, rfl, fun _ => rfl, holds.stored, by
      simp [settle, Journal.after, holds.stored]⟩
  · rw [ran] at result shape
    subst result shape
    refine ⟨⟨false, false⟩, ?_⟩
    cases pending : journal.pending with
    | none => simp [taken, pending] at seen
    | some changes =>
        have inside : opened.seen = Journal.replay content (journal.kept ++ changes) := by
          simpa [taken, pending] using seen
        rw [ends]
        cases keeps with
        | true =>
            exact ⟨holds.running, rfl, rfl, rfl, fun some => absurd rfl some,
              by simpa [settle, Journal.after, pending] using inside, rfl⟩
        | false =>
            exact ⟨holds.running, rfl, rfl, rfl, fun some => absurd rfl some,
              holds.stored, rfl⟩
  · rw [ran] at result shape
    subst result shape
    refine ⟨after, ?_⟩
    rcases scopes.db.failed_current_cases sql verdict with free | ⟨opened, current, same⟩
    · simp only [settle, Database.autocommit, free, Option.isNone_none, if_true]
      refine ⟨holds.running, rfl, notEnding holds.notEnding, active.trans holds.active,
        fun some => absurd free some, holds.stored, ?_⟩
      simp [Journal.after, free]
    · have covered := holds.covered (by rw [current]; exact Option.some_ne_none opened)
      simp only [settle, Database.autocommit, same, Option.isNone_some, Bool.false_eq_true,
        if_false]
      refine ⟨holds.running, rfl, notEnding holds.notEnding, active.trans holds.active,
        fun _ => active.trans covered, holds.stored, ?_⟩
      rw [same, ← current]
      exact seen

theorem inScope_step (content : Data) (scopes next : Scopes Data) (journal : Journal Data)
    (ended : Bool) (transaction : Transaction) (use : ScopeUse Data)
    (holds : InScope content scopes journal ended transaction)
    (enabled : scopes.useStep readName use = some next) :
    ∃ after, InScope content next (journal.after (scopes.observe readName use))
      ((scopes.observe readName use).endedAfter ended) after := by
  cases use with
  | call which verdict =>
      exact inScope_call readName content scopes next journal ended transaction which verdict holds
        enabled
  | write change =>
      have same : { scopes with db := scopes.db.write change } = next := by
        simpa [useStep, ScopeUse.toScope, Scopes.step, Scopes.run, holds.running] using enabled
      rw [← same]
      exact ⟨transaction, inScope_write content scopes journal ended transaction change holds⟩

theorem inScope_run (content : Data) (uses : List (ScopeUse Data)) (scopes last : Scopes Data)
    (journal : Journal Data) (ended : Bool) (transaction : Transaction)
    (holds : InScope content scopes journal ended transaction)
    (run : exec (useStep readName) uses scopes = some last) :
    ∃ after, InScope content last ((events readName uses scopes).foldl Journal.after journal)
      ((events readName uses scopes).foldl ScopeEvent.endedAfter ended) after := by
  induction uses generalizing scopes journal ended transaction with
  | nil =>
      cases Option.some.inj run
      exact ⟨transaction, holds⟩
  | cons use rest ih =>
      obtain ⟨next, enabled, later⟩ := exec_cons_some _ use rest scopes last run
      obtain ⟨after, stepped⟩ := inScope_step readName content scopes next journal ended
        transaction use holds enabled
      simp only [events, enabled, List.foldl_cons]
      exact ih next _ _ after stepped later

theorem inScope_made (content : Data) (issued : List Text) (type : TransactionType)
    (verdict : Verdict) (made : Scopes Data)
    (constructed : (opened ⟨content, none, issued⟩).run readName (.transaction type verdict) =
      some (made, .ok ())) :
    InScope content made ⟨[], some []⟩ false ⟨true, false⟩ := by
  unfold Scopes.run at constructed
  rcases Transaction.begin_cases readName type verdict ⟨content, none, issued⟩ ⟨false, false⟩
    with ⟨_, _, result⟩ | ⟨thrown, _, result⟩
  · simp only [opened, Bool.false_eq_true, if_false, result, Option.some.injEq,
      Prod.mk.injEq] at constructed
    rw [← constructed.1]
    exact ⟨rfl, rfl, rfl, rfl, fun _ => rfl, rfl, rfl⟩
  · simp [opened, result] at constructed

/-- At the end of the scope no transaction is open, the content is what the journal says,
and a transaction that was ended is not rolled back once more. -/
theorem inScope_destroyed (content : Data) (scopes : Scopes Data) (journal : Journal Data)
    (ended : Bool) (transaction : Transaction) (verdict : Verdict)
    (holds : InScope content scopes journal ended transaction) :
    ∃ next, scopes.run readName (.destroy 0 verdict) = some (next, .ok ()) ∧
      ((scopes.db.current ≠ none → ∀ code, verdict ≠ .refused code) →
        next.db.current = none ∧ next.db.stored = Journal.replay content journal.kept) ∧
      (ended = true → next.db.issued = scopes.db.issued) := by
  refine ⟨scopes.settle 0 (transaction.destroy readName verdict scopes.db)
    (scopes.objects.set 0 .destroyed), ?_, ?_⟩
  · simp [Scopes.run, holds.running, holds.objects]
  · simp only [settle]
    rcases transaction.destroy_cases readName verdict scopes.db
      with ⟨quiet, idle⟩ | ⟨active, _, ⟨_, _, rolled⟩ | ⟨stuck, failed⟩⟩
    · have inactive : transaction.isActive = false := by
        rcases quiet with ending | inactive
        · rw [holds.notEnding] at ending
          cases ending
        · exact inactive
      rw [idle]
      refine ⟨fun _ => ⟨?_, holds.stored⟩, fun _ => rfl⟩
      by_contra taken
      rw [holds.covered taken] at inactive
      cases inactive
    · rw [rolled]
      refine ⟨fun _ => ⟨rfl, holds.stored⟩, fun done => ?_⟩
      rw [holds.active, done] at active
      cases active
    · rw [failed]
      refine ⟨fun proviso => ⟨?_, holds.stored⟩, fun done => ?_⟩
      · cases verdict with
        | proceeds => exact stuck rfl
        | rolledBack code => rfl
        | refused code =>
            by_contra taken
            exact proviso taken code rfl
      · rw [holds.active, done] at active
        cases active

/-- However the object is used: between two calls it is not ending, and it is active while a
transaction is open; and its destructor returns, leaves no transaction open, provided that
`ROLLBACK` fails only when none is, keeps what the journal says and no more, and issues
nothing if the last call that returned had ended the transaction. -/
theorem transaction_scope_closed (content : Data) (issued : List Text) (type : TransactionType)
    (verdict : Verdict) (made last : Scopes Data) (uses : List (ScopeUse Data))
    (constructed : (opened ⟨content, none, issued⟩).run readName (.transaction type verdict) =
      some (made, .ok ()))
    (run : exec (useStep readName) uses made = some last) :
    (∃ transaction, last.objects = [.transaction transaction] ∧
      transaction.isEnding = false ∧
      (last.db.autocommit = false → transaction.isActive = true)) ∧
    ∀ final : Verdict, ∃ closed, last.run readName (.destroy 0 final) = some (closed, .ok ()) ∧
      ((last.db.autocommit = false → ∀ code, final ≠ .refused code) →
        closed.db.autocommit = true ∧
        closed.db.stored = Journal.replay content (journalOf readName uses made).kept) ∧
      (endedLast readName uses made = true → closed.db.issued = last.db.issued) := by
  obtain ⟨transaction, holds⟩ := inScope_run readName content uses made last _ _ _
    (inScope_made readName content issued type verdict made constructed) run
  have taken : last.db.autocommit = false ↔ last.db.current ≠ none := by
    simp [Database.autocommit, Option.isSome_iff_ne_none]
  refine ⟨⟨transaction, holds.objects, holds.notEnding, fun open_ => ?_⟩, fun final => ?_⟩
  · exact holds.covered (taken.mp open_)
  · obtain ⟨closed, destroyed, kept, silent⟩ :=
      inScope_destroyed readName content last _ _ transaction final holds
    refine ⟨closed, destroyed, fun proviso => ?_, silent⟩
    obtain ⟨free, stored⟩ := kept fun open_ => proviso (taken.mpr open_)
    exact ⟨by rw [Database.autocommit, free]; rfl, stored⟩

/-- A write, a `COMMIT` that fails, a second one that goes through, another transaction that
is left open with a write in it. -/
theorem transaction_scope_closed_retried :
    ∃ made last closed : Scopes Nat,
      (opened ⟨0, none, []⟩).run some (.transaction .undefined .proceeds) = some (made, .ok ()) ∧
      exec (useStep some) [.write (· + 1), .call .commit (.refused 5), .call .commit .proceeds,
        .call (.begin .immediate) .proceeds, .write (· + 10)] made = some last ∧
      last.run some (.destroy 0 .proceeds) = some (closed, .ok ()) ∧
      closed.db.autocommit = true ∧ closed.db.stored = 1 := by
  obtain ⟨_, ends⟩ := transaction_scope_closed some 0 [] .undefined .proceeds _ _
    [.write (· + 1), .call .commit (.refused 5), .call .commit .proceeds,
      .call (.begin .immediate) .proceeds, .write (· + 10)] rfl rfl
  obtain ⟨closed, destroyed, kept, _⟩ := ends .proceeds
  obtain ⟨free, stored⟩ := kept fun _ _ same => by cases same
  exact ⟨_, _, closed, rfl, rfl, destroyed, free, stored⟩

end Runs
end Scopes
end VSQLite
