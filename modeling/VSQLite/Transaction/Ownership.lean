import VSQLite.Transaction.Steps

/-!
# Which object a transaction belongs to

Any number of transaction objects share the one transaction a connection can have open.
`commit`, `end` and `rollback` issue their statement whether their object is active or
not, so the flags stay right exactly as long as nobody calls them on an inactive object
while another one's transaction is open.
-/

set_option autoImplicit false

namespace VSQLite
open Lib

/-- What a program does with transaction objects.  `refused` is the code with which SQLite
refuses the statement, if it does. -/
inductive TransactionAction where
  | construct (type : TransactionType) (refused : Option Nat)
  | call (index : Nat) (which : TransactionCall) (refused : Option Nat)
  | destroy (index : Nat) (refused : Option Nat)
deriving DecidableEq, Repr

def verdictOf : Option Nat → Verdict
  | none => .proceeds
  | some code => .refused code

def TransactionAction.toScope (Data : Type) : TransactionAction → ScopeAction Data
  | .construct type refused => .transaction type (verdictOf refused)
  | .call index which refused => .call index which (verdictOf refused)
  | .destroy index refused => .destroy index (verdictOf refused)

theorem verdictOf_rollsBack (refused : Option Nat) : (verdictOf refused).rollsBack = false := by
  cases refused <;> rfl

theorem verdictOf_proceeds_iff (refused : Option Nat) :
    verdictOf refused = .proceeds ↔ refused = none := by
  cases refused <;> simp [verdictOf]

namespace Scopes
section Runs
variable {Data : Type} (readName : Text → Option Text)

def transactionStep (scopes : Scopes Data) (action : TransactionAction) :
    Option (Scopes Data) :=
  scopes.step readName (action.toScope Data)

/-- Exactly the object whose transaction is open says that it is active. -/
def Agrees (scopes : Scopes Data) : Prop :=
  ∀ index transaction, scopes.transactionAt index = some transaction →
    (transaction.isActive = true ↔ scopes.owner = some index)

def AtMostOneActive (scopes : Scopes Data) : Prop :=
  ∀ first second left right, scopes.transactionAt first = some left →
    scopes.transactionAt second = some right →
    left.isActive = true → right.isActive = true → first = second

/-- A call on an object that is not active leaves another object's transaction open and as
it is. -/
def LeavesOthers (scopes : Scopes Data) (action : TransactionAction) : Prop :=
  ∀ index which refused transaction next other,
    action = .call index which refused → scopes.transactionAt index = some transaction →
    transaction.isActive = false → scopes.owner = some other → other ≠ index →
    scopes.transactionStep readName action = some next →
    next.owner = some other ∧ next.db.current = scopes.db.current

/-- No `commit`, `end` or `rollback` on an object that is not active while a transaction is
open, unless SQLite refuses it. -/
def CallsOwn (scopes : Scopes Data) (action : TransactionAction) : Prop :=
  ∀ index which refused transaction,
    action = .call index which refused → scopes.transactionAt index = some transaction →
    which.ending ≠ none → transaction.isActive = false → scopes.db.autocommit = false →
    refused ≠ none

/-- The part of the picture no program can break. -/
structure Tracked (scopes : Scopes Data) : Prop where
  running : scopes.terminated = false
  owned : scopes.owner = none ↔ scopes.db.current = none
  made : ∀ index, scopes.owner = some index → index < scopes.objects.length
  transactions : ∀ (index : Nat) (savepoint : Savepoint),
    scopes.objects[index]? ≠ some (.savepoint savepoint)

/-! ## What one step does -/

def activeAt (index : Nat) (scopes : Scopes Data) : Option Bool :=
  (scopes.transactionAt index).map Transaction.isActive

/-- What a step makes of the open transaction and of the object it concerns. -/
inductive Effect (before after : Scopes Data) (index : Nat) : Prop where
  | begins (free : before.db.current = none) (taken : after.db.current ≠ none)
      (own : after.owner = some index) (active : after.activeAt index = some true)
  | ends (taken : before.db.current ≠ none) (free : after.db.current = none)
      (own : after.owner = none) (inactive : after.activeAt index ≠ some true)
  | keeps (current : after.db.current = before.db.current) (own : after.owner = before.owner)
      (same : after.activeAt index = before.activeAt index ∨ after.activeAt index = none)

/-- A step concerns one object, and leaves all others as they are. -/
structure Shifted (before after : Scopes Data) (index : Nat) : Prop where
  effect : Effect before after index
  others : ∀ other, other ≠ index → after.activeAt other = before.activeAt other
  running : after.terminated = before.terminated
  grows : before.objects.length ≤ after.objects.length
  transactions : ∀ (other : Nat) (savepoint : Savepoint),
    after.objects[other]? = some (.savepoint savepoint) →
      before.objects[other]? = some (.savepoint savepoint)

theorem activeAt_congr (index : Nat) (before after : Scopes Data)
    (same : after.objects[index]? = before.objects[index]?) :
    after.activeAt index = before.activeAt index := by
  unfold activeAt transactionAt
  rw [same]

theorem activeAt_of_getElem? (index : Nat) (scopes : Scopes Data) (transaction : Transaction)
    (found : scopes.objects[index]? = some (.transaction transaction)) :
    scopes.activeAt index = some transaction.isActive := by
  unfold activeAt
  rw [(transactionAt_eq_some index scopes transaction).mpr found]
  rfl

theorem activeAt_destroyed (index : Nat) (scopes : Scopes Data)
    (found : scopes.objects[index]? = some .destroyed) : scopes.activeAt index = none := by
  unfold activeAt transactionAt
  rw [found]
  rfl

theorem lt_of_activeAt (index : Nat) (active : Bool) (scopes : Scopes Data)
    (found : scopes.activeAt index = some active) : index < scopes.objects.length := by
  obtain ⟨transaction, at_, _⟩ := Option.map_eq_some_iff.mp found
  exact (List.getElem?_eq_some_iff.mp ((transactionAt_eq_some index scopes transaction).mp at_)).1

theorem agrees_iff (scopes : Scopes Data) :
    scopes.Agrees ↔ ∀ index active, scopes.activeAt index = some active →
      (active = true ↔ scopes.owner = some index) := by
  constructor
  · intro agrees index active found
    obtain ⟨transaction, at_, rfl⟩ := Option.map_eq_some_iff.mp found
    exact agrees index transaction at_
  · intro agrees index transaction at_
    apply agrees index transaction.isActive
    unfold activeAt
    rw [at_]
    rfl

theorem tracked_of_shifted (before after : Scopes Data) (index : Nat) (tracked : Tracked before)
    (shifted : Shifted before after index) : Tracked after := by
  refine ⟨shifted.running.trans tracked.running, ?_, ?_, ?_⟩
  · cases shifted.effect with
    | begins free taken own active =>
        rw [own]
        exact ⟨fun none => (by cases none), fun none => absurd none taken⟩
    | ends taken free own inactive => exact ⟨fun _ => free, fun _ => own⟩
    | keeps current own same =>
        rw [current, own]
        exact tracked.owned
  · intro owner owns
    cases shifted.effect with
    | begins free taken own active =>
        rw [own] at owns
        cases owns
        exact lt_of_activeAt index true after active
    | ends taken free own inactive =>
        rw [own] at owns
        cases owns
    | keeps current own same =>
        rw [own] at owns
        exact Nat.lt_of_lt_of_le (tracked.made owner owns) shifted.grows
  · intro other savepoint found
    exact tracked.transactions other savepoint (shifted.transactions other savepoint found)

/-- The flags stay right unless the step ends a transaction its object does not own. -/
theorem agrees_of_shifted (before after : Scopes Data) (index : Nat) (tracked : Tracked before)
    (agrees : before.Agrees) (shifted : Shifted before after index)
    (owns : before.db.current ≠ none → after.db.current = none → before.owner = some index) :
    after.Agrees := by
  rw [agrees_iff] at agrees ⊢
  intro other active found
  by_cases here : other = index
  · subst here
    cases shifted.effect with
    | begins free taken own activates =>
        rw [activates] at found
        cases found
        rw [own]
        exact ⟨fun _ => rfl, fun _ => rfl⟩
    | ends taken free own inactive =>
        rw [own]
        refine ⟨fun active => ?_, fun none => (by cases none)⟩
        rw [active] at found
        exact absurd found inactive
    | keeps current own same =>
        rw [own]
        rcases same with same | gone
        · exact agrees other active (same ▸ found)
        · rw [gone] at found
          cases found
  · have old := found
    rw [shifted.others other here] at old
    have agreed := agrees other active old
    cases shifted.effect with
    | begins free taken own activates =>
        rw [tracked.owned.mpr free] at agreed
        rw [own, agreed]
        exact ⟨fun none => (by cases none), fun same => absurd (Option.some.inj same).symm here⟩
    | ends taken free own inactive =>
        rw [owns taken free] at agreed
        rw [own, agreed]
        exact ⟨fun same => absurd (Option.some.inj same).symm here, fun none => (by cases none)⟩
    | keeps current own same =>
        rw [own]
        exact agreed

theorem failed_current_verdictOf (sql : Text) (refused : Option Nat) (db : Database Data) :
    (db.failed sql (verdictOf refused)).current = db.current := by
  simp [Database.failed, verdictOf_rollsBack]

theorem shifted_set (scopes : Scopes Data) (index : Nat) (db : Database Data)
    (object : ScopeObject) (other : ∀ savepoint, object ≠ .savepoint savepoint)
    (effect : Effect scopes (scopes.settle index db (scopes.objects.set index object)) index) :
    Shifted scopes (scopes.settle index db (scopes.objects.set index object)) index := by
  refine ⟨effect, fun second different => ?_, rfl, ?_, fun second savepoint found => ?_⟩
  · apply activeAt_congr
    exact List.getElem?_set_ne (Ne.symm different)
  · exact Nat.le_of_eq (List.length_set ..).symm
  · by_cases here : index = second
    · subst here
      have inside : index < scopes.objects.length := by
        have := (List.getElem?_eq_some_iff.mp found).1
        rwa [settle, List.length_set] at this
      rw [settle, List.getElem?_set_self inside] at found
      exact absurd (Option.some.inj found) (other savepoint)
    · rwa [settle, List.getElem?_set_ne here] at found

theorem shifted_append (scopes : Scopes Data) (db : Database Data) (transaction : Transaction)
    (effect : Effect scopes (scopes.settle scopes.objects.length db
      (scopes.objects ++ [.transaction transaction])) scopes.objects.length) :
    Shifted scopes (scopes.settle scopes.objects.length db
      (scopes.objects ++ [.transaction transaction])) scopes.objects.length := by
  refine ⟨effect, fun second different => ?_, rfl, ?_, fun second savepoint found => ?_⟩
  · apply activeAt_congr
    rcases Nat.lt_or_gt_of_ne different with before | after
    · exact List.getElem?_append_left before
    · rw [settle, List.getElem?_eq_none (by simp; omega), List.getElem?_eq_none (by omega)]
  · simp [settle]
  · by_cases last : second = scopes.objects.length
    · subst last
      rw [settle, List.getElem?_concat_length] at found
      cases found
    · rw [settle] at found
      rcases Nat.lt_or_gt_of_ne last with before | after
      · rwa [List.getElem?_append_left before] at found
      · rw [List.getElem?_eq_none (by simp; omega)] at found
        cases found

theorem construct_shifted (scopes next : Scopes Data) (type : TransactionType)
    (refused : Option Nat) (tracked : Tracked scopes)
    (enabled : scopes.transactionStep readName (.construct type refused) = some next) :
    Shifted scopes next scopes.objects.length ∧
      (scopes.db.current ≠ none → next.db.current ≠ none) := by
  obtain ⟨outcome, run⟩ := step_eq_some readName scopes next _ enabled
  rcases run_transaction readName scopes next type _ outcome run
    with ⟨_, free, _, rfl⟩ | ⟨_, rfl⟩
  · refine ⟨shifted_append scopes _ _ ?_, fun taken => absurd free taken⟩
    apply Effect.begins free
    · exact fun none => by cases none
    · exact settle_owner_begun _ _ _ scopes free fun none => by cases none
    · exact activeAt_of_getElem? _ _ ⟨true, false⟩ List.getElem?_concat_length
  · have same := failed_current_verdictOf (Transaction.beginSql type) refused scopes.db
    refine ⟨⟨?_, fun other _ => rfl, rfl, Nat.le_refl _, fun _ _ found => found⟩, fun taken => ?_⟩
    · exact Effect.keeps same (settle_owner_kept _ _ _ scopes tracked.owned.mpr same) (Or.inl rfl)
    · exact fun none => taken (same ▸ none)

theorem destroy_shifted (scopes next : Scopes Data) (index : Nat) (refused : Option Nat)
    (tracked : Tracked scopes)
    (enabled : scopes.transactionStep readName (.destroy index refused) = some next) :
    Shifted scopes next index ∧
      (scopes.db.current ≠ none → next.db.current = none →
        scopes.activeAt index = some true) := by
  obtain ⟨outcome, run⟩ := step_eq_some readName scopes next _ enabled
  cases found : scopes.objects[index]? with
  | none =>
      simp only [TransactionAction.toScope, Scopes.run, tracked.running, found] at run
      cases run
  | some object =>
      cases object with
      | savepoint savepoint => exact absurd found (tracked.transactions index savepoint)
      | destroyed =>
          simp only [TransactionAction.toScope, Scopes.run, tracked.running, found] at run
          cases run
      | transaction transaction =>
          obtain ⟨_, rfl⟩ := run_destroy_transaction readName scopes next index _ outcome
            transaction found run
          have gone : (scopes.objects.set index .destroyed)[index]? = some .destroyed :=
            List.getElem?_set_self (List.getElem?_eq_some_iff.mp found).1
          have active := activeAt_of_getElem? index scopes transaction found
          rcases transaction.destroy_cases readName (verdictOf refused) scopes.db
            with ⟨_, idle⟩ | ⟨isActive, _, ⟨_, taken, ended⟩ | ⟨_, failed⟩⟩
          · rw [idle]
            refine ⟨shifted_set scopes index _ _ (fun _ same => by cases same) ?_,
              fun taken free => absurd free taken⟩
            exact Effect.keeps rfl (settle_owner_kept _ _ _ scopes tracked.owned.mpr rfl)
              (Or.inr (activeAt_destroyed index _ gone))
          · rw [ended]
            refine ⟨shifted_set scopes index _ _ (fun _ same => by cases same) ?_,
              fun _ _ => active.trans (congrArg some isActive)⟩
            apply Effect.ends taken rfl (settle_owner_free _ _ _ scopes rfl)
            rw [activeAt_destroyed index _ gone]
            exact fun none => by cases none
          · rw [failed]
            have same := failed_current_verdictOf Transaction.rollbackSql refused scopes.db
            refine ⟨shifted_set scopes index _ _ (fun _ same => by cases same) ?_,
              fun taken free => absurd (same ▸ free) taken⟩
            exact Effect.keeps same (settle_owner_kept _ _ _ scopes tracked.owned.mpr same)
              (Or.inr (activeAt_destroyed index _ gone))

/-- A call ends the open transaction exactly when it is one of those that do and SQLite does
not refuse it, whoever the transaction belongs to. -/
theorem call_shifted (scopes next : Scopes Data) (index : Nat) (which : TransactionCall)
    (refused : Option Nat) (tracked : Tracked scopes)
    (enabled : scopes.transactionStep readName (.call index which refused) = some next) :
    ∃ transaction, scopes.objects[index]? = some (.transaction transaction) ∧
      Shifted scopes next index ∧
      (scopes.db.current ≠ none →
        (next.db.current = none ↔ which.ending ≠ none ∧ refused = none) ∧
        (next.db.current ≠ none →
          next.db.current = scopes.db.current ∧ next.owner = scopes.owner)) := by
  obtain ⟨outcome, run⟩ := step_eq_some readName scopes next _ enabled
  obtain ⟨transaction, found, _, rfl⟩ := run_call readName scopes next index which _ outcome run
  refine ⟨transaction, found, ?_⟩
  have inside := (List.getElem?_eq_some_iff.mp found).1
  have before := activeAt_of_getElem? index scopes transaction found
  rcases which.run_cases readName (verdictOf refused) scopes.db transaction
    with ⟨type, _, _, free, result⟩ | ⟨keeps, opened, sql, ends, proceeds, taken, result⟩ |
      ⟨sql, thrown, after, stuck, same, _, result⟩
  · rw [result]
    refine ⟨shifted_set scopes index _ _ (fun _ same => by cases same) ?_,
      fun taken => absurd free taken⟩
    apply Effect.begins free
    · exact fun none => by cases none
    · exact settle_owner_begun _ _ _ scopes free fun none => by cases none
    · exact activeAt_of_getElem? index _ { transaction with isActive := true }
        (List.getElem?_set_self inside)
  · rw [result]
    refine ⟨shifted_set scopes index _ _ (fun _ same => by cases same) ?_, fun _ => ⟨?_, ?_⟩⟩
    · apply Effect.ends (by rw [taken]; exact Option.some_ne_none opened) rfl
        (settle_owner_free _ _ _ scopes rfl)
      rw [activeAt_of_getElem? index _ ⟨false, false⟩ (List.getElem?_set_self inside)]
      exact fun same => by cases same
    · refine ⟨fun _ => ⟨?_, (verdictOf_proceeds_iff refused).mp proceeds⟩, fun _ => rfl⟩
      rw [ends]
      exact Option.some_ne_none keeps
    · exact fun some => absurd rfl some
  · rw [result]
    have current := failed_current_verdictOf sql refused scopes.db
    have owner := settle_owner_kept index _ (scopes.objects.set index (.transaction after)) scopes
      tracked.owned.mpr current
    refine ⟨shifted_set scopes index _ _ (fun _ same => by cases same) ?_,
      fun taken => ⟨⟨fun free => absurd (current ▸ free) taken, fun ⟨ends, notRefused⟩ => ?_⟩,
        fun _ => ⟨current, owner⟩⟩⟩
    · refine Effect.keeps current owner (Or.inl ?_)
      rw [activeAt_of_getElem? index _ after (List.getElem?_set_self inside), before, same]
    · have free := (stuck ((verdictOf_proceeds_iff refused).mpr notRefused)).mpr
        (Option.isSome_iff_ne_none.mpr ends)
      exact absurd free taken

theorem tracked_step (scopes : Scopes Data) (action : TransactionAction) (next : Scopes Data)
    (tracked : Tracked scopes) (enabled : scopes.transactionStep readName action = some next) :
    Tracked next := by
  cases action with
  | construct type refused =>
      exact tracked_of_shifted _ _ _ tracked
        (construct_shifted readName scopes next type refused tracked enabled).1
  | destroy index refused =>
      exact tracked_of_shifted _ _ _ tracked
        (destroy_shifted readName scopes next index refused tracked enabled).1
  | call index which refused =>
      obtain ⟨_, _, shifted, _⟩ :=
        call_shifted readName scopes next index which refused tracked enabled
      exact tracked_of_shifted _ _ _ tracked shifted

theorem Tracked.taken {scopes : Scopes Data} (tracked : Tracked scopes) (index : Nat)
    (owner : scopes.owner = some index) : scopes.db.current ≠ none := by
  intro free
  rw [tracked.owned.mpr free] at owner
  cases owner

theorem callsOwn_of_leavesOthers (scopes next : Scopes Data) (index : Nat)
    (which : TransactionCall) (refused : Option Nat) (tracked : Tracked scopes)
    (agrees : scopes.Agrees)
    (enabled : scopes.transactionStep readName (.call index which refused) = some next)
    (leaves : scopes.LeavesOthers readName (.call index which refused)) :
    scopes.CallsOwn (.call index which refused) := by
  intro _ _ _ transaction same here ending inactive taken notRefused
  cases same
  obtain ⟨_, _, _, ends⟩ :=
    call_shifted readName scopes next index which refused tracked enabled
  -- the transaction that is open belongs to somebody else
  cases owner : scopes.owner with
  | none => simp [Database.autocommit, tracked.owned.mp owner] at taken
  | some other =>
      have different : other ≠ index := by
        rintro rfl
        rw [(agrees other transaction here).mpr owner] at inactive
        cases inactive
      have current := tracked.taken other owner
      obtain ⟨_, kept⟩ := leaves index which refused transaction next other rfl here inactive
        owner different enabled
      have free := (ends current).1.mpr ⟨ending, notRefused⟩
      exact current (kept ▸ free)

theorem ends_active (scopes next : Scopes Data) (index : Nat) (which : TransactionCall)
    (refused : Option Nat) (transaction : Transaction)
    (here : scopes.transactionAt index = some transaction)
    (own : scopes.CallsOwn (.call index which refused)) (taken : scopes.db.current ≠ none)
    (ends : next.db.current = none ↔ which.ending ≠ none ∧ refused = none)
    (free : next.db.current = none) : transaction.isActive = true := by
  obtain ⟨ending, notRefused⟩ := ends.mp free
  cases active : transaction.isActive with
  | true => rfl
  | false =>
      have open_ : scopes.db.autocommit = false := by
        simpa [Database.autocommit, Option.isSome_iff_ne_none] using taken
      exact absurd notRefused (own index which refused transaction rfl here ending active open_)

theorem agrees_call (scopes next : Scopes Data) (index : Nat) (which : TransactionCall)
    (refused : Option Nat) (tracked : Tracked scopes) (agrees : scopes.Agrees)
    (enabled : scopes.transactionStep readName (.call index which refused) = some next)
    (own : scopes.CallsOwn (.call index which refused)) :
    next.Agrees ∧ scopes.LeavesOthers readName (.call index which refused) := by
  obtain ⟨transaction, found, shifted, ends⟩ :=
    call_shifted readName scopes next index which refused tracked enabled
  have here := (transactionAt_eq_some index scopes transaction).mpr found
  have active := fun taken => ends_active scopes next index which refused transaction here own
    taken (ends taken).1
  refine ⟨agrees_of_shifted scopes next index tracked agrees shifted
    fun taken free => (agrees index transaction here).mp (active taken free), ?_⟩
  intro _ _ _ _ after other same at_ inactive owner different step
  cases same
  cases at_.symm.trans here
  cases step.symm.trans enabled
  have taken := tracked.taken other owner
  have still : next.db.current ≠ none := by
    intro free
    rw [active taken free] at inactive
    cases inactive
  obtain ⟨current, sameOwner⟩ := (ends taken).2 still
  exact ⟨sameOwner.trans owner, current⟩

theorem agrees_step_iff (scopes : Scopes Data) (action : TransactionAction) (next : Scopes Data)
    (tracked : Tracked scopes) (agrees : scopes.Agrees)
    (enabled : scopes.transactionStep readName action = some next) :
    (next.Agrees ∧ scopes.LeavesOthers readName action) ↔ scopes.CallsOwn action := by
  cases action with
  | construct type refused =>
      obtain ⟨shifted, open_⟩ := construct_shifted readName scopes next type refused tracked enabled
      have nextAgrees := agrees_of_shifted scopes next _ tracked agrees shifted
        fun taken free => absurd free (open_ taken)
      exact ⟨fun _ _ _ _ _ same => (by cases same),
        fun _ => ⟨nextAgrees, fun _ _ _ _ _ _ same => (by cases same)⟩⟩
  | destroy index refused =>
      obtain ⟨shifted, owned⟩ := destroy_shifted readName scopes next index refused tracked enabled
      have nextAgrees := agrees_of_shifted scopes next _ tracked agrees shifted
        fun taken free => ((agrees_iff scopes).mp agrees index true (owned taken free)).mp rfl
      exact ⟨fun _ _ _ _ _ same => (by cases same),
        fun _ => ⟨nextAgrees, fun _ _ _ _ _ _ same => (by cases same)⟩⟩
  | call index which refused =>
      constructor
      · rintro ⟨_, leaves⟩
        exact callsOwn_of_leavesOthers readName scopes next index which refused tracked agrees
          enabled leaves
      · exact agrees_call readName scopes next index which refused tracked agrees enabled

theorem atMostOneActive_of_agrees (scopes : Scopes Data) (agrees : scopes.Agrees) :
    scopes.AtMostOneActive := by
  intro first second left right atFirst atSecond leftActive rightActive
  have owner := (agrees first left atFirst).mp leftActive
  rw [(agrees second right atSecond).mp rightActive] at owner
  exact (Option.some.inj owner).symm

theorem tracked_opened (content : Data) (issued : List Text) :
    Tracked (opened ⟨content, none, issued⟩) :=
  ⟨rfl, ⟨fun _ => rfl, fun _ => rfl⟩, fun _ none => (by cases none),
    fun _ _ found => (by cases found)⟩

/-- All along a run at most one object is active, it is the one whose transaction is open,
and calls on the others leave that transaction alone, exactly if `commit`, `end` and
`rollback` are called on active objects only while a transaction is open. -/
theorem transactions_owned_iff (content : Data) (issued : List Text)
    (actions : List TransactionAction) :
    (EveryState (transactionStep readName) (fun scopes => scopes.AtMostOneActive ∧ scopes.Agrees)
        actions (opened ⟨content, none, issued⟩) ∧
      EveryStep (transactionStep readName) (fun scopes action =>
        scopes.LeavesOthers readName action) actions (opened ⟨content, none, issued⟩)) ↔
      EveryStep (transactionStep readName) CallsOwn actions
        (opened ⟨content, none, issued⟩) := by
  apply everyState_and_everyStep_iff (transactionStep readName) Tracked
  · exact fun scopes action next tracked enabled =>
      tracked_step readName scopes action next tracked enabled
  · intro scopes action next tracked good enabled
    rw [← agrees_step_iff readName scopes action next tracked good.2 enabled]
    exact ⟨fun ⟨both, leaves⟩ => ⟨both.2, leaves⟩,
      fun ⟨agrees, leaves⟩ => ⟨⟨atMostOneActive_of_agrees next agrees, agrees⟩, leaves⟩⟩
  · exact tracked_opened content issued
  · have none : (opened ⟨content, none, issued⟩ : Scopes Data).Agrees :=
      fun _ _ found => by cases found
    exact ⟨atMostOneActive_of_agrees _ none, none⟩

/-- `a` has committed, then `b` begins, then `a.rollback()` rolls back what `b` began. -/
theorem finished_object_ends_another :
    ¬(EveryState (transactionStep some)
        (fun scopes : Scopes Unit => scopes.AtMostOneActive ∧ scopes.Agrees)
        [.construct .undefined none, .call 0 .commit none, .construct .undefined none,
          .call 0 .rollback none] (opened ⟨(), none, []⟩) ∧
      EveryStep (transactionStep some)
        (fun scopes action => scopes.LeavesOthers some action)
        [.construct .undefined none, .call 0 .commit none, .construct .undefined none,
          .call 0 .rollback none] (opened ⟨(), none, []⟩)) := by
  rintro ⟨states, _⟩
  obtain ⟨_, agrees⟩ := everyState_final _ _ _ _ _ states rfl
  have owner := (agrees 1 ⟨true, false⟩ rfl).mp rfl
  cases owner

end Runs
end Scopes
end VSQLite
