import VSQLite.Transaction.Nesting

/-!
# The promises of nested savepoint objects

Which calls of a program keep their promises: what one call comes to, that the stack of
savepoints stays that of their owners, and from both whole programs.
-/

set_option autoImplicit false

namespace VSQLite
open Lib

namespace Nesting
section Runs
variable {Data : Type} (readName : Text → Option Text)

/-! ## One action at a time -/

theorem run_eq_some (nesting next : Nesting Data) (action : ScopeAction Data)
    (outcome : Except Exception Unit)
    (run : nesting.run readName action = some (next, outcome)) :
    nests nesting.scopes action = true ∧ ∃ after,
      nesting.scopes.run readName action = some (after, outcome) ∧
      next = nesting.record readName action after outcome := by
  unfold Nesting.run at run
  split at run
  · rename_i allowed
    obtain ⟨⟨after, result⟩, ran, same⟩ := Option.map_eq_some_iff.mp run
    cases same
    exact ⟨allowed, after, ran, rfl⟩
  · cases run

/-- A statement leaves these savepoints, and the object it was issued for as this one. -/
def Leaves (before : Nesting Data) (index : Nat) (db : Database Data) (object : ScopeObject)
    (after : Nesting Data) : Prop :=
  after.scopes.db = db ∧ after.scopes.objects = before.scopes.objects.set index object ∧
    after.owners = before.kept db ∧ after.births = before.births

theorem run_call (nesting next : Nesting Data) (index : Nat) (call : SavepointCall)
    (verdict : Verdict) (outcome : Except Exception Unit)
    (run : nesting.run readName (.callSavepoint index call verdict) = some (next, outcome)) :
    ∃ savepoint, nesting.scopes.objects[index]? = some (.savepoint savepoint) ∧
      outcome = (call.run readName verdict nesting.scopes.db savepoint).2.2 ∧
      nesting.Leaves index (call.run readName verdict nesting.scopes.db savepoint).1
        (.savepoint (call.run readName verdict nesting.scopes.db savepoint).2.1) next := by
  obtain ⟨_, after, ran, rfl⟩ := run_eq_some readName nesting next _ outcome run
  obtain ⟨savepoint, found, came, rfl⟩ :=
    Scopes.run_callSavepoint readName nesting.scopes after index call verdict outcome ran
  exact ⟨savepoint, found, came, rfl, rfl, rfl, rfl⟩

theorem run_destroy (nesting next : Nesting Data) (aligned : nesting.Aligned readName)
    (index : Nat) (verdict : Verdict) (outcome : Except Exception Unit)
    (run : nesting.run readName (.destroy index verdict) = some (next, outcome)) :
    ∃ savepoint, nesting.scopes.objects[index]? = some (.savepoint savepoint) ∧
      outcome = (savepoint.destroy readName verdict nesting.scopes.db).2 ∧
      nesting.Leaves index (savepoint.destroy readName verdict nesting.scopes.db).1 .destroyed
        next := by
  obtain ⟨_, after, ran, rfl⟩ := run_eq_some readName nesting next _ outcome run
  have here : ∃ savepoint, nesting.scopes.objects[index]? = some (.savepoint savepoint) := by
    cases found : nesting.scopes.objects[index]? with
    | none => simp [Scopes.run, found] at ran
    | some object =>
        cases object with
        | destroyed => simp [Scopes.run, found] at ran
        | transaction transaction => exact absurd found (aligned.plain index transaction)
        | savepoint savepoint => exact ⟨savepoint, rfl⟩
  obtain ⟨savepoint, found⟩ := here
  obtain ⟨came, db, objects⟩ := Scopes.run_destroy_savepoint readName nesting.scopes after index
    verdict outcome savepoint found ran
  refine ⟨savepoint, found, came, db, objects, ?_, rfl⟩
  rw [← db]
  rfl

/-! ## What each call promises, and what it comes to -/

theorem rollback_keeps_iff (nesting next : Nesting Data) (aligned : nesting.Aligned readName)
    (index : Nat) (verdict : Verdict) (outcome : Except Exception Unit)
    (run : nesting.run readName (.callSavepoint index .rollback verdict) = some (next, outcome)) :
    nesting.KeepsPromise readName (.callSavepoint index .rollback verdict) ↔
      nesting.FindsOwn (.callSavepoint index .rollback verdict) := by
  obtain ⟨savepoint, found, came, db, _⟩ :=
    run_call readName nesting next index .rollback verdict outcome run
  rw [SavepointCall.run] at came db
  rcases rollback_target readName nesting aligned index savepoint verdict found with
    ⟨owner, after, proceeds, target, content, _, result⟩ | ⟨thrown, after, refused, _, result⟩
  · rw [result] at came db
    have agree : nesting.contentAt index = some next.scopes.db.visible ↔
        nesting.contentAt owner = nesting.contentAt index := by
      rw [db, content]
      exact eq_comm
    constructor
    · intro promise _ isOpen other found_
      cases target.symm.trans found_
      exact agree.mp ((promise next outcome run isOpen).2 came)
    · intro finds after outcome again isOpen
      cases run.symm.trans again
      exact ⟨fun _ => came, fun _ => agree.mpr (finds proceeds isOpen owner target)⟩
  · rw [result] at came
    constructor
    · intro _ proceeds isOpen owner found_
      cases (refused proceeds).symm.trans found_
    · intro _ after outcome again isOpen
      cases run.symm.trans again
      refine ⟨fun proceeds => absurd (refused proceeds) (target_of_owner nesting index isOpen), ?_⟩
      intro returned
      cases came.symm.trans returned

theorem release_promise_iff (nesting next : Nesting Data) (aligned : nesting.Aligned readName)
    (index : Nat) (savepoint : Savepoint) (verdict : Verdict) (outcome : Except Exception Unit)
    (found : nesting.scopes.objects[index]? = some (.savepoint savepoint))
    (came : outcome = (savepoint.release readName verdict nesting.scopes.db).2.2)
    (owners : next.owners =
      nesting.kept (savepoint.release readName verdict nesting.scopes.db).1) :
    ((index ∈ nesting.owners → verdict = .proceeds → outcome = .ok ()) ∧
      (outcome = .ok () → index ∈ nesting.owners ∧ nesting.Ends index next)) ↔
      (verdict = .proceeds → ∀ owner, nesting.target index = some owner → owner = index) := by
  rcases release_target readName nesting aligned index savepoint verdict found with
    ⟨above, owner, below, after, proceeds, target, split, kept, _, result⟩ |
    ⟨thrown, after, refused, _, result⟩
  · rw [result] at came owners
    have own := ends_iff nesting next above below owner index aligned.ordered split
      (owners.trans kept)
    constructor
    · rintro ⟨_, ends⟩ _ other found_
      cases target.symm.trans found_
      exact own.mp (ends came)
    · intro finds
      exact ⟨fun _ _ => came, fun _ => own.mpr (finds proceeds owner target)⟩
  · rw [result] at came
    constructor
    · intro _ proceeds owner found_
      cases (refused proceeds).symm.trans found_
    · intro _
      refine ⟨fun isOpen proceeds => ?_, fun returned => ?_⟩
      · exact absurd (refused proceeds) (target_of_owner nesting index isOpen)
      · cases came.symm.trans returned

theorem release_keeps_iff (nesting next : Nesting Data) (aligned : nesting.Aligned readName)
    (index : Nat) (verdict : Verdict) (outcome : Except Exception Unit)
    (run : nesting.run readName (.callSavepoint index .release verdict) = some (next, outcome)) :
    nesting.KeepsPromise readName (.callSavepoint index .release verdict) ↔
      nesting.FindsOwn (.callSavepoint index .release verdict) := by
  obtain ⟨savepoint, found, came, _, _, owners, _⟩ :=
    run_call readName nesting next index .release verdict outcome run
  rw [SavepointCall.run] at came owners
  have promise := release_promise_iff readName nesting next aligned index savepoint verdict outcome
    found came owners
  constructor
  · intro keeps
    exact promise.mp (keeps next outcome run)
  · intro finds after outcome again
    cases run.symm.trans again
    exact promise.mpr finds

theorem destroy_keeps_iff (nesting next : Nesting Data) (aligned : nesting.Aligned readName)
    (index : Nat) (verdict : Verdict) (outcome : Except Exception Unit)
    (run : nesting.run readName (.destroy index verdict) = some (next, outcome)) :
    nesting.KeepsPromise readName (.destroy index verdict) ↔
      nesting.FindsOwn (.destroy index verdict) := by
  obtain ⟨savepoint, found, came, _, _, owners, _⟩ :=
    run_destroy readName nesting next aligned index verdict outcome run
  have here := (Scopes.savepointAt_eq_some index nesting.scopes savepoint).mpr found
  cases active : savepoint.isActive with
  | false =>
      have nothing : savepoint.destroy readName verdict nesting.scopes.db =
          (nesting.scopes.db, .ok ()) := by
        rw [Savepoint.destroy, active]
        rfl
      rw [nothing] at came owners
      refine iff_of_true ?_ ?_
      · intro after outcome again
        cases run.symm.trans again
        have same : next.owners = nesting.owners := by
          rw [owners]
          exact kept_of_split nesting [] nesting.owners nesting.scopes.db rfl
            (by simpa using (congrArg List.length aligned.stack).symm)
        refine ⟨fun _ _ => came, fun _ => ⟨⟨?_, ?_⟩, ?_⟩⟩
        · rw [same]
          exact aligned.ended index savepoint found active
        · intro other member _
          rwa [same]
        · intro other at_ isActive
          cases here.symm.trans at_
          cases active.symm.trans isActive
      · intro other at_ isActive
        cases here.symm.trans at_
        cases active.symm.trans isActive
  | true =>
      have releases : savepoint.destroy readName verdict nesting.scopes.db =
          ((savepoint.release readName verdict nesting.scopes.db).1,
            (savepoint.release readName verdict nesting.scopes.db).2.2) := by
        rw [Savepoint.destroy, if_pos active]
      rw [releases] at came owners
      have promise := release_promise_iff readName nesting next aligned index savepoint verdict
        outcome found came owners
      constructor
      · intro keeps other at_ _
        cases here.symm.trans at_
        obtain ⟨returns, ends⟩ := keeps next outcome run
        exact promise.mp
          ⟨returns, fun returned => ⟨(ends returned).2 savepoint here active, (ends returned).1⟩⟩
      · intro finds after outcome again
        cases run.symm.trans again
        obtain ⟨returns, ends⟩ := promise.mpr (finds savepoint here active)
        exact ⟨returns, fun returned => ⟨(ends returned).2, fun _ _ _ => (ends returned).1⟩⟩

theorem keepsPromise_iff (nesting next : Nesting Data) (action : ScopeAction Data)
    (aligned : nesting.Aligned readName) (enabled : nesting.step readName action = some next) :
    nesting.KeepsPromise readName action ↔ nesting.FindsOwn action := by
  obtain ⟨⟨same, outcome⟩, run, rfl⟩ := Option.map_eq_some_iff.mp enabled
  cases action with
  | transaction type verdict => exact iff_of_true (fun _ _ _ => trivial) trivial
  | savepoint name verdict => exact iff_of_true (fun _ _ _ => trivial) trivial
  | call index call verdict => exact iff_of_true (fun _ _ _ => trivial) trivial
  | write change => exact iff_of_true (fun _ _ _ => trivial) trivial
  | destroy index verdict =>
      exact destroy_keeps_iff readName nesting same aligned index verdict outcome run
  | callSavepoint index call verdict =>
      cases call with
      | release => exact release_keeps_iff readName nesting same aligned index verdict outcome run
      | rollback =>
          exact rollback_keeps_iff readName nesting same aligned index verdict outcome run

/-! ## Whole programs -/

/-- What an object's statement leaves stays aligned, as far as the object ended its own
savepoint when it became inactive. -/
theorem Leaves.aligned {nesting next : Nesting Data} {index : Nat} {db : Database Data}
    {object : ScopeObject} (leaves : nesting.Leaves index db object next)
    (aligned : nesting.Aligned readName) (suffix : db.marks <:+ nesting.scopes.db.marks)
    (plain : ∀ transaction, object ≠ .transaction transaction)
    (follows : ∀ savepoint, object = .savepoint savepoint → ∃ earlier : Savepoint,
      nesting.scopes.objects[index]? = some (.savepoint earlier) ∧
      savepoint.name = earlier.name ∧
      (savepoint.isActive = false → earlier.isActive = false ∨ index ∉ nesting.kept db)) :
    next.Aligned readName := by
  obtain ⟨here, objects, owners, births⟩ := leaves
  have fewer : nesting.kept db <:+ nesting.owners := List.drop_suffix _ _
  have at_ (other : Nat) (found : ScopeObject) (here : next.scopes.objects[other]? = some found) :
      nesting.scopes.objects[other]? = some found ∨ other = index ∧ found = object := by
    rw [objects, List.getElem?_set] at here
    split at here
    · rename_i same
      split at here
      · exact Or.inr ⟨same.symm, (Option.some.inj here).symm⟩
      · cases here
    · exact Or.inl here
  constructor
  · rw [here, owners, births]
    exact aligned.stack.drop suffix
  · rw [owners]
    exact aligned.ordered.sublist fewer.sublist
  · rw [births, objects, List.length_set]
    exact aligned.born
  · intro other transaction found
    rcases at_ other _ found with before | ⟨_, same⟩
    · exact aligned.plain other transaction before
    · exact plain transaction same.symm
  · intro other savepoint found
    rw [births]
    rcases at_ other _ found with before | ⟨rfl, same⟩
    · exact aligned.named other savepoint before
    · obtain ⟨earlier, before, name, _⟩ := follows savepoint same.symm
      rw [name]
      exact aligned.named other earlier before
  · intro other savepoint found inactive isOpen
    rw [owners] at isOpen
    rcases at_ other _ found with before | ⟨rfl, same⟩
    · exact aligned.ended other savepoint before inactive (fewer.subset isOpen)
    · obtain ⟨earlier, before, _, ends⟩ := follows savepoint same.symm
      rcases ends inactive with already | gone
      · exact aligned.ended other earlier before already (fewer.subset isOpen)
      · exact gone isOpen

theorem leaves_untouched (nesting next : Nesting Data) (db : Database Data)
    (here : next.scopes.db = db) (objects : next.scopes.objects = nesting.scopes.objects)
    (owners : next.owners = nesting.kept db) (births : next.births = nesting.births) :
    nesting.Leaves nesting.scopes.objects.length db .destroyed next :=
  ⟨here, by rw [objects, List.set_eq_of_length_le (Nat.le_refl _)], owners, births⟩

theorem marks_write (change : Data → Data) (db : Database Data) :
    (db.write change).marks = db.marks := by
  unfold Database.write Database.marks
  cases db.current with
  | none => rfl
  | some transaction => rfl

theorem Aligned.push {nesting next : Nesting Data} (aligned : nesting.Aligned readName)
    (birth : Mark Data) (made : Savepoint) (active : made.isActive = true)
    (named : readName made.name = some birth.name)
    (marks : next.scopes.db.marks = birth :: nesting.scopes.db.marks)
    (objects : next.scopes.objects = nesting.scopes.objects ++ [.savepoint made])
    (owners : next.owners = nesting.scopes.objects.length :: nesting.owners)
    (births : next.births = nesting.births ++ [birth]) : next.Aligned readName := by
  have below (other : Nat) (member : other ∈ nesting.owners) :
      other < nesting.scopes.objects.length :=
    aligned.born ▸ aligned.stack.birth other member
  have at_ (other : Nat) (found : ScopeObject) (here : next.scopes.objects[other]? = some found) :
      nesting.scopes.objects[other]? = some found ∨
        other = nesting.scopes.objects.length ∧ found = .savepoint made := by
    rw [objects] at here
    rcases Nat.lt_or_ge other nesting.scopes.objects.length with less | least
    · exact Or.inl (List.getElem?_append_left less ▸ here)
    · rw [List.getElem?_append_right least] at here
      obtain ⟨inside, same⟩ := List.getElem?_eq_some_iff.mp here
      rw [List.length_singleton] at inside
      exact Or.inr ⟨by omega, by simpa using same.symm⟩
  constructor
  · rw [marks, owners, births, ← aligned.born]
    exact aligned.stack.push birth
  · rw [owners]
    exact List.pairwise_cons.mpr ⟨below, aligned.ordered⟩
  · rw [births, objects, List.length_append, List.length_append, aligned.born]
    rfl
  · intro other transaction found
    rcases at_ other _ found with before | ⟨_, same⟩
    · exact aligned.plain other transaction before
    · cases same
  · intro other savepoint found
    rw [births]
    rcases at_ other _ found with before | ⟨rfl, same⟩
    · obtain ⟨earlier, born, read⟩ := aligned.named other savepoint before
      have inside := (List.getElem?_eq_some_iff.mp born).1
      exact ⟨earlier, (List.getElem?_append_left inside).trans born, read⟩
    · cases same
      exact ⟨birth, by rw [← aligned.born]; simp, named⟩
  · intro other savepoint found inactive isOpen
    rw [owners] at isOpen
    rcases at_ other _ found with before | ⟨rfl, same⟩
    · rcases List.mem_cons.mp isOpen with newest | earlier
      · have inside := (List.getElem?_eq_some_iff.mp before).1
        exact absurd newest (Nat.ne_of_lt inside)
      · exact aligned.ended other savepoint before inactive earlier
    · cases same
      cases active.symm.trans inactive

theorem aligned_construct (nesting next : Nesting Data) (name : Text) (verdict : Verdict)
    (outcome : Except Exception Unit) (aligned : nesting.Aligned readName)
    (run : nesting.run readName (.savepoint name verdict) = some (next, outcome)) :
    next.Aligned readName := by
  obtain ⟨_, after, ran, recorded⟩ := run_eq_some readName nesting next _ outcome run
  rcases Scopes.run_savepoint readName nesting.scopes after name verdict outcome ran with
    ⟨db, made, result, rfl, rfl⟩ | ⟨db, thrown, result, rfl, rfl⟩
  · rcases Savepoint.construct_cases readName name verdict nesting.scopes.db with
      ⟨folded, entered, read, _, constructed, _, _, pushed⟩ | ⟨_, _, _, _, constructed⟩
    · cases constructed.symm.trans result
      have sizes : nesting.owners.length = nesting.scopes.db.marks.length := by
        simpa using (congrArg List.length aligned.stack).symm
      have all : nesting.kept db = nesting.owners := by
        unfold kept
        rw [pushed, List.length_cons, sizes, Nat.sub_eq_zero_of_le (Nat.le_succ _), List.drop_zero]
      refine aligned.push readName ⟨folded, nesting.scopes.db.visible⟩ ⟨name, true⟩ rfl read
        ?_ ?_ ?_ ?_
      · rw [recorded]
        exact pushed
      · rw [recorded]
        rfl
      · rw [recorded, ← all]
        rfl
      · rw [recorded, record, read]
        rfl
    · cases constructed.symm.trans result
  · rcases Savepoint.construct_cases readName name verdict nesting.scopes.db with
      ⟨_, _, _, _, constructed, _⟩ | ⟨_, _, _, spared, constructed⟩
    · cases constructed.symm.trans result
    · cases constructed.symm.trans result
      have leaves : nesting.Leaves nesting.scopes.objects.length db .destroyed next := by
        rw [recorded]
        exact leaves_untouched nesting _ db rfl rfl rfl rfl
      exact leaves.aligned readName aligned (marks_of_spared spared) nofun nofun

theorem release_suffix (nesting : Nesting Data) (aligned : nesting.Aligned readName)
    (index : Nat) (savepoint : Savepoint) (verdict : Verdict)
    (found : nesting.scopes.objects[index]? = some (.savepoint savepoint)) :
    (savepoint.release readName verdict nesting.scopes.db).1.marks <:+
      nesting.scopes.db.marks := by
  rcases release_target readName nesting aligned index savepoint verdict found with
    ⟨_, _, _, _, _, _, _, _, suffix, result⟩ | ⟨_, _, _, suffix, result⟩
  · rw [result]
    exact suffix
  · rw [result]
    exact suffix

theorem aligned_release (nesting next : Nesting Data) (index : Nat) (verdict : Verdict)
    (outcome : Except Exception Unit) (aligned : nesting.Aligned readName)
    (promise : nesting.KeepsPromise readName (.callSavepoint index .release verdict))
    (run : nesting.run readName (.callSavepoint index .release verdict) = some (next, outcome)) :
    next.Aligned readName := by
  obtain ⟨savepoint, found, came, leaves⟩ :=
    run_call readName nesting next index .release verdict outcome run
  have suffix := release_suffix readName nesting aligned index savepoint verdict found
  have ends := (promise next outcome run).2
  rw [SavepointCall.run] at came leaves
  refine leaves.aligned readName aligned suffix nofun ?_
  intro released same
  refine ⟨savepoint, found, ?_⟩
  rcases release_target readName nesting aligned index savepoint verdict found with
    ⟨_, _, _, _, _, _, _, _, _, result⟩ | ⟨_, _, _, _, result⟩
  · rw [result] at came same
    cases same
    refine ⟨rfl, fun _ => Or.inr ?_⟩
    rw [← leaves.2.2.1]
    exact (ends came).2.1
  · rw [result] at same
    cases same
    exact ⟨rfl, Or.inl⟩

theorem aligned_rollback (nesting next : Nesting Data) (index : Nat) (verdict : Verdict)
    (outcome : Except Exception Unit) (aligned : nesting.Aligned readName)
    (run : nesting.run readName (.callSavepoint index .rollback verdict) = some (next, outcome)) :
    next.Aligned readName := by
  obtain ⟨savepoint, found, _, leaves⟩ :=
    run_call readName nesting next index .rollback verdict outcome run
  rw [SavepointCall.run] at leaves
  have suffix : (savepoint.rollback readName verdict nesting.scopes.db).1.marks <:+
      nesting.scopes.db.marks := by
    rcases rollback_target readName nesting aligned index savepoint verdict found with
      ⟨_, _, _, _, _, suffix, result⟩ | ⟨_, _, _, suffix, result⟩
    · rw [result]
      exact suffix
    · rw [result]
      exact suffix
  refine leaves.aligned readName aligned suffix nofun ?_
  rintro _ ⟨⟩
  exact ⟨savepoint, found, rfl, Or.inl⟩

theorem aligned_destroy (nesting next : Nesting Data) (index : Nat) (verdict : Verdict)
    (outcome : Except Exception Unit) (aligned : nesting.Aligned readName)
    (run : nesting.run readName (.destroy index verdict) = some (next, outcome)) :
    next.Aligned readName := by
  obtain ⟨savepoint, found, _, leaves⟩ :=
    run_destroy readName nesting next aligned index verdict outcome run
  have suffix : (savepoint.destroy readName verdict nesting.scopes.db).1.marks <:+
      nesting.scopes.db.marks := by
    unfold Savepoint.destroy
    split
    · exact release_suffix readName nesting aligned index savepoint verdict found
    · exact List.suffix_refl _
  exact leaves.aligned readName aligned suffix nofun nofun

theorem aligned_step (nesting : Nesting Data) (action : ScopeAction Data) (next : Nesting Data)
    (aligned : nesting.Aligned readName) (promise : nesting.KeepsPromise readName action)
    (enabled : nesting.step readName action = some next) : next.Aligned readName := by
  obtain ⟨⟨same, outcome⟩, run, rfl⟩ := Option.map_eq_some_iff.mp enabled
  obtain ⟨allowed, after, ran, recorded⟩ := run_eq_some readName nesting same action outcome run
  cases action with
  | transaction type verdict => cases allowed
  | call index call verdict => cases allowed
  | savepoint name verdict =>
      exact aligned_construct readName nesting same name verdict outcome aligned run
  | destroy index verdict =>
      exact aligned_destroy readName nesting same index verdict outcome aligned run
  | callSavepoint index call verdict =>
      cases call with
      | release =>
          exact aligned_release readName nesting same index verdict outcome aligned promise run
      | rollback => exact aligned_rollback readName nesting same index verdict outcome aligned run
  | write change =>
      unfold Scopes.run at ran
      split at ran
      · cases ran
      · cases ran
        have leaves : nesting.Leaves nesting.scopes.objects.length
            (nesting.scopes.db.write change) .destroyed same := by
          rw [recorded]
          exact leaves_untouched nesting _ _ rfl rfl rfl rfl
        have suffix : (nesting.scopes.db.write change).marks <:+ nesting.scopes.db.marks :=
          marks_write change nesting.scopes.db ▸ List.suffix_refl _
        exact leaves.aligned readName aligned suffix nofun nofun

theorem started_matches (marks : List (Mark Data)) :
    Matches marks.reverse marks (List.range marks.length).reverse := by
  have all (list : List (Mark Data)) :
      list.map some = (List.range list.length).map fun index => list[index]? := by
    apply List.ext_getElem
    · simp
    · intro index inside _
      simp
  have here := all marks.reverse
  rw [List.map_reverse, List.length_reverse] at here
  unfold Matches
  rw [List.map_reverse, ← here, List.reverse_reverse]

theorem started_aligned (db : Database Data) : (started db).Aligned readName := by
  have gone (index : Nat) (object : ScopeObject)
      (found : (started db).scopes.objects[index]? = some object) : object = .destroyed :=
    List.eq_of_mem_replicate (List.mem_of_getElem? found)
  constructor
  · exact started_matches db.marks
  · exact List.pairwise_reverse.mpr List.pairwise_lt_range
  · simp [started]
  · intro index transaction found
    cases gone index _ found
  · intro index savepoint found
    cases gone index _ found
  · intro index savepoint found
    cases gone index _ found

/-- In a program of nested savepoint objects every call keeps its promise exactly when every
statement about an object's savepoint finds it: no younger open savepoint has its name (for a
rollback: none with another content), and its own is still open or there is none of the name. -/
theorem nested_savepoints_keep_promises_iff (db : Database Data)
    (actions : List (ScopeAction Data)) :
    EveryStep (step readName) (KeepsPromise readName) actions (started db) ↔
      EveryStep (step readName) FindsOwn actions (started db) := by
  apply everyStep_congr (step readName) (Aligned readName)
  · exact aligned_step readName
  · intro nesting action next aligned enabled
    exact keepsPromise_iff readName nesting next action aligned enabled
  · exact started_aligned readName db

end Runs

/-- Two nested savepoints `a`, each after a change; `rollback()` on the older object leaves the
change that was made before the younger one. -/
theorem rollback_finds_younger :
    ¬EveryStep (step some) (KeepsPromise some)
      [.savepoint (ascii "a") .proceeds, .write (· + 1), .savepoint (ascii "a") .proceeds,
        .callSavepoint 0 .rollback .proceeds] (started (⟨0, none, []⟩ : Database Nat)) := by
  intro steps
  have outer := (steps _ rfl).2
  have written := (outer _ rfl).2
  have inner := (written _ rfl).2
  have promise := (inner _ rfl).1 _ _ rfl (by decide)
  cases promise.2 rfl

end Nesting
end VSQLite
