import VSQLite.Transaction.Steps

/-!
# Programs with automatic objects

Blocks of a program that makes its transactions and savepoints as automatic objects, so that
the end of a block destroys them, also where an exception leaves it.  What such a program
means says nothing of objects or statements; running it does.
-/

set_option autoImplicit false

namespace VSQLite

/-- What is executed while a transaction is open.  Only `inside` a savepoint there is one to
roll back; `refused` is the error with which SQLite refuses the statement of a constructor. -/
inductive Block (Data : Type) : Bool → Type where
  | skip {inside : Bool} : Block Data inside
  | write {inside : Bool} (change : Data → Data) : Block Data inside
  | throws {inside : Bool} : Block Data inside
  | caught {inside : Bool} (body : Block Data inside) : Block Data inside
  | andThen {inside : Bool} (first rest : Block Data inside) : Block Data inside
  | rollback : Block Data true
  | savepoint {inside : Bool} (name : Text) (refused : Option Nat) (body : Block Data true) :
      Block Data inside

/-- A function of the program.  Its caller catches what it throws, and goes on. -/
inductive Routine (Data : Type) where
  | write (change : Data → Data)
  | transaction (type : TransactionType) (begins : Verdict) (body : Block Data false)
      (commits : Verdict)
  | savepoint (name : Text) (refused : Option Nat) (body : Block Data true)

section Blocks
variable {Data : Type} (readName : Text → Option Text)

/-! ## What a program means -/

namespace Block

/-- The content afterwards and if the block threw, from the content at the start of the innermost
savepoint and the content now.  The end of a savepoint keeps what was done, also where it is
left by an exception. -/
def meaning : {inside : Bool} → Block Data inside → Data → Data → Data × Bool
  | _, .skip, _, content => (content, false)
  | _, .write change, _, content => (change content, false)
  | _, .throws, _, content => (content, true)
  | _, .caught body, mark, content => ((body.meaning mark content).1, false)
  | _, .andThen first rest, mark, content =>
      if (first.meaning mark content).2 then first.meaning mark content
      else rest.meaning mark (first.meaning mark content).1
  | _, .rollback, mark, _ => (mark, false)
  | _, .savepoint name refused body, _, content =>
      if (readName name).isSome && refused.isNone then body.meaning content content
      else (content, true)

end Block

namespace Routine

def meaning : Routine Data → Data → Data × Bool
  | .write change, stored => (change stored, false)
  | .transaction _ begins body commits, stored =>
      if begins = .proceeds && !(body.meaning readName stored stored).2 && commits = .proceeds then
        ((body.meaning readName stored stored).1, false)
      else (stored, true)
  | .savepoint name refused body, stored =>
      (.savepoint name refused body : Block Data true).meaning readName stored stored

/-- The content that is kept in the end, and which of the functions threw. -/
def meanings : List (Routine Data) → Data → Data × List Bool
  | [], stored => (stored, [])
  | routine :: rest, stored =>
      let after := meanings rest (routine.meaning readName stored).1
      (after.1, (routine.meaning readName stored).2 :: after.2)

end Routine

/-! ## How it runs -/

/-- If a function or a constructor threw. -/
def threw : Except Exception Unit → Bool
  | .ok () => false
  | .error _ => true

def refusal : Option Nat → Verdict
  | none => .proceeds
  | some code => .refused code

namespace Block

/-- `inner` is the object of the innermost savepoint. -/
def run : {inside : Bool} → Block Data inside → Nat → Scopes Data → Option (Scopes Data × Bool)
  | _, .skip, _, scopes => some (scopes, false)
  | _, .write change, _, scopes =>
      (scopes.run readName (.write change)).map fun ran => (ran.1, threw ran.2)
  | _, .throws, _, scopes => some (scopes, true)
  | _, .caught body, inner, scopes => (body.run inner scopes).map fun ran => (ran.1, false)
  | _, .andThen first rest, inner, scopes =>
      (first.run inner scopes).bind fun ran =>
        if ran.2 then some ran else rest.run inner ran.1
  | _, .rollback, inner, scopes =>
      (scopes.run readName (.callSavepoint inner .rollback .proceeds)).map fun ran =>
        (ran.1, threw ran.2)
  | _, .savepoint name refused body, _, scopes =>
      (scopes.run readName (.savepoint name (refusal refused))).bind fun made =>
        if threw made.2 then some (made.1, true)
        else
          (body.run scopes.objects.length made.1).bind fun ran =>
            (ran.1.run readName (.destroy scopes.objects.length .proceeds)).map fun left =>
              (left.1, ran.2)

end Block

namespace Routine

def run : Routine Data → Scopes Data → Option (Scopes Data × Bool)
  | .write change, scopes =>
      (scopes.run readName (.write change)).map fun ran => (ran.1, threw ran.2)
  | .transaction type begins body commits, scopes =>
      (scopes.run readName (.transaction type begins)).bind fun made =>
        if threw made.2 then some (made.1, true)
        else
          (body.run readName 0 made.1).bind fun ran =>
            (if ran.2 then some (ran.1, true)
              else (ran.1.run readName (.call scopes.objects.length .commit commits)).map
                fun ended => (ended.1, threw ended.2)).bind fun ended =>
              (ended.1.run readName (.destroy scopes.objects.length .proceeds)).map fun left =>
                (left.1, ended.2)
  | .savepoint name refused body, scopes =>
      (.savepoint name refused body : Block Data true).run readName 0 scopes

def runs : List (Routine Data) → Scopes Data → Option (Scopes Data × List Bool)
  | [], scopes => some (scopes, [])
  | routine :: rest, scopes =>
      (routine.run readName scopes).bind fun ran =>
        (runs rest ran.1).map fun others => (others.1, ran.2 :: others.2)

end Routine

/-! ## The statements of the objects -/

section Statements
variable (db : Database Data) (opened : OpenTransaction Data) (name folded : Text)

theorem construct_inside (current : db.current = some opened)
    (read : readName name = some folded) :
    Savepoint.construct readName name .proceeds db =
      ({ db with
        current := some { opened with
          savepoints := ⟨folded, opened.seen⟩ :: opened.savepoints }
        issued := (ascii "SAVEPOINT " ++ name) :: db.issued }, .ok ⟨name, true⟩) := by
  unfold Savepoint.construct executeSql
  simp only [read_savepoint, read, Option.map_some, Database.perform, current]

theorem construct_outside (current : db.current = none) (read : readName name = some folded) :
    Savepoint.construct readName name .proceeds db =
      ({ db with
        current := some ⟨db.stored, [⟨folded, db.stored⟩], true⟩
        issued := (ascii "SAVEPOINT " ++ name) :: db.issued }, .ok ⟨name, true⟩) := by
  unfold Savepoint.construct executeSql
  simp only [read_savepoint, read, Option.map_some, Database.perform, current]

theorem construct_refused (refused : Option Nat)
    (fails : ((readName name).isSome && refused.isNone) = false) :
    ∃ thrown, Savepoint.construct readName name (refusal refused) db =
      ({ db with issued := (ascii "SAVEPOINT " ++ name) :: db.issued }, .error thrown) := by
  unfold Savepoint.construct executeSql
  rw [read_savepoint]
  cases read : readName name with
  | none => exact ⟨_, rfl⟩
  | some folded =>
      cases refused with
      | none => simp [read] at fails
      | some code => exact ⟨_, rfl⟩

theorem rollback_innermost (content : Data) (outer : List (Mark Data))
    (current : db.current = some opened)
    (innermost : opened.savepoints = ⟨folded, content⟩ :: outer)
    (read : readName name = some folded) :
    Savepoint.rollback readName .proceeds db ⟨name, true⟩ =
      ({ db with
        current := some { opened with seen := content }
        issued := (ascii "ROLLBACK TRANSACTION TO SAVEPOINT " ++ name) :: db.issued },
        .ok ()) := by
  unfold Savepoint.rollback executeSql
  simp only [read_rollbackTo, read, Option.map_some, Database.perform, current, innermost,
    unwind, if_true]

theorem destroy_nested (content : Data) (outer : List (Mark Data))
    (current : db.current = some opened)
    (innermost : opened.savepoints = ⟨folded, content⟩ :: outer)
    (nested : (outer.isEmpty && opened.bySavepoint) = false)
    (read : readName name = some folded) :
    Savepoint.destroy readName .proceeds db ⟨name, true⟩ =
      ({ db with
        current := some { opened with savepoints := outer }
        issued := (ascii "RELEASE SAVEPOINT " ++ name) :: db.issued }, .ok ()) := by
  unfold Savepoint.destroy Savepoint.release executeSql
  simp only [read_release, read, Option.map_some, Database.perform, current, innermost, unwind,
    if_true, nested, Bool.false_eq_true, if_false]

theorem destroy_outermost (content : Data) (current : db.current = some opened)
    (outermost : opened.savepoints = [⟨folded, content⟩]) (bySavepoint : opened.bySavepoint = true)
    (read : readName name = some folded) :
    Savepoint.destroy readName .proceeds db ⟨name, true⟩ =
      ({ db with
        stored := opened.seen
        current := none
        issued := (ascii "RELEASE SAVEPOINT " ++ name) :: db.issued }, .ok ()) := by
  unfold Savepoint.destroy Savepoint.release executeSql
  simp only [read_release, read, Option.map_some, Database.perform, current, outermost, unwind,
    if_true, bySavepoint, List.isEmpty_nil, Bool.and_self]

end Statements

/-! ## A block does what it means -/

/-- A transaction is open, and no exception has left a destructor. -/
structure Inside (opened : OpenTransaction Data) (scopes : Scopes Data) : Prop where
  running : scopes.terminated = false
  current : scopes.db.current = some opened
  nested : opened.bySavepoint = true → opened.savepoints ≠ []

/-- The object is that of the innermost savepoint, which holds this content. -/
def Innermost (inner : Nat) (content : Data) (opened : OpenTransaction Data)
    (scopes : Scopes Data) : Prop :=
  ∃ name folded outer, scopes.objects[inner]? = some (.savepoint ⟨name, true⟩) ∧
    readName name = some folded ∧ opened.savepoints = ⟨folded, content⟩ :: outer

/-- What a block leaves: the content seen, and nothing but destroyed objects. -/
structure Leaves (opened : OpenTransaction Data) (seen : Data) (before after : Scopes Data) :
    Prop where
  running : after.terminated = false
  current : after.db.current = some { opened with seen := seen }
  stored : after.db.stored = before.db.stored
  objects : ∃ gone, after.objects = before.objects ++ gone ∧
    ∀ object ∈ gone, object = ScopeObject.destroyed

section Steps
variable {opened : OpenTransaction Data} {scopes : Scopes Data}

theorem Inside.stays (inside : Inside opened scopes) : Leaves opened opened.seen scopes scopes :=
  ⟨inside.running, inside.current, rfl, [], (List.append_nil _).symm,
    fun _ member => by cases member⟩

theorem Leaves.inside {seen : Data} {after : Scopes Data}
    (leaves : Leaves opened seen scopes after)
    (nested : opened.bySavepoint = true → opened.savepoints ≠ []) :
    Inside { opened with seen := seen } after :=
  ⟨leaves.running, leaves.current, nested⟩

theorem Leaves.trans {seen last : Data} {middle after : Scopes Data}
    (first : Leaves opened seen scopes middle)
    (second : Leaves { opened with seen := seen } last middle after) :
    Leaves opened last scopes after := by
  obtain ⟨early, objects, earlyGone⟩ := first.objects
  obtain ⟨late, others, lateGone⟩ := second.objects
  refine ⟨second.running, second.current, second.stored.trans first.stored, early ++ late, ?_,
    fun object member => ?_⟩
  · rw [others, objects, List.append_assoc]
  · rcases List.mem_append.mp member with inEarly | inLate
    · exact earlyGone object inEarly
    · exact lateGone object inLate

theorem Leaves.innermost {inner : Nat} {content seen : Data} {after : Scopes Data}
    (leaves : Leaves opened seen scopes after)
    (innermost : Innermost readName inner content opened scopes) :
    Innermost readName inner content { opened with seen := seen } after := by
  obtain ⟨name, folded, outer, found, read, marks⟩ := innermost
  obtain ⟨gone, objects, _⟩ := leaves.objects
  refine ⟨name, folded, outer, ?_, read, marks⟩
  rw [objects, List.getElem?_append_left (List.getElem?_eq_some_iff.mp found).1]
  exact found

theorem Leaves.destroy {made after left : Scopes Data} {seen : Data} {first : ScopeObject}
    (objects : made.objects = scopes.objects ++ [first])
    (body : Leaves opened seen made after)
    (destroyed : left.objects = after.objects.set scopes.objects.length .destroyed) :
    ∃ gone, left.objects = scopes.objects ++ gone ∧
      ∀ object ∈ gone, object = ScopeObject.destroyed := by
  obtain ⟨gone, afterObjects, allGone⟩ := body.objects
  refine ⟨.destroyed :: gone, ?_, fun object member => ?_⟩
  · rw [destroyed, afterObjects, objects, List.append_assoc, List.set_append_right _ _
      (Nat.le_refl _), Nat.sub_self]
    rfl
  · rcases List.mem_cons.mp member with rfl | other
    · rfl
    · exact allGone object other

theorem Leaves.found {made after : Scopes Data} {seen : Data} {first : ScopeObject}
    (objects : made.objects = scopes.objects ++ [first])
    (body : Leaves opened seen made after) :
    after.objects[scopes.objects.length]? = some first := by
  obtain ⟨gone, afterObjects, _⟩ := body.objects
  rw [afterObjects, objects, List.append_assoc, List.getElem?_append_right (Nat.le_refl _),
    Nat.sub_self]
  rfl

theorem Inside.write (inside : Inside opened scopes) (change : Data → Data) :
    ∃ after, scopes.run readName (.write change) = some (after, .ok ()) ∧
      Leaves opened (change opened.seen) scopes after := by
  refine ⟨{ scopes with db := scopes.db.write change }, ?_, inside.running, ?_, ?_, [],
    (List.append_nil _).symm, fun _ member => by cases member⟩
  · rw [Scopes.run, if_neg (by simp [inside.running])]
  · simp only [Database.write, inside.current]
  · simp only [Database.write, inside.current]

theorem Inside.rollback (inside : Inside opened scopes) {inner : Nat} {content : Data}
    (innermost : Innermost readName inner content opened scopes) :
    ∃ after, scopes.run readName (.callSavepoint inner .rollback .proceeds) =
        some (after, .ok ()) ∧ Leaves opened content scopes after := by
  obtain ⟨name, folded, outer, found, read, marks⟩ := innermost
  have result := rollback_innermost readName scopes.db opened name folded content outer
    inside.current marks read
  have same : scopes.objects.set inner (.savepoint ⟨name, true⟩) = scopes.objects := by
    obtain ⟨bounded, here⟩ := List.getElem?_eq_some_iff.mp found
    rw [← here]
    exact List.set_getElem_self bounded
  refine ⟨scopes.settle inner (Savepoint.rollback readName .proceeds scopes.db ⟨name, true⟩).1
    scopes.objects, ?_, ?_⟩
  · simp only [Scopes.run, inside.running, Bool.false_eq_true, if_false,
      (Scopes.savepointAt_eq_some inner scopes _).mpr found, Option.map_some, SavepointCall.run,
      same, result]
  · rw [result]
    exact ⟨inside.running, rfl, rfl, [], (List.append_nil _).symm, fun _ member => by cases member⟩

theorem savepoint_refused (running : scopes.terminated = false) (name : Text)
    (refused : Option Nat) (fails : ((readName name).isSome && refused.isNone) = false) :
    ∃ after thrown, scopes.run readName (.savepoint name (refusal refused)) =
        some (after, .error thrown) ∧ after.terminated = false ∧
      after.db.stored = scopes.db.stored ∧ after.db.current = scopes.db.current ∧
      after.objects = scopes.objects := by
  obtain ⟨thrown, result⟩ := construct_refused readName scopes.db name refused fails
  refine ⟨scopes.settle scopes.objects.length
    { scopes.db with issued := (ascii "SAVEPOINT " ++ name) :: scopes.db.issued } scopes.objects,
    thrown, ?_, running, rfl, rfl, rfl⟩
  simp only [Scopes.run, running, Bool.false_eq_true, if_false, result]

theorem savepoint_made (running : scopes.terminated = false) (name folded : Text)
    (read : readName name = some folded) (made : OpenTransaction Data)
    (result : ∃ issued, Savepoint.construct readName name .proceeds scopes.db =
      ({ scopes.db with current := some made, issued := issued }, .ok ⟨name, true⟩))
    (marks : ∃ outer, made.savepoints = ⟨folded, made.seen⟩ :: outer) :
    ∃ after, scopes.run readName (.savepoint name .proceeds) = some (after, .ok ()) ∧
      Inside made after ∧ after.db.stored = scopes.db.stored ∧
      after.objects = scopes.objects ++ [.savepoint ⟨name, true⟩] ∧
      Innermost readName scopes.objects.length made.seen made after := by
  obtain ⟨issued, constructed⟩ := result
  obtain ⟨outer, savepoints⟩ := marks
  refine ⟨scopes.settle scopes.objects.length
    { scopes.db with current := some made, issued := issued }
    (scopes.objects ++ [.savepoint ⟨name, true⟩]), ?_, ⟨running, rfl, ?_⟩, rfl, rfl,
    ⟨name, folded, outer, List.getElem?_concat_length, read, savepoints⟩⟩
  · simp only [Scopes.run, running, Bool.false_eq_true, if_false, constructed]
  · rw [savepoints]
    exact fun _ => List.cons_ne_nil _ _

theorem savepoint_left (running : scopes.terminated = false) (index : Nat) (name : Text)
    (found : scopes.objects[index]? = some (.savepoint ⟨name, true⟩)) (left : Database Data)
    (result : Savepoint.destroy readName .proceeds scopes.db ⟨name, true⟩ = (left, .ok ())) :
    ∃ after, scopes.run readName (.destroy index .proceeds) = some (after, .ok ()) ∧
      after.terminated = false ∧ after.db = left ∧
      after.objects = scopes.objects.set index .destroyed := by
  refine ⟨scopes.settle index left (scopes.objects.set index .destroyed), ?_, running, rfl, rfl⟩
  simp only [Scopes.run, running, Bool.false_eq_true, if_false, found, result]

theorem Block.run_means {inside : Bool} (block : Block Data inside) (inner : Nat)
    (content : Data) (opened : OpenTransaction Data) (scopes : Scopes Data)
    (here : Inside opened scopes)
    (innermost : inside = true → Innermost readName inner content opened scopes) :
    ∃ after, block.run readName inner scopes =
        some (after, (block.meaning readName content opened.seen).2) ∧
      Leaves opened (block.meaning readName content opened.seen).1 scopes after := by
  induction block generalizing inner content opened scopes with
  | skip => exact ⟨scopes, rfl, here.stays⟩
  | write change =>
      obtain ⟨after, run, leaves⟩ := here.write readName change
      exact ⟨after, by rw [Block.run, run]; rfl, leaves⟩
  | throws => exact ⟨scopes, rfl, here.stays⟩
  | caught body ih =>
      obtain ⟨after, run, leaves⟩ := ih inner content opened scopes here innermost
      exact ⟨after, by rw [Block.run, run]; rfl, leaves⟩
  | andThen first rest ihFirst ihRest =>
      obtain ⟨middle, run, leaves⟩ := ihFirst inner content opened scopes here innermost
      rw [Block.run, Block.meaning, run, Option.bind_some]
      by_cases threw : (first.meaning readName content opened.seen).2 = true
      · rw [if_pos threw, if_pos threw]
        exact ⟨middle, rfl, leaves⟩
      · rw [if_neg threw, if_neg threw]
        obtain ⟨after, later, last⟩ := ihRest inner content _ middle (leaves.inside here.nested)
          fun inSavepoint => leaves.innermost readName (innermost inSavepoint)
        exact ⟨after, later, leaves.trans last⟩
  | rollback =>
      obtain ⟨after, run, leaves⟩ := here.rollback readName (innermost rfl)
      exact ⟨after, by rw [Block.run, run]; rfl, leaves⟩
  | savepoint name refused body ih =>
      rw [Block.run, Block.meaning]
      by_cases opens : ((readName name).isSome && refused.isNone) = true
      · rw [if_pos opens]
        obtain ⟨known, accepted⟩ := Bool.and_eq_true_iff.mp opens
        obtain ⟨folded, read⟩ := Option.isSome_iff_exists.mp known
        cases Option.isNone_iff_eq_none.mp accepted
        obtain ⟨made, constructed, inside, madeStored, madeObjects, own⟩ :=
          savepoint_made readName here.running name folded read
            { opened with savepoints := ⟨folded, opened.seen⟩ :: opened.savepoints }
            ⟨_, construct_inside readName scopes.db opened name folded here.current read⟩ ⟨_, rfl⟩
        obtain ⟨ran, run, leaves⟩ := ih scopes.objects.length opened.seen _ made inside
          fun _ => own
        have nested : (opened.savepoints.isEmpty && opened.bySavepoint) = false := by
          cases bySavepoint : opened.bySavepoint with
          | false => exact Bool.and_false _
          | true => simpa using here.nested bySavepoint
        have released := destroy_nested readName ran.db _ name folded opened.seen
          opened.savepoints leaves.current rfl nested read
        obtain ⟨left, destroyed, running, leftDb, leftObjects⟩ := savepoint_left readName
          leaves.running scopes.objects.length name (leaves.found madeObjects) _ released
        refine ⟨left, ?_, running, by rw [leftDb], ?_,
          leaves.destroy madeObjects leftObjects⟩
        · rw [refusal, constructed, Option.bind_some, threw, if_neg Bool.false_ne_true, run,
            Option.bind_some, destroyed]
          rfl
        · rw [leftDb]
          exact leaves.stored.trans madeStored
      · rw [if_neg opens]
        obtain ⟨after, thrown, constructed, running, stored, current, objects⟩ :=
          savepoint_refused readName here.running name refused (Bool.eq_false_iff.mpr opens)
        refine ⟨after, ?_, running, current.trans here.current, stored, [],
          by rw [objects, List.append_nil], fun _ member => by cases member⟩
        rw [constructed, Option.bind_some, threw, if_pos rfl]

/-! ## A program does what it means -/

/-- What a function leaves: no transaction, and nothing but destroyed objects. -/
structure Completes (stored : Data) (before after : Scopes Data) : Prop where
  running : after.terminated = false
  free : after.db.current = none
  stored : after.db.stored = stored
  objects : ∃ gone, after.objects = before.objects ++ gone ∧
    ∀ object ∈ gone, object = ScopeObject.destroyed

theorem transaction_made (running : scopes.terminated = false) (free : scopes.db.current = none)
    (type : TransactionType) (verdict : Verdict) :
    (verdict = .proceeds ∧ ∃ made, scopes.run readName (.transaction type verdict) =
        some (made, .ok ()) ∧ Inside ⟨scopes.db.stored, [], false⟩ made ∧
      made.db.stored = scopes.db.stored ∧
      made.objects = scopes.objects ++ [.transaction ⟨true, false⟩]) ∨
    (verdict ≠ .proceeds ∧ ∃ after thrown, scopes.run readName (.transaction type verdict) =
        some (after, .error thrown) ∧ Completes scopes.db.stored scopes after) := by
  rcases Transaction.begin_cases readName type verdict scopes.db ⟨false, false⟩
    with ⟨proceeds, _, result⟩ | ⟨thrown, refused, result⟩
  · refine Or.inl ⟨proceeds, scopes.settle scopes.objects.length
      { scopes.db with
        current := some ⟨scopes.db.stored, [], false⟩
        issued := Transaction.beginSql type :: scopes.db.issued }
      (scopes.objects ++ [.transaction ⟨true, false⟩]), ?_, ⟨running, rfl, ?_⟩, rfl, rfl⟩
    · simp only [Scopes.run, running, Bool.false_eq_true, if_false, result]
    · intro impossible
      cases impossible
  · refine Or.inr ⟨fun proceeds => refused proceeds free, scopes.settle scopes.objects.length
      (scopes.db.failed (Transaction.beginSql type) verdict) scopes.objects, thrown, ?_, running,
      ?_, rfl, [], (List.append_nil _).symm, fun _ member => by cases member⟩
    · simp only [Scopes.run, running, Bool.false_eq_true, if_false, result]
    · rcases scopes.db.failed_current (Transaction.beginSql type) verdict with gone | same
      · exact gone
      · exact same.trans free

/-- A commit that fails leaves the transaction to the destructor, or SQLite has rolled it back. -/
theorem transaction_committed (inside : Inside opened scopes) (index : Nat)
    (found : scopes.objects[index]? = some (.transaction ⟨true, false⟩)) (verdict : Verdict) :
    ∃ ended outcome transaction, scopes.run readName (.call index .commit verdict) =
        some (ended, outcome) ∧ threw outcome = !decide (verdict = .proceeds) ∧
      ended.terminated = false ∧
      ended.db.stored = (if verdict = .proceeds then opened.seen else scopes.db.stored) ∧
      ended.objects = scopes.objects.set index (.transaction transaction) ∧
      transaction.isEnding = false ∧
      (ended.db.current ≠ none → transaction.isActive = true) := by
  have called := (Scopes.transactionAt_eq_some index scopes _).mpr found
  rcases Transaction.finish_cases readName Transaction.commitSql true Transaction.ends_commitSql
    verdict scopes.db ⟨true, false⟩ with
    ⟨seen, proceeds, current, result⟩ | ⟨thrown, refused, result⟩
  · have same : seen = opened := Option.some.inj (current.symm.trans inside.current)
    refine ⟨scopes.settle index
      { scopes.db with
        stored := seen.seen
        current := none
        issued := Transaction.commitSql :: scopes.db.issued }
      (scopes.objects.set index (.transaction ⟨false, false⟩)), .ok (), ⟨false, false⟩, ?_, ?_,
      inside.running, ?_, rfl, rfl, fun present => absurd rfl present⟩
    · simp only [Scopes.run, inside.running, Bool.false_eq_true, if_false, called, Option.map_some,
        TransactionCall.run, result, if_true]
    · rw [proceeds]
      rfl
    · rw [if_pos proceeds, ← same]
      rfl
  · have other : verdict ≠ .proceeds := by
      intro proceeds
      have free := refused proceeds
      rw [inside.current] at free
      cases free
    refine ⟨scopes.settle index (scopes.db.failed Transaction.commitSql verdict)
      (scopes.objects.set index (.transaction ⟨true, false⟩)), .error thrown, ⟨true, false⟩, ?_, ?_,
      inside.running, (if_neg other).symm, rfl, rfl, fun _ => rfl⟩
    · simp only [Scopes.run, inside.running, Bool.false_eq_true, if_false, called, Option.map_some,
        TransactionCall.run, result]
    · rw [decide_eq_false other]
      rfl

theorem transaction_left (running : scopes.terminated = false) (index : Nat)
    (transaction : Transaction)
    (found : scopes.objects[index]? = some (.transaction transaction))
    (notEnding : transaction.isEnding = false)
    (covered : scopes.db.current ≠ none → transaction.isActive = true) :
    ∃ after, scopes.run readName (.destroy index .proceeds) = some (after, .ok ()) ∧
      after.terminated = false ∧ after.db.current = none ∧
      after.db.stored = scopes.db.stored ∧
      after.objects = scopes.objects.set index .destroyed := by
  refine ⟨scopes.settle index (transaction.destroy readName .proceeds scopes.db)
    (scopes.objects.set index .destroyed), ?_, running, ?_, ?_, rfl⟩
  · simp only [Scopes.run, running, Bool.false_eq_true, if_false, found]
  · change (transaction.destroy readName .proceeds scopes.db).current = none
    rcases Transaction.destroy_cases readName .proceeds scopes.db transaction with
      ⟨ending | inactive, same⟩ | ⟨_, _, ⟨_, _, result⟩ | ⟨free, result⟩⟩
    · rw [notEnding] at ending
      cases ending
    · rw [same]
      by_contra present
      rw [covered present] at inactive
      cases inactive
    · rw [result]
    · rw [result]
      exact free rfl
  · change (transaction.destroy readName .proceeds scopes.db).stored = _
    rcases Transaction.destroy_cases readName .proceeds scopes.db transaction with
      ⟨_, same⟩ | ⟨_, _, ⟨_, _, result⟩ | ⟨_, result⟩⟩
    · rw [same]
    · rw [result]
    · rw [result]
      rfl

theorem Routine.run_means (routine : Routine Data) (scopes : Scopes Data)
    (running : scopes.terminated = false) (free : scopes.db.current = none) :
    ∃ after, routine.run readName scopes =
        some (after, (routine.meaning readName scopes.db.stored).2) ∧
      Completes (routine.meaning readName scopes.db.stored).1 scopes after := by
  cases routine with
  | write change =>
      refine ⟨{ scopes with db := scopes.db.write change }, ?_, running, ?_, ?_, [],
        (List.append_nil _).symm, fun _ member => by cases member⟩
      · simp only [Routine.run, Scopes.run, running, Bool.false_eq_true, if_false, Option.map_some]
        rfl
      · simp only [Database.write, free]
      · simp only [Database.write, free]
        rfl
  | transaction type begins body commits =>
      rw [Routine.run, Routine.meaning]
      rcases transaction_made readName running free type begins with
        ⟨proceeds, made, begun, inside, madeStored, madeObjects⟩ |
        ⟨refused, after, thrown, begun, completes⟩
      · obtain ⟨ran, run, leaves⟩ := body.run_means readName 0 scopes.db.stored _ made
          inside fun impossible => by cases impossible
        have found := leaves.found madeObjects
        rw [begun, Option.bind_some, threw, if_neg Bool.false_ne_true, run, Option.bind_some,
          proceeds]
        cases left : (body.meaning readName scopes.db.stored scopes.db.stored).2 with
        | true =>
            obtain ⟨after, destroyed, afterRunning, afterFree, stored, objects⟩ :=
              transaction_left readName leaves.running scopes.objects.length _ found
                rfl fun _ => rfl
            refine ⟨after, ?_, afterRunning, afterFree, ?_, leaves.destroy madeObjects objects⟩
            · simp [destroyed]
            · rw [stored, leaves.stored, madeStored]
              simp
        | false =>
            have bounded := (List.getElem?_eq_some_iff.mp found).1
            obtain ⟨ended, outcome, transaction, called, outcomeThrew, endedRunning, endedStored,
              endedObjects, notEnding, covered⟩ := transaction_committed readName
                (leaves.inside inside.nested) scopes.objects.length found commits
            obtain ⟨after, destroyed, afterRunning, afterFree, stored, objects⟩ :=
              transaction_left readName endedRunning scopes.objects.length
                transaction (by rw [endedObjects, List.getElem?_set_self bounded]) notEnding covered
            rw [endedObjects, List.set_set] at objects
            refine ⟨after, ?_, afterRunning, afterFree, ?_, leaves.destroy madeObjects objects⟩
            · simp only [Bool.false_eq_true, if_false, called, Option.map_some, Option.bind_some,
                destroyed, outcomeThrew]
              by_cases accepted : commits = .proceeds <;> simp [accepted]
            · rw [stored, endedStored, leaves.stored, madeStored]
              by_cases accepted : commits = .proceeds <;> simp [accepted]
      · rw [begun, Option.bind_some, threw, if_pos rfl]
        rw [decide_eq_false refused]
        exact ⟨after, rfl, completes⟩
  | savepoint name refused body =>
      rw [Routine.run, Routine.meaning, Block.run, Block.meaning]
      by_cases opens : ((readName name).isSome && refused.isNone) = true
      · rw [if_pos opens]
        obtain ⟨known, accepted⟩ := Bool.and_eq_true_iff.mp opens
        obtain ⟨folded, read⟩ := Option.isSome_iff_exists.mp known
        cases Option.isNone_iff_eq_none.mp accepted
        obtain ⟨made, constructed, inside, _, madeObjects, own⟩ :=
          savepoint_made readName running name folded read
            ⟨scopes.db.stored, [⟨folded, scopes.db.stored⟩], true⟩
            ⟨_, construct_outside readName scopes.db name folded free read⟩ ⟨[], rfl⟩
        obtain ⟨ran, run, leaves⟩ := body.run_means readName scopes.objects.length
          scopes.db.stored _ made inside fun _ => own
        have released := destroy_outermost readName ran.db _ name folded scopes.db.stored
          leaves.current rfl rfl read
        obtain ⟨left, destroyed, leftRunning, leftDb, leftObjects⟩ := savepoint_left readName
          leaves.running scopes.objects.length name (leaves.found madeObjects) _ released
        refine ⟨left, ?_, leftRunning, by rw [leftDb], by rw [leftDb],
          leaves.destroy madeObjects leftObjects⟩
        rw [refusal, constructed, Option.bind_some, threw, if_neg Bool.false_ne_true, run,
          Option.bind_some, destroyed]
        rfl
      · rw [if_neg opens]
        obtain ⟨after, thrown, constructed, afterRunning, stored, current, objects⟩ :=
          savepoint_refused readName running name refused (Bool.eq_false_iff.mpr opens)
        refine ⟨after, ?_, afterRunning, current.trans free, stored, [],
          by rw [objects, List.append_nil], fun _ member => by cases member⟩
        rw [constructed, Option.bind_some, threw, if_pos rfl]

end Steps

/-- A program of any functions, with any constructor or commit failing, keeps what it means to
keep: all of a transaction whose body and commit return, nothing of any other, and of a savepoint
also what was done before an exception left it.  No transaction and no object outlives its block,
and no destructor lets an exception escape. -/
theorem program_keeps_what_it_means (program : List (Routine Data)) (db : Database Data)
    (free : db.current = none) :
    ∃ final, Routine.runs readName program (.opened db) =
        some (final, (Routine.meanings readName program db.stored).2) ∧
      final.db.stored = (Routine.meanings readName program db.stored).1 ∧
      final.db.current = none ∧ final.terminated = false ∧
      ∀ object ∈ final.objects, object = ScopeObject.destroyed := by
  have runs : ∀ scopes : Scopes Data, scopes.terminated = false → scopes.db.current = none →
      ∃ final, Routine.runs readName program scopes =
          some (final, (Routine.meanings readName program scopes.db.stored).2) ∧
        Completes (Routine.meanings readName program scopes.db.stored).1 scopes final := by
    induction program with
    | nil =>
        intro scopes running free
        exact ⟨scopes, rfl, running, free, rfl, [], (List.append_nil _).symm,
          fun _ member => by cases member⟩
    | cons routine rest ih =>
        intro scopes running free
        obtain ⟨middle, run, first⟩ := routine.run_means readName scopes running free
        obtain ⟨final, later, second⟩ := ih middle first.running first.free
        obtain ⟨early, objects, earlyGone⟩ := first.objects
        obtain ⟨late, others, lateGone⟩ := second.objects
        rw [first.stored] at later second
        refine ⟨final, ?_, second.running, second.free, second.stored, early ++ late, ?_, ?_⟩
        · rw [Routine.runs, run, Option.bind_some, later]
          rfl
        · rw [others, objects, List.append_assoc]
        · intro object member
          rcases List.mem_append.mp member with inEarly | inLate
          · exact earlyGone object inEarly
          · exact lateGone object inLate
  obtain ⟨final, run, completes⟩ := runs (.opened db) rfl free
  obtain ⟨gone, objects, allGone⟩ := completes.objects
  refine ⟨final, run, completes.stored, completes.free, completes.running, ?_⟩
  rw [objects]
  exact allGone

/-- A transaction with an exception that it catches, one that an exception leaves, and a savepoint
that an exception leaves. -/
def threeFunctions : List (Routine (List Nat)) :=
  [.transaction .immediate .proceeds
      (.andThen (.write (1 :: ·)) (.caught (.savepoint (ascii "inner") none
        (.andThen (.write (2 :: ·)) .throws)))) .proceeds,
    .transaction .undefined .proceeds (.andThen (.write (3 :: ·)) .throws) .proceeds,
    .savepoint (ascii "outer") none (.andThen (.write (4 :: ·)) .throws)]

theorem program_keeps_what_it_means_thrown :
    ∃ final, Routine.runs some threeFunctions (.opened ⟨[], none, []⟩) =
        some (final, [false, true, true]) ∧
      final.db.stored = [4, 2, 1] ∧ final.db.current = none ∧ final.terminated = false ∧
      ∀ object ∈ final.objects, object = ScopeObject.destroyed :=
  program_keeps_what_it_means some threeFunctions ⟨[], none, []⟩ rfl

end Blocks
end VSQLite
