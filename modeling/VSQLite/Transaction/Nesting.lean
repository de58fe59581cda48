import VSQLite.Transaction.Savepoints

/-!
# Nested savepoint objects

Programs that use savepoint objects alone, each destroyed before the older ones.  An object
knows its savepoint by name; SQLite takes the most recent open savepoint of the name.
-/

set_option autoImplicit false

namespace VSQLite
open Lib

/-- `owners` are the objects whose own savepoints are open, the innermost first; `births`
has for each object its name as SQLite reads it and the content it was constructed at. -/
structure Nesting (Data : Type) where
  scopes : Scopes Data
  owners : List Nat
  births : List (Mark Data)

namespace Nesting
section Runs
variable {Data : Type} (readName : Text → Option Text)

/-- What such a program does. -/
def nests (scopes : Scopes Data) : ScopeAction Data → Bool
  | .transaction _ _ => false
  | .call _ _ _ => false
  | .destroy index _ => (scopes.objects.drop (index + 1)).all (· == .destroyed)
  | _ => true

/-- The owners of the savepoints that a statement has left open. -/
def kept (nesting : Nesting Data) (after : Database Data) : List Nat :=
  nesting.owners.drop (nesting.owners.length - after.marks.length)

def record (nesting : Nesting Data) (action : ScopeAction Data) (after : Scopes Data)
    (outcome : Except Exception Unit) : Nesting Data :=
  match action, outcome with
  | .savepoint name _, .ok () =>
      { scopes := after
        owners := nesting.scopes.objects.length :: nesting.kept after.db
        births := nesting.births ++ [⟨(readName name).getD [], nesting.scopes.db.visible⟩] }
  | _, _ => { nesting with scopes := after, owners := nesting.kept after.db }

def run (nesting : Nesting Data) (action : ScopeAction Data) :
    Option (Nesting Data × Except Exception Unit) :=
  if nests nesting.scopes action then
    (nesting.scopes.run readName action).map fun result =>
      (nesting.record readName action result.1 result.2, result.2)
  else none

def step (nesting : Nesting Data) (action : ScopeAction Data) : Option (Nesting Data) :=
  (nesting.run readName action).map Prod.fst

/-- A connection on which nothing was made yet.  Savepoints that are open on it count as those
of objects that were destroyed before. -/
def started (db : Database Data) : Nesting Data where
  scopes := { Scopes.opened db with objects := List.replicate db.marks.length .destroyed }
  owners := (List.range db.marks.length).reverse
  births := db.marks.reverse

/-! ## What is promised, and when it is kept -/

def nameAt (index : Nat) (nesting : Nesting Data) : Option Text :=
  nesting.births[index]?.map Mark.name

def contentAt (index : Nat) (nesting : Nesting Data) : Option Data :=
  nesting.births[index]?.map Mark.content

/-- The object's own savepoint is not open any more, and every older one is. -/
def Ends (before : Nesting Data) (index : Nat) (after : Nesting Data) : Prop :=
  index ∉ after.owners ∧ ∀ other ∈ before.owners, other < index → other ∈ after.owners

/-- Rolling back an object whose savepoint is open restores the content it was constructed at,
and releasing or destroying an object ends its own savepoint and none that is older.  The calls
return if the savepoint is open and SQLite lets them, and nothing is asked of calls that throw. -/
def KeepsPromise (nesting : Nesting Data) (action : ScopeAction Data) : Prop :=
  ∀ next outcome, nesting.run readName action = some (next, outcome) →
    match action with
    | .callSavepoint index .rollback verdict =>
        index ∈ nesting.owners → (verdict = .proceeds → outcome = .ok ()) ∧
          (outcome = .ok () → nesting.contentAt index = some next.scopes.db.visible)
    | .callSavepoint index .release verdict =>
        (index ∈ nesting.owners → verdict = .proceeds → outcome = .ok ()) ∧
          (outcome = .ok () → index ∈ nesting.owners ∧ nesting.Ends index next)
    | .destroy index verdict =>
        (index ∈ nesting.owners → verdict = .proceeds → outcome = .ok ()) ∧
          (outcome = .ok () → nesting.Ends index next ∧
            ∀ savepoint, nesting.scopes.savepointAt index = some savepoint →
              savepoint.isActive = true → index ∈ nesting.owners)
    | _ => True

/-- The object whose savepoint is the most recent open one of this object's name. -/
def target (index : Nat) (nesting : Nesting Data) : Option Nat :=
  nesting.owners.find? fun owner => nesting.nameAt owner == nesting.nameAt index

/-- A statement that SQLite lets through is about the object's own savepoint; a rollback may
also go to another one that was opened at the same content. -/
def FindsOwn (nesting : Nesting Data) : ScopeAction Data → Prop
  | .callSavepoint index .rollback verdict =>
      verdict = .proceeds → index ∈ nesting.owners → ∀ owner, nesting.target index = some owner →
        nesting.contentAt owner = nesting.contentAt index
  | .callSavepoint index .release verdict =>
      verdict = .proceeds → ∀ owner, nesting.target index = some owner → owner = index
  | .destroy index verdict =>
      ∀ savepoint, nesting.scopes.savepointAt index = some savepoint →
        savepoint.isActive = true → verdict = .proceeds →
        ∀ owner, nesting.target index = some owner → owner = index
  | _ => True

/-! ## The savepoints that are open and their owners -/

/-- The stack of savepoints is that of the owners' births. -/
def Matches (births marks : List (Mark Data)) (owners : List Nat) : Prop :=
  marks.map some = owners.map fun owner => births[owner]?

theorem Matches.drop {births marks after : List (Mark Data)} {owners : List Nat}
    (matches_ : Matches births marks owners) (suffix : after <:+ marks) :
    Matches births after (owners.drop (owners.length - after.length)) := by
  obtain ⟨above, rfl⟩ := suffix
  have sizes : above.length + after.length = owners.length := by
    simpa using congrArg List.length matches_
  have here : owners.length - after.length = above.length := by omega
  have dropped := congrArg (List.drop above.length) matches_
  rw [List.map_append, List.drop_left' (List.length_map _), ← List.map_drop] at dropped
  rw [here]
  exact dropped

theorem Matches.unwind {births marks : List (Mark Data)} {owners : List Nat}
    (matches_ : Matches births marks owners) (name : Text) :
    (unwind name marks = none ∧
      (owners.find? fun owner => births[owner]?.map Mark.name == some name) = none) ∨
    ∃ mark outer above owner below, VSQLite.unwind name marks = some (mark, outer) ∧
      mark :: outer <:+ marks ∧ owners = above ++ owner :: below ∧
      (owners.find? fun owner => births[owner]?.map Mark.name == some name) = some owner ∧
      births[owner]? = some mark ∧ below.length = outer.length := by
  induction marks generalizing owners with
  | nil =>
      have none_left : owners = [] := List.map_eq_nil_iff.mp matches_.symm
      exact Or.inl ⟨rfl, by rw [none_left]; rfl⟩
  | cons mark outer ih =>
      cases owners with
      | nil => cases matches_
      | cons owner below =>
          have first : births[owner]? = some mark := (List.cons.inj matches_).1.symm
          have later : Matches births outer below := (List.cons.inj matches_).2
          have sizes : below.length = outer.length := by
            simpa using (congrArg List.length later).symm
          by_cases same : mark.name = name
          · right
            refine ⟨mark, outer, [], owner, below, if_pos same, List.suffix_refl _, rfl, ?_, first,
              sizes⟩
            rw [List.find?_cons_of_pos (by simp [first, same])]
          · have unwound : VSQLite.unwind name (mark :: outer) = VSQLite.unwind name outer :=
              if_neg same
            have passed : ((owner :: below).find? fun owner =>
                births[owner]?.map Mark.name == some name) =
                below.find? fun owner => births[owner]?.map Mark.name == some name :=
              List.find?_cons_of_neg (by simp [first, same])
            rw [unwound, passed]
            rcases ih later with nothing | ⟨found, rest, above, its, under, at_, suffix, split,
              target, birth, size⟩
            · exact Or.inl nothing
            · right
              refine ⟨found, rest, owner :: above, its, under, at_,
                suffix.trans (List.suffix_cons mark outer), ?_, target, birth, size⟩
              rw [split]
              rfl

theorem Matches.birth {births marks : List (Mark Data)} {owners : List Nat}
    (matches_ : Matches births marks owners) (owner : Nat) (member : owner ∈ owners) :
    owner < births.length := by
  have some_ : births[owner]? ∈ marks.map some := matches_ ▸ List.mem_map_of_mem member
  obtain ⟨mark, _, same⟩ := List.mem_map.mp some_
  exact (List.getElem?_eq_some_iff.mp same.symm).1

theorem Matches.push {births marks : List (Mark Data)} {owners : List Nat} (birth : Mark Data)
    (matches_ : Matches births marks owners) :
    Matches (births ++ [birth]) (birth :: marks) (births.length :: owners) := by
  have first : (births ++ [birth])[births.length]? = some birth := by simp
  have others : owners.map (fun owner => (births ++ [birth])[owner]?) =
      owners.map fun owner => births[owner]? := by
    apply List.map_congr_left
    intro owner member
    exact List.getElem?_append_left (matches_.birth owner member)
  unfold Matches
  rw [List.map_cons, List.map_cons, first, others]
  exact congrArg (some birth :: ·) matches_

/-- What holds in a run as long as every object that was released has ended its own savepoint. -/
structure Aligned (nesting : Nesting Data) : Prop where
  stack : Matches nesting.births nesting.scopes.db.marks nesting.owners
  ordered : nesting.owners.Pairwise (· > ·)
  born : nesting.births.length = nesting.scopes.objects.length
  plain : ∀ (index : Nat) (transaction : Transaction),
    nesting.scopes.objects[index]? ≠ some (.transaction transaction)
  named : ∀ (index : Nat) (savepoint : Savepoint),
    nesting.scopes.objects[index]? = some (.savepoint savepoint) →
    ∃ birth, nesting.births[index]? = some birth ∧ readName savepoint.name = some birth.name
  ended : ∀ (index : Nat) (savepoint : Savepoint),
    nesting.scopes.objects[index]? = some (.savepoint savepoint) →
    savepoint.isActive = false → index ∉ nesting.owners

theorem marks_of_spared {before after : Database Data} (spared : before.Spared after) :
    after.marks <:+ before.marks := by
  rcases spared with free | same
  · have none_left : after.marks = [] := by simp only [Database.marks, free]
    rw [none_left]
    exact List.nil_suffix
  · have kept : after.marks = before.marks := by simp only [Database.marks, same]
    exact kept ▸ List.suffix_refl after.marks

theorem kept_of_split (nesting : Nesting Data) (above below : List Nat) (after : Database Data)
    (split : nesting.owners = above ++ below) (size : below.length = after.marks.length) :
    nesting.kept after = below := by
  unfold kept
  rw [split, ← size, List.length_append, Nat.add_sub_cancel, List.drop_left]

theorem target_of_birth (nesting : Nesting Data) (index : Nat) (birth : Mark Data)
    (born : nesting.births[index]? = some birth) :
    nesting.target index = nesting.owners.find? fun owner =>
      nesting.births[owner]?.map Mark.name == some birth.name := by
  unfold target nameAt
  rw [born]
  rfl

theorem target_of_owner (nesting : Nesting Data) (index : Nat) (isOpen : index ∈ nesting.owners) :
    nesting.target index ≠ none := by
  intro nothing
  have passed := List.find?_eq_none.mp nothing index isOpen
  exact passed (beq_self_eq_true _)

theorem release_target (nesting : Nesting Data) (aligned : nesting.Aligned readName)
    (index : Nat) (savepoint : Savepoint) (verdict : Verdict)
    (found : nesting.scopes.objects[index]? = some (.savepoint savepoint)) :
    (∃ above owner below after, verdict = .proceeds ∧ nesting.target index = some owner ∧
      nesting.owners = above ++ owner :: below ∧ nesting.kept after = below ∧
      after.marks <:+ nesting.scopes.db.marks ∧
      savepoint.release readName verdict nesting.scopes.db =
        (after, { savepoint with isActive := false }, .ok ())) ∨
    ∃ thrown after, (verdict = .proceeds → nesting.target index = none) ∧
      after.marks <:+ nesting.scopes.db.marks ∧
      savepoint.release readName verdict nesting.scopes.db =
        (after, savepoint, .error thrown) := by
  obtain ⟨birth, born, read⟩ := aligned.named index savepoint found
  rw [target_of_birth nesting index birth born]
  rcases savepoint.release_cases readName verdict nesting.scopes.db birth.name read with
    ⟨mark, outer, after, proceeds, unwound, left_, result⟩ |
    ⟨thrown, after, refused, spared, result⟩
  · left
    rcases aligned.stack.unwind birth.name with ⟨nothing, _⟩ |
      ⟨found, rest, above, owner, below, at_, suffix, split, target, _, size⟩
    · cases nothing.symm.trans unwound
    · cases at_.symm.trans unwound
      refine ⟨above, owner, below, after, proceeds, target, split, ?_, ?_, result⟩
      · apply kept_of_split nesting (above ++ [owner]) below after
        · rw [split, List.append_assoc]
          rfl
        · rw [left_, size]
      · rw [left_]
        exact (List.suffix_cons mark outer).trans suffix
  · right
    refine ⟨thrown, after, fun proceeds => ?_, ?_, result⟩
    · rcases aligned.stack.unwind birth.name with ⟨_, nothing⟩ | ⟨_, _, _, _, _, at_, _⟩
      · exact nothing
      · cases at_.symm.trans (refused proceeds)
    · exact marks_of_spared spared

theorem rollback_target (nesting : Nesting Data) (aligned : nesting.Aligned readName)
    (index : Nat) (savepoint : Savepoint) (verdict : Verdict)
    (found : nesting.scopes.objects[index]? = some (.savepoint savepoint)) :
    (∃ owner after, verdict = .proceeds ∧ nesting.target index = some owner ∧
      nesting.contentAt owner = some after.visible ∧
      after.marks <:+ nesting.scopes.db.marks ∧
      savepoint.rollback readName verdict nesting.scopes.db = (after, .ok ())) ∨
    ∃ thrown after, (verdict = .proceeds → nesting.target index = none) ∧
      after.marks <:+ nesting.scopes.db.marks ∧
      savepoint.rollback readName verdict nesting.scopes.db = (after, .error thrown) := by
  obtain ⟨birth, born, read⟩ := aligned.named index savepoint found
  rw [target_of_birth nesting index birth born]
  rcases savepoint.rollback_cases readName verdict nesting.scopes.db birth.name read with
    ⟨mark, outer, after, proceeds, unwound, left_, seen, result⟩ |
    ⟨thrown, after, refused, spared, result⟩
  · left
    rcases aligned.stack.unwind birth.name with ⟨nothing, _⟩ |
      ⟨found, rest, above, owner, below, at_, suffix, split, target, origin, size⟩
    · cases nothing.symm.trans unwound
    · cases at_.symm.trans unwound
      refine ⟨owner, after, proceeds, target, ?_, ?_, result⟩
      · rw [contentAt, origin, seen]
        rfl
      · rw [left_]
        exact suffix
  · right
    refine ⟨thrown, after, fun proceeds => ?_, marks_of_spared spared, result⟩
    rcases aligned.stack.unwind birth.name with ⟨_, nothing⟩ | ⟨_, _, _, _, _, at_, _⟩
    · exact nothing
    · cases at_.symm.trans (refused proceeds)

/-- Taking an owner's savepoint off the stack with all above it ends the object's own and none
that is older exactly if the object is the owner. -/
theorem ends_iff (before after : Nesting Data) (above below : List Nat) (owner index : Nat)
    (ordered : before.owners.Pairwise (· > ·)) (split : before.owners = above ++ owner :: below)
    (left_ : after.owners = below) :
    (index ∈ before.owners ∧ before.Ends index after) ↔ owner = index := by
  unfold Ends
  rw [left_]
  rw [split] at ordered ⊢
  obtain ⟨_, under, across⟩ := List.pairwise_append.mp ordered
  have younger (other : Nat) (member : other ∈ above) : owner < other :=
    across other member owner List.mem_cons_self
  have older (other : Nat) (member : other ∈ below) : other < owner :=
    (List.pairwise_cons.mp under).1 other member
  constructor
  · rintro ⟨member, absent, kept⟩
    rcases List.mem_append.mp member with isAbove | here
    · have gone := kept owner (List.mem_append_right _ List.mem_cons_self) (younger index isAbove)
      exact absurd (older owner gone) (Nat.lt_irrefl owner)
    · rcases List.mem_cons.mp here with same | isBelow
      · exact same.symm
      · exact absurd isBelow absent
  · rintro rfl
    refine ⟨List.mem_append_right _ List.mem_cons_self, fun here => ?_, fun other member less => ?_⟩
    · exact absurd (older owner here) (Nat.lt_irrefl owner)
    · rcases List.mem_append.mp member with isAbove | here
      · exact absurd (younger other isAbove) (Nat.lt_asymm less)
      · rcases List.mem_cons.mp here with same | isBelow
        · exact absurd same (Nat.ne_of_lt less)
        · exact isBelow

end Runs
end Nesting
end VSQLite
