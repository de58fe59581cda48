import VSQLite.Open.Validation

/-!
# How far a connection is with opening its database

Whatever the answers, a file on disk is opened only after its path was seen to name a
regular file or nothing, only the mode `always_create` removes it, and not once the
connection has it open.
-/

set_option autoImplicit false

namespace VSQLite
open Lib

inductive Progress where
  | unchecked
  | checked
  | opened (file : Option Nat)
deriving DecidableEq, Repr

namespace Progress

def after (db : Text) : (request : OsRequest) → request.Answer → Progress → Progress
  | .status target, entry, .unchecked =>
      if target = db ∧ (entry.type = .notFound ∨ entry.type = .regular) then .checked
      else .unchecked
  | .openV2 _ _, .ok file, _ => .opened file
  | _, _, progress => progress

def may (db : Text) (mode : OpenMode) : Progress → OsRequest → Prop
  | progress, .remove target => mode = .alwaysCreate ∧ target = db ∧ progress = .checked
  | progress, .openV2 target _ => target = db ∧ progress = .checked
  | _, _ => True

def delivers (progress : Progress) (file : Option Nat) : Prop := progress = .opened file

end Progress

section Follows
variable (db : Text) (mode : OpenMode)

def early (progress : Progress) (_ : Unit) : Prop := progress = .unchecked ∨ progress = .checked

def ready (progress : Progress) (_ : Unit) : Prop := progress = .checked

theorem after_status_early (target : Text) (entry : Entry) (progress : Progress)
    (before : early progress ()) :
    early (Progress.after db (.status target) entry progress) () := by
  rcases before with rfl | rfl
  · simp only [Progress.after]
    split
    · exact Or.inr rfl
    · exact Or.inl rfl
  · exact Or.inr rfl

theorem ensureParentDirectorySafe_follows (path originalDb : Text) (progress : Progress)
    (before : early progress ()) :
    (ensureParentDirectorySafe path originalDb).Follows (Progress.after db) (Progress.may db mode)
      early progress := by
  by_cases named : parentPath path = []
  · unfold ensureParentDirectorySafe
    dsimp only
    rw [named]
    exact before
  · obtain ⟨next, shape, passes, throws⟩ :=
      ensureParentDirectorySafe_asks_once path originalDb named
    rw [shape]
    refine ⟨trivial, fun entry => ?_⟩
    by_cases bad : Entry.noDirectory entry
    · obtain ⟨failure, thrown⟩ := throws entry bad
      rw [thrown]
      exact trivial
    · rw [passes entry bad]
      exact after_status_early db (parentPath path) entry progress before

theorem validateEntry_follows (requireExists : Bool) (entry : Entry) (progress : Progress)
    (before : early progress ()) :
    (validateEntry db requireExists entry).Follows (Progress.after db) (Progress.may db mode)
      ready (Progress.after db (.status db) entry progress) := by
  have seen : entry.type = .notFound ∨ entry.type = .regular →
      ready (Progress.after db (.status db) entry progress) () := by
    intro plain
    rcases before with rfl | rfl
    · exact if_pos ⟨rfl, plain⟩
    · rfl
  by_cases bad : entry.noDatabase requireExists
  · obtain ⟨failure, thrown⟩ := validateEntry_refuses db requireExists entry bad
    rw [thrown]
    exact trivial
  · rw [validateEntry_passes db requireExists entry bad]
    apply seen
    by_contra other
    obtain ⟨present, irregular⟩ := not_or.mp other
    exact bad (Or.inr (Or.inr ⟨present, irregular⟩))

theorem validateDbPath_follows (requireExists : Bool) (ordinary : isSpecialDatabase db = false)
    (progress : Progress) (before : early progress ()) :
    (validateDbPath db requireExists).Follows (Progress.after db) (Progress.may db mode)
      ready progress := by
  unfold validateDbPath
  rw [ordinary, if_neg Bool.false_ne_true]
  split
  · trivial
  · apply Program.follows_bind _ _ early
    · exact ensureParentDirectorySafe_follows db mode db db progress before
    · intro progress _ still
      refine ⟨trivial, fun entry => ?_⟩
      exact validateEntry_follows db mode requireExists entry progress still

theorem removeExisting_follows (creating : mode = .alwaysCreate) :
    (removeExisting db).Follows (Progress.after db) (Progress.may db mode) ready .checked := by
  refine ⟨trivial, fun entry => ?_⟩
  simp only [Program.bind]
  split
  · trivial
  · split
    · trivial
    · split
      · trivial
      · refine ⟨⟨creating, rfl, rfl⟩, fun removed => ?_⟩
        simp only [Program.bind]
        split
        · trivial
        · rfl

theorem openWithFlags_follows (flags : OpenFlags) :
    (openWithFlags db flags).Follows (Progress.after db) (Progress.may db mode)
      Progress.delivers .checked := by
  refine ⟨⟨rfl, rfl⟩, fun opened => ?_⟩
  cases opened with
  | ok file => rfl
  | error code => trivial

theorem openInMode_follows (followSymlinks present : Bool) :
    (openInMode followSymlinks db false present mode).Follows (Progress.after db)
      (Progress.may db mode) Progress.delivers .checked := by
  cases mode with
  | openReadonly =>
      simp only [openInMode]
      split
      · trivial
      · exact openWithFlags_follows db _ _
  | openExisting =>
      simp only [openInMode]
      split
      · trivial
      · exact openWithFlags_follows db _ _
  | openOrCreate => exact openWithFlags_follows db _ _
  | alwaysCreate =>
      simp only [openInMode]
      split
      · apply Program.follows_bind _ _ ready
        · exact removeExisting_follows db _ rfl
        · intro progress _ checked
          rw [show progress = .checked from checked]
          exact openWithFlags_follows db _ _
      · exact openWithFlags_follows db _ _

theorem connectionOpen_follows (followSymlinks : Bool) (ordinary : isSpecialDatabase db = false) :
    (connectionOpen followSymlinks db mode).Follows (Progress.after db) (Progress.may db mode)
      Progress.delivers .unchecked := by
  rw [connectionOpen_ordinary followSymlinks db mode ordinary]
  apply Program.follows_bind _ _ ready
  · exact validateDbPath_follows db mode _ ordinary .unchecked (Or.inl rfl)
  · intro progress _ checked
    rw [show progress = .checked from checked]
    refine ⟨trivial, fun found => ?_⟩
    unfold openChecked
    split
    · trivial
    · exact openInMode_follows db mode followSymlinks found.1

end Follows
end VSQLite
