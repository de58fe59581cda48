import Mathlib.Data.List.Basic

/-!
# The order of last uses

A history of uses, the newest first, orders keys by their last use.
-/

set_option autoImplicit false

namespace VSQLite.Lib

section Usage
variable {Key : Type} [DecidableEq Key]

/-- The last use of the one is older than the last use of the other. -/
def UsedBefore (uses : List Key) (old young : Key) : Prop := uses.idxOf young < uses.idxOf old

/-- The keys stand in the order of their last uses, the newest first. -/
def ByLastUse (uses keys : List Key) : Prop :=
  keys.Pairwise fun young old => UsedBefore uses old young

theorem usedBefore_cons (used old young : Key) (uses : List Key) (other : used ≠ young)
    (before : UsedBefore uses old young) (also : used ≠ old) :
    UsedBefore (used :: uses) old young := by
  unfold UsedBefore at before ⊢
  rw [List.idxOf_cons_ne _ other, List.idxOf_cons_ne _ also]
  omega

theorem usedBefore_self (used old : Key) (uses : List Key) (other : used ≠ old) :
    UsedBefore (used :: uses) old used := by
  unfold UsedBefore
  rw [List.idxOf_cons_self, List.idxOf_cons_ne _ other]
  exact Nat.succ_pos _

namespace ByLastUse

variable {uses keys : List Key}

theorem sublist (ordered : ByLastUse uses keys) {fewer : List Key} (part : fewer.Sublist keys) :
    ByLastUse uses fewer := List.Pairwise.sublist part ordered

theorem use_absent (ordered : ByLastUse uses keys) {used : Key} (absent : used ∉ keys) :
    ByLastUse (used :: uses) keys := by
  refine ordered.imp_of_mem fun {young old} youngIn oldIn before => ?_
  have notYoung : used ≠ young := fun same => absent (same ▸ youngIn)
  have notOld : used ≠ old := fun same => absent (same ▸ oldIn)
  exact usedBefore_cons used old young uses notYoung before notOld

theorem use_front (ordered : ByLastUse uses keys) {used : Key} (absent : used ∉ keys) :
    ByLastUse (used :: uses) (used :: keys) := by
  refine List.pairwise_cons.mpr ⟨fun old member => ?_, ordered.use_absent absent⟩
  exact usedBefore_self used old uses fun same => absent (same ▸ member)

/-- Where a key that is used stays at its place, the order is right only if that is in front. -/
theorem use_kept_iff (ordered : ByLastUse uses keys) (distinct : keys.Nodup) {used : Key}
    (member : used ∈ keys) : ByLastUse (used :: uses) keys ↔ keys.head? = some used := by
  cases keys with
  | nil => cases member
  | cons first rest =>
      obtain ⟨notLater, _⟩ := List.nodup_cons.mp distinct
      constructor
      · intro after
        rcases List.mem_cons.mp member with same | later
        · rw [same]
          rfl
        · have front := (List.pairwise_cons.mp after).1 used later
          unfold UsedBefore at front
          rw [List.idxOf_cons_self] at front
          cases front
      · intro head
        cases Option.some.inj head
        exact use_front (ordered.sublist (List.sublist_cons_self ..)) notLater

/-- The last of the keys is the one whose last use is the oldest. -/
theorem oldest_last (ordered : ByLastUse uses keys) {last : Key}
    (found : keys.getLast? = some last) (other : Key) (member : other ∈ keys)
    (different : other ≠ last) : UsedBefore uses last other := by
  obtain ⟨front, rfl⟩ := List.getLast?_eq_some_iff.mp found
  have inFront : other ∈ front := by
    rcases List.mem_append.mp member with early | late
    · exact early
    · exact absurd (List.mem_singleton.mp late) different
  exact (List.pairwise_append.mp ordered).2.2 other inFront last (List.mem_singleton_self _)

end ByLastUse
end Usage
end VSQLite.Lib
