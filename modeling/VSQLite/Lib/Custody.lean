import Mathlib.Data.List.Basic

/-!
# Custody of resources

Resources are numbered in the order they are allocated.  Each is with a keeper until it is
released.  The books are settled when every resource allocated so far is kept in one place
and was not released, or is kept nowhere and was released once.
-/

set_option autoImplicit false

namespace VSQLite.Lib

/-- `kept` lists the places where resources are kept, `released` the releases there were. -/
def Settled (allocated : Nat) (kept released : List Nat) : Prop :=
  ∀ resource, kept.count resource + released.count resource = if resource < allocated then 1 else 0

namespace Settled

variable {allocated : Nat} {kept released : List Nat}

theorem empty : Settled 0 [] [] := fun _ => rfl

theorem lt_of_kept (settled : Settled allocated kept released) {resource : Nat}
    (member : resource ∈ kept) : resource < allocated := by
  have total := settled resource
  have positive := List.count_pos_iff.mpr member
  split at total
  · assumption
  · omega

theorem lt_of_released (settled : Settled allocated kept released) {resource : Nat}
    (member : resource ∈ released) : resource < allocated := by
  have total := settled resource
  have positive := List.count_pos_iff.mpr member
  split at total
  · assumption
  · omega

theorem not_released (settled : Settled allocated kept released) {resource : Nat}
    (member : resource ∈ kept) : resource ∉ released := by
  have total := settled resource
  have positive := List.count_pos_iff.mpr member
  intro gone
  have also := List.count_pos_iff.mpr gone
  split at total <;> omega

/-- A resource that is kept nowhere was released, and only once. -/
theorem count_released (settled : Settled allocated kept released) {resource : Nat}
    (bound : resource < allocated) (absent : resource ∉ kept) : released.count resource = 1 := by
  have total := settled resource
  rw [if_pos bound, List.count_eq_zero.mpr absent] at total
  omega

theorem release (settled : Settled allocated kept released) (given rest : List Nat)
    (parts : kept.Perm (given ++ rest)) : Settled allocated rest (given ++ released) := by
  intro resource
  have total := settled resource
  rw [parts.count_eq, List.count_append] at total
  rw [List.count_append]
  omega

theorem perm (settled : Settled allocated kept released) {other : List Nat}
    (same : other.Perm kept) : Settled allocated other released := by
  intro resource
  rw [same.count_eq]
  exact settled resource

theorem allocate_iff (settled : Settled allocated kept released) (places gone : Nat) :
    Settled (allocated + 1) (List.replicate places allocated ++ kept)
        (List.replicate gone allocated ++ released) ↔ places + gone = 1 := by
  have beyond := settled allocated
  rw [if_neg (Nat.lt_irrefl _)] at beyond
  constructor
  · intro after
    have total := after allocated
    rw [if_pos (Nat.lt_succ_self _), List.count_append, List.count_append,
      List.count_replicate_self, List.count_replicate_self] at total
    omega
  · intro once resource
    rw [List.count_append, List.count_append, List.count_replicate, List.count_replicate]
    by_cases new : resource = allocated
    · subst new
      rw [if_pos (Nat.lt_succ_self _)]
      simp only [BEq.rfl, if_true]
      omega
    · have total := settled resource
      have older : resource < allocated + 1 ↔ resource < allocated :=
        ⟨fun bound => Nat.lt_of_le_of_ne (Nat.le_of_lt_succ bound) new, Nat.lt_succ_of_lt⟩
      simp only [older, beq_iff_eq, Ne.symm new, if_false]
      omega

/-- Who releases what another keeps leaves the books unsettled. -/
theorem not_of_released_kept {resource : Nat} (member : resource ∈ kept) :
    ¬Settled allocated kept (resource :: released) := by
  intro settled
  exact settled.not_released member (List.mem_cons_self ..)

end Settled
end VSQLite.Lib
