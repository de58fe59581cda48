import Mathlib.Algebra.BigOperators.Group.List.Basic
import Mathlib.Algebra.GroupWithZero.Nat
import Mathlib.Algebra.Order.BigOperators.Group.List
import Mathlib.Algebra.Order.Group.Nat

/-!
# Counting the members of a list that changes one position at a time
-/

set_option autoImplicit false

namespace VSQLite.Lib

section Census
variable {Member : Type}

theorem countP_pos_of_getElem? (counts : Member → Bool) (members : List Member) (index : Nat)
    (member : Member) (found : members[index]? = some member) (counted : counts member = true) :
    0 < members.countP counts :=
  List.countP_pos_iff.mpr ⟨member, List.mem_of_getElem? found, counted⟩

theorem countP_set_add (counts : Member → Bool) (members : List Member) (index : Nat)
    (old new : Member) (found : members[index]? = some old) :
    (members.set index new).countP counts + (if counts old then 1 else 0) =
      members.countP counts + (if counts new then 1 else 0) := by
  obtain ⟨inside, here⟩ := List.getElem?_eq_some_iff.mp found
  rw [List.countP_set inside, here]
  by_cases counted : counts old = true
  · have positive := countP_pos_of_getElem? counts members index old found counted
    rw [if_pos counted]
    omega
  · rw [if_neg counted]
    omega

theorem sum_map_set_add (weight : Member → Nat) (members : List Member) (index : Nat)
    (old new : Member) (found : members[index]? = some old) :
    ((members.set index new).map weight).sum + weight old =
      (members.map weight).sum + weight new := by
  obtain ⟨inside, rfl⟩ := List.getElem?_eq_some_iff.mp found
  have bounded : index < (members.map weight).length := by rwa [List.length_map]
  have replaced := List.sum_set (members.map weight) index (weight new)
  have kept := List.sum_set (members.map weight) index (weight members[index])
  rw [← List.map_set, List.set_getElem_self] at kept
  rw [← List.map_set] at replaced
  rw [if_pos bounded] at replaced kept
  omega

theorem sum_map_le (weight : Member → Nat) (bound : Nat) (members : List Member)
    (bounded : ∀ member, weight member ≤ bound) :
    (members.map weight).sum ≤ bound * members.length := by
  have most := List.sum_le_card_nsmul (members.map weight) bound fun _ member => by
    obtain ⟨other, _, rfl⟩ := List.mem_map.mp member
    exact bounded other
  rwa [List.length_map, Nat.nsmul_eq_mul, Nat.mul_comm] at most

theorem index_unique_of_countP_le_one (counts : Member → Bool) (members : List Member)
    (once : members.countP counts ≤ 1) (first second : Nat) (left right : Member)
    (leftFound : members[first]? = some left) (leftCounted : counts left = true)
    (rightFound : members[second]? = some right) (rightCounted : counts right = true) :
    first = second := by
  induction members generalizing first second with
  | nil => simp at leftFound
  | cons member rest ih =>
      simp only [List.countP_cons] at once
      cases first with
      | zero =>
          cases second with
          | zero => rfl
          | succ second =>
              simp only [List.getElem?_cons_zero, Option.some.injEq] at leftFound
              subst leftFound
              have later := countP_pos_of_getElem? counts rest second right
                (by simpa using rightFound) rightCounted
              rw [if_pos leftCounted] at once
              omega
      | succ first =>
          have later := countP_pos_of_getElem? counts rest first left
            (by simpa using leftFound) leftCounted
          cases second with
          | zero =>
              simp only [List.getElem?_cons_zero, Option.some.injEq] at rightFound
              subst rightFound
              rw [if_pos rightCounted] at once
              omega
          | succ second =>
              have same := ih (by omega) first second (by simpa using leftFound)
                (by simpa using rightFound)
              rw [same]

end Census
end VSQLite.Lib
