import Mathlib.Data.List.Basic

/-!
# Values written to places

A list of values, and writes to its places one after the other.  What a place holds in the end
is what was written to it last, and writes to different places may be made in any order.
-/

set_option autoImplicit false

namespace VSQLite.Lib.Writes

section Writes
variable {Val : Type}

def write : List (Nat × Val) → List Val → List Val
  | [], values => values
  | (place, value) :: rest, values => write rest (values.set place value)

def lastAt (place : Nat) : List (Nat × Val) → Option Val
  | [] => none
  | (written, value) :: rest =>
      (lastAt place rest).or (if written = place then some value else none)

/-- No place is written twice. -/
def Distinct (writes : List (Nat × Val)) : Prop := (writes.map Prod.fst).Nodup

instance (writes : List (Nat × Val)) : Decidable (Distinct writes) :=
  inferInstanceAs (Decidable (writes.map Prod.fst).Nodup)

theorem write_append (early late : List (Nat × Val)) (values : List Val) :
    write (early ++ late) values = write late (write early values) := by
  induction early generalizing values with
  | nil => rfl
  | cons first rest ih => exact ih _

theorem getElem?_write (writes : List (Nat × Val)) (values : List Val) (place : Nat)
    (bounded : place < values.length) :
    (write writes values)[place]? = (lastAt place writes).or values[place]? := by
  induction writes generalizing values with
  | nil => rfl
  | cons first rest ih =>
      obtain ⟨written, value⟩ := first
      have later := ih (values.set written value) (by rwa [List.length_set])
      rw [write, later, lastAt, Option.or_assoc]
      by_cases same : written = place
      · subst same
        rw [if_pos rfl, List.getElem?_set_self bounded, Option.some_or]
      · rw [if_neg same, List.getElem?_set_ne same, Option.none_or]

theorem write_perm {writes others : List (Nat × Val)} (perm : writes.Perm others)
    (distinct : Distinct writes) (values : List Val) :
    write writes values = write others values := by
  induction perm generalizing values with
  | nil => rfl
  | cons first _ ih => exact ih (List.nodup_cons.mp distinct).2 _
  | swap first second rest =>
      have different : second.1 ≠ first.1 := by
        intro same
        exact (List.nodup_cons.mp distinct).1 (same ▸ List.mem_cons_self ..)
      rw [write, write, write, write, List.set_comm _ _ different]
  | trans early _ ihEarly ihLate =>
      have still : Distinct _ := (early.map Prod.fst).nodup distinct
      exact (ihEarly distinct values).trans (ihLate still values)

end Writes
end VSQLite.Lib.Writes
