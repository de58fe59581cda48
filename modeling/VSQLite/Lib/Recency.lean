import Mathlib.Data.List.Basic

/-!
# Bounded stores ordered by recency

A store is a list of keyed values, the most recently inserted first.  Values are
taken out by key and put in at the front; what does not fit is displaced.  The
conservation laws say that no operation loses or duplicates a value.
-/

set_option autoImplicit false

namespace VSQLite.Lib.Recency

section Store
variable {Key Val : Type} [DecidableEq Key]

abbrev lookup (key : Key) (entries : List (Key × Val)) : Option Val := entries.lookup key

def erase (key : Key) (entries : List (Key × Val)) : List (Key × Val) :=
  entries.filter fun entry => entry.1 ≠ key

def values (entries : List (Key × Val)) : List Val := entries.map Prod.snd

/-- At most one value is stored under each key. -/
def Keyed (entries : List (Key × Val)) : Prop := (entries.map Prod.fst).Nodup

/-- A store of this capacity keeps a new value under the key. -/
def Accepts (capacity : Nat) (key : Key) (entries : List (Key × Val)) : Prop :=
  0 < capacity ∧ lookup key entries = none

instance (capacity : Nat) (key : Key) (entries : List (Key × Val)) :
    Decidable (Accepts capacity key entries) :=
  decidable_of_iff (0 < capacity ∧ (lookup key entries).isNone = true) (by
    simp [Accepts])

/-- The store after the insertion, and the values it displaces: the new value itself
when it is not accepted, the last entry's when the store is full. -/
def insert (capacity : Nat) (key : Key) (value : Val) (entries : List (Key × Val)) :
    List (Key × Val) × List Val :=
  if Accepts capacity key entries then
    if capacity ≤ entries.length then
      ((key, value) :: entries.dropLast, (values entries).getLast?.toList)
    else ((key, value) :: entries, [])
  else (entries, [value])

theorem lookup_cons (key found : Key) (value : Val) (rest : List (Key × Val)) :
    lookup key ((found, value) :: rest) =
      if found = key then some value else lookup key rest := by
  rw [lookup, List.lookup_cons]
  by_cases same : found = key
  · simp [same]
  · simp [same, beq_eq_false_iff_ne.mpr (Ne.symm same)]

theorem lookup_eq_none_iff (key : Key) (entries : List (Key × Val)) :
    lookup key entries = none ↔ key ∉ entries.map Prod.fst := by
  rw [List.lookup_eq_none_iff, List.mem_map]
  constructor
  · rintro other ⟨entry, member, same⟩
    exact bne_iff_ne.mp (other entry member) same.symm
  · exact fun absent entry member => bne_iff_ne.mpr fun same => absent ⟨entry, member, same.symm⟩

theorem mem_of_lookup (key : Key) (value : Val) (entries : List (Key × Val))
    (found : lookup key entries = some value) : (key, value) ∈ entries := by
  obtain ⟨front, back, rfl, _⟩ := List.lookup_eq_some_iff.mp found
  exact List.mem_append_right _ List.mem_cons_self

theorem lookup_of_mem (key : Key) (value : Val) (entries : List (Key × Val))
    (keyed : Keyed entries) (member : (key, value) ∈ entries) :
    lookup key entries = some value := by
  induction entries with
  | nil => simp at member
  | cons entry rest ih =>
      obtain ⟨other, stored⟩ := entry
      obtain ⟨notLater, keyedRest⟩ := List.nodup_cons.mp keyed
      rcases List.mem_cons.mp member with head | tail
      · cases head
        simp [lookup]
      · have different : other ≠ key := by
          intro same
          exact notLater (List.mem_map.mpr ⟨(key, value), tail, same.symm⟩)
        rw [lookup_cons, if_neg different]
        exact ih keyedRest tail

theorem lookup_assign (keys : List Key) (value : Val) (key : Key) (entries : List (Key × Val)) :
    lookup key (keys.map (fun assigned => (assigned, value)) ++
        entries.filter fun entry => entry.1 ∉ keys) =
      if key ∈ keys then some value
      else lookup key (entries.filter fun entry => entry.1 ∉ keys) := by
  generalize entries.filter (fun entry => entry.1 ∉ keys) = others
  induction keys with
  | nil => rfl
  | cons first rest ih =>
      rw [List.map_cons, List.cons_append, lookup_cons, ih]
      by_cases same : first = key
      · rw [if_pos same, if_pos (same ▸ List.mem_cons_self ..)]
      · have member : key ∈ first :: rest ↔ key ∈ rest := by
          rw [List.mem_cons, or_iff_right (Ne.symm same)]
        simp only [if_neg same, member]

theorem lookup_filter (keys : List Key) (key : Key) (entries : List (Key × Val)) :
    lookup key (entries.filter fun entry => entry.1 ∉ keys) =
      if key ∈ keys then none else lookup key entries := by
  induction entries with
  | nil =>
      split <;> rfl
  | cons entry rest ih =>
      obtain ⟨found, value⟩ := entry
      by_cases dropped : found ∈ keys
      · rw [List.filter_cons_of_neg (by simpa using dropped), ih, lookup_cons]
        by_cases same : found = key
        · rw [if_pos (same ▸ dropped), if_pos (same ▸ dropped)]
        · rw [if_neg same]
      · rw [List.filter_cons_of_pos (by simpa using dropped), lookup_cons, ih, lookup_cons]
        by_cases same : found = key
        · rw [if_pos same, if_pos same, if_neg (same ▸ dropped)]
        · rw [if_neg same, if_neg same]

theorem erase_eq_self (key : Key) (entries : List (Key × Val))
    (absent : key ∉ entries.map Prod.fst) : erase key entries = entries := by
  apply List.filter_eq_self.mpr
  intro entry member
  have different : entry.1 ≠ key := fun same => absent (same ▸ List.mem_map_of_mem member)
  simpa using different

theorem mem_erase (key : Key) (entry : Key × Val) (entries : List (Key × Val)) :
    entry ∈ erase key entries ↔ entry ∈ entries ∧ entry.1 ≠ key := by
  simp [erase]

theorem keyed_erase (key : Key) (entries : List (Key × Val)) (keyed : Keyed entries) :
    Keyed (erase key entries) :=
  (List.filter_sublist.map Prod.fst).nodup keyed

theorem lookup_erase_self (key : Key) (entries : List (Key × Val)) :
    lookup key (erase key entries) = none := by
  rw [lookup_eq_none_iff]
  intro member
  obtain ⟨entry, kept, same⟩ := List.mem_map.mp member
  exact ((mem_erase key entry entries).mp kept).2 same

theorem lookup_erase_of_ne (key other : Key) (entries : List (Key × Val))
    (different : key ≠ other) :
    lookup key (erase other entries) = lookup key entries := by
  induction entries with
  | nil => rfl
  | cons entry rest ih =>
      obtain ⟨found, value⟩ := entry
      have tail : lookup key (rest.filter fun entry => entry.1 ≠ other) = lookup key rest := ih
      by_cases erased : found = other
      · subst erased
        rw [lookup_cons, if_neg (Ne.symm different), erase, List.filter_cons_of_neg (by simp)]
        exact tail
      · rw [erase, List.filter_cons_of_pos (by simp [erased]), lookup_cons, lookup_cons]
        split
        · rfl
        · exact tail

theorem length_erase_lt (key : Key) (value : Val) (entries : List (Key × Val))
    (member : (key, value) ∈ entries) : (erase key entries).length < entries.length :=
  List.length_filter_lt_length_iff_exists.mpr ⟨(key, value), member, by simp⟩

theorem insert_of_accepts (capacity : Nat) (key : Key) (value : Val)
    (entries : List (Key × Val)) (accepted : Accepts capacity key entries) :
    insert capacity key value entries =
      ((key, value) :: (if capacity ≤ entries.length then entries.dropLast else entries),
        if capacity ≤ entries.length then (values entries).getLast?.toList else []) := by
  rw [insert, if_pos accepted]
  split <;> rfl

theorem insert_of_not_accepts (capacity : Nat) (key : Key) (value : Val)
    (entries : List (Key × Val)) (refused : ¬Accepts capacity key entries) :
    insert capacity key value entries = (entries, [value]) := by
  rw [insert, if_neg refused]

theorem mem_insert (capacity : Nat) (key : Key) (value : Val) (entries : List (Key × Val))
    (entry : Key × Val) (member : entry ∈ (insert capacity key value entries).1) :
    entry ∈ entries ∨ (entry = (key, value) ∧ Accepts capacity key entries) := by
  unfold insert at member
  split at member
  · rename_i accepted
    split at member
    · rcases List.mem_cons.mp member with new | old
      · exact Or.inr ⟨new, accepted⟩
      · exact Or.inl (List.dropLast_subset entries old)
    · rcases List.mem_cons.mp member with new | old
      · exact Or.inr ⟨new, accepted⟩
      · exact Or.inl old
  · exact Or.inl member

theorem mem_insert_new (capacity : Nat) (key : Key) (value : Val) (entries : List (Key × Val))
    (accepted : Accepts capacity key entries) :
    (key, value) ∈ (insert capacity key value entries).1 := by
  unfold insert
  rw [if_pos accepted]
  split <;> exact List.mem_cons_self ..

section Conservation
variable [DecidableEq Val]

theorem count_erase (key : Key) (value : Val) (entries : List (Key × Val))
    (keyed : Keyed entries) :
    (values (erase key entries)).count value + (lookup key entries).toList.count value =
      (values entries).count value := by
  induction entries with
  | nil => simp [erase, values, lookup]
  | cons entry rest ih =>
      obtain ⟨found, stored⟩ := entry
      obtain ⟨notLater, keyedRest⟩ := List.nodup_cons.mp keyed
      by_cases same : found = key
      · subst same
        have unchanged := erase_eq_self found rest notLater
        have tailErased : erase found ((found, stored) :: rest) = erase found rest := by
          simp [erase]
        rw [tailErased, unchanged]
        simp [values, lookup, List.count_cons]
      · have kept : erase key ((found, stored) :: rest) = (found, stored) :: erase key rest := by
          simp [erase, same]
        have smaller := ih keyedRest
        rw [kept]
        simp only [values, lookup_cons, if_neg same, List.map_cons, List.count_cons] at smaller ⊢
        omega

theorem count_dropLast (value : Val) (found : List Val) :
    found.dropLast.count value + found.getLast?.toList.count value = found.count value := by
  cases split : found.getLast? with
  | none =>
      rw [List.getLast?_eq_none_iff.mp split]
      rfl
  | some last =>
      obtain ⟨front, rfl⟩ := List.getLast?_eq_some_iff.mp split
      simp [List.count_append]

/-- An insertion only moves values: what it displaces and what it keeps together are
the old values and the new one. -/
theorem count_insert (capacity : Nat) (key : Key) (new value : Val)
    (entries : List (Key × Val)) :
    (values (insert capacity key new entries).1).count value +
        (insert capacity key new entries).2.count value =
      (values entries).count value + [new].count value := by
  unfold insert
  split
  · split
    · have parts := count_dropLast value (values entries)
      have mapped : values entries.dropLast = (values entries).dropLast := by
        simp [values, List.map_dropLast]
      have front : values ((key, new) :: entries.dropLast) = new :: (values entries).dropLast := by
        rw [← mapped]
        rfl
      simp only [front, List.count_cons, List.count_nil]
      omega
    · simp [values, List.count_cons]
  · simp [List.count_cons]

/-- Of distinct values, an insertion does not displace what it keeps. -/
theorem not_displaced (capacity : Nat) (key : Key) (new value : Val) (entries : List (Key × Val))
    (distinct : (new :: values entries).Nodup)
    (kept : value ∈ values (insert capacity key new entries).1) :
    value ∉ (insert capacity key new entries).2 := by
  intro displaced
  have moved := count_insert capacity key new value entries
  have once := List.nodup_iff_count.mp distinct value
  have atKept := List.count_pos_iff.mpr kept
  have atDisplaced := List.count_pos_iff.mpr displaced
  rw [List.count_cons] at once
  simp only [List.count_cons, List.count_nil, Nat.zero_add] at moved
  omega

end Conservation

/-! ## Stores of different capacity -/

theorem keys_erase (key : Key) (entries : List (Key × Val)) :
    (erase key entries).map Prod.fst = (entries.map Prod.fst).filter (· ≠ key) := by
  rw [List.filter_map]
  rfl

theorem keys_insert (capacity : Nat) (key : Key) (value : Val) (entries : List (Key × Val))
    (bounded : entries.length ≤ capacity) (absent : key ∉ entries.map Prod.fst) :
    (insert capacity key value entries).1.map Prod.fst =
      (key :: entries.map Prod.fst).take capacity := by
  cases capacity with
  | zero =>
      have empty : entries = [] := List.length_eq_zero_iff.mp (Nat.le_zero.mp bounded)
      rw [empty]
      rfl
  | succ room =>
      have accepted : Accepts (room + 1) key entries :=
        ⟨Nat.succ_pos room, (lookup_eq_none_iff key entries).mpr absent⟩
      rw [insert_of_accepts _ _ _ _ accepted, List.map_cons, List.take_succ_cons]
      by_cases full : room + 1 ≤ entries.length
      · have length : entries.length - 1 = room := by omega
        rw [if_pos full, List.dropLast_eq_take, length, List.map_take]
      · have fits : (entries.map Prod.fst).length ≤ room := by
          rw [List.length_map]
          omega
        rw [if_neg full, List.take_of_length_le fits]

/-- What the smaller of two stores keeps is in front of what the larger one keeps. -/
theorem nested_erase (key : Key) (left right : List (Key × Val))
    (nested : left.map Prod.fst <+: right.map Prod.fst) :
    (erase key left).map Prod.fst <+: (erase key right).map Prod.fst := by
  rw [keys_erase, keys_erase]
  exact nested.filter _

theorem nested_insert (small large : Nat) (fits : small ≤ large) (key : Key) (value other : Val)
    (left right : List (Key × Val)) (leftBounded : left.length ≤ small)
    (rightBounded : right.length ≤ large) (absent : key ∉ right.map Prod.fst)
    (nested : left.map Prod.fst <+: right.map Prod.fst) :
    (insert small key value left).1.map Prod.fst <+:
      (insert large key other right).1.map Prod.fst := by
  have leftAbsent : key ∉ left.map Prod.fst := fun member => absent (nested.subset member)
  rw [keys_insert small key value left leftBounded leftAbsent,
    keys_insert large key other right rightBounded absent]
  have front : key :: left.map Prod.fst <+: key :: right.map Prod.fst :=
    List.cons_prefix_cons.mpr ⟨rfl, nested⟩
  refine List.prefix_take_iff.mpr ⟨(List.take_prefix small _).trans front, ?_⟩
  exact Nat.le_trans (List.length_take_le small _) fits

end Store
end VSQLite.Lib.Recency
