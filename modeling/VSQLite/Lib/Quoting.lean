import Mathlib.Data.List.Induction

/-!
# Quoting by doubling

A text between two quotes in which a quote is written twice.  Reading back, the text ends
at the first quote that is not followed by another.
-/

set_option autoImplicit false

namespace VSQLite.Lib

section Quoting
variable {Symbol : Type} [DecidableEq Symbol] (quote : Symbol)

/-- Every quote twice. -/
def double : List Symbol → List Symbol
  | [] => []
  | symbol :: rest =>
      if symbol = quote then quote :: quote :: double rest else symbol :: double rest

/-- The text that an opening quote begins and what stands after it, if it ends. -/
def unquote : List Symbol → Option (List Symbol × List Symbol)
  | [] => none
  | symbol :: rest =>
      if symbol = quote then
        match rest with
        | [] => some ([], [])
        | next :: later =>
            if next = quote then (unquote later).map fun read => (quote :: read.1, read.2)
            else some ([], next :: later)
      else (unquote rest).map fun read => (symbol :: read.1, read.2)

variable {quote} {text rest : List Symbol}

@[simp] theorem double_nil : double quote ([] : List Symbol) = [] := rfl

@[simp] theorem double_quote : double quote (quote :: text) =
    quote :: quote :: double quote text := if_pos rfl

theorem double_other {symbol : Symbol} (other : symbol ≠ quote) :
    double quote (symbol :: text) = symbol :: double quote text := if_neg other

theorem unquote_other {symbol : Symbol} (other : symbol ≠ quote) :
    unquote quote (symbol :: rest) =
      (unquote quote rest).map fun read => (symbol :: read.1, read.2) := by
  rw [unquote.eq_def]
  exact if_neg other

theorem unquote_pair : unquote quote (quote :: quote :: rest) =
    (unquote quote rest).map fun read => (quote :: read.1, read.2) := by
  rw [unquote.eq_def]
  simp

theorem unquote_closing (closed : rest.head? ≠ some quote) :
    unquote quote (quote :: rest) = some ([], rest) := by
  rw [unquote.eq_def]
  cases rest with
  | nil => simp
  | cons next later =>
      have other : next ≠ quote := fun same => closed (congrArg some same)
      simp [other]

theorem mem_double_iff {symbol : Symbol} : symbol ∈ double quote text ↔ symbol ∈ text := by
  induction text with
  | nil => exact Iff.rfl
  | cons first rest ih =>
      by_cases same : first = quote
      · subst same
        rw [double_quote, List.mem_cons, List.mem_cons, List.mem_cons, ih, ← or_assoc, or_self]
      · rw [double_other same, List.mem_cons, List.mem_cons, ih]

/-- What is quoted reads back, and nothing more is read. -/
theorem unquote_double (closed : rest.head? ≠ some quote) :
    unquote quote (double quote text ++ quote :: rest) = some (text, rest) := by
  induction text with
  | nil => exact unquote_closing closed
  | cons symbol text ih =>
      by_cases same : symbol = quote
      · subst same
        rw [double_quote, List.cons_append, List.cons_append, unquote_pair, ih]
        rfl
      · rw [double_other same, List.cons_append, unquote_other same, ih]
        rfl

theorem unquote_double_open : unquote quote (double quote text) = none := by
  induction text with
  | nil => rfl
  | cons symbol text ih =>
      by_cases same : symbol = quote
      · subst same
        rw [double_quote, unquote_pair, ih]
        rfl
      · rw [double_other same, unquote_other same, ih]
        rfl

theorem unquote_length {value after : List Symbol}
    (read : unquote quote text = some (value, after)) :
    value.length + after.length < text.length := by
  induction text using List.twoStepInduction generalizing value with
  | nil => cases read
  | singleton symbol =>
      by_cases same : symbol = quote
      · subst same
        rw [unquote_closing (by simp)] at read
        cases read
        exact Nat.zero_lt_one
      · rw [unquote_other same] at read
        cases read
  | cons_cons symbol next later two one =>
      by_cases same : symbol = quote
      · subst same
        by_cases pair : next = symbol
        · subst pair
          rw [unquote_pair] at read
          obtain ⟨⟨inner, rest⟩, inside, same⟩ := Option.map_eq_some_iff.mp read
          cases same
          have shorter := two inside
          simp only [List.length_cons] at *
          omega
        · have ends : (next :: later).head? ≠ some symbol :=
            fun head => pair (Option.some.inj head)
          rw [unquote_closing ends] at read
          cases read
          simp only [List.length_cons, List.length_nil]
          omega
      · rw [unquote_other same] at read
        obtain ⟨⟨inner, rest⟩, inside, same⟩ := Option.map_eq_some_iff.mp read
        cases same
        have shorter := one next inside
        simp only [List.length_cons] at *
        omega

theorem unquote_raw_iff (closed : rest.head? ≠ some quote) :
    unquote quote (text ++ quote :: rest) = some (text, rest) ↔ quote ∉ text := by
  induction text with
  | nil => simp [unquote_closing closed]
  | cons symbol text ih =>
      by_cases same : symbol = quote
      · subst same
        refine iff_of_false (fun read => ?_) (fun absent => absent List.mem_cons_self)
        cases text with
        | nil =>
            rw [List.cons_append, List.nil_append, unquote_pair] at read
            obtain ⟨⟨inner, after⟩, inside, same⟩ := Option.map_eq_some_iff.mp read
            cases same
            have shorter := unquote_length inside
            simp at shorter
        | cons next text =>
            by_cases pair : next = symbol
            · subst pair
              rw [List.cons_append, List.cons_append, unquote_pair] at read
              obtain ⟨⟨inner, after⟩, inside, same⟩ := Option.map_eq_some_iff.mp read
              cases same
              have shorter := unquote_length inside
              simp only [List.length_append, List.length_cons] at shorter
              omega
            · have ends : (next :: text ++ symbol :: rest).head? ≠ some symbol :=
                fun head => pair (Option.some.inj head)
              rw [List.cons_append, unquote_closing ends] at read
              cases read
      · rw [List.cons_append, unquote_other same, List.mem_cons, not_or]
        constructor
        · intro read
          obtain ⟨⟨inner, after⟩, inside, equal⟩ := Option.map_eq_some_iff.mp read
          cases equal
          exact ⟨Ne.symm same, ih.mp inside⟩
        · rintro ⟨-, absent⟩
          rw [ih.mpr absent]
          rfl

/-- Cutting a text off where something other than a quote stands, and quoting, come to the
same in either order. -/
theorem takeWhile_double (keeps : Symbol → Bool) (kept : keeps quote = true)
    (text : List Symbol) :
    (double quote text).takeWhile keeps = double quote (text.takeWhile keeps) := by
  induction text with
  | nil => rfl
  | cons symbol text ih =>
      by_cases same : symbol = quote
      · subst same
        simp [kept, ih]
      · rw [double_other same, List.takeWhile_cons, List.takeWhile_cons, ih]
        split
        · rw [double_other same]
        · rfl

end Quoting
end VSQLite.Lib
