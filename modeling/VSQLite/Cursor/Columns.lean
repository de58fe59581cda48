import VSQLite.Command.Model
import VSQLite.Lib.Run
import VSQLite.Values.Get

/-!
# Columns by name and by index

`each()` counts the columns of the statement, and `begin()` asks for their names, both before
the first step.  If the schema has changed by then, SQLite compiles the statement again in
that step, and what the iterator knows of the columns is about the program before.
-/

set_option autoImplicit false

namespace VSQLite
open Lib

/-- What an iterator has of the columns: `m_columns` of its result, and the names in its
column cache. -/
structure RowColumns where
  columns : Nat
  cache : List Text
deriving DecidableEq, Repr

/-- The statement of a query and a range on it.  `schema` is what SQLite would compile the
text under now, `columns` are the names of the program it holds; `counted` is `m_columns` of
the result of a range that was not begun. -/
structure Reading (Schema : Type) where
  schema : Schema
  columns : List Text
  position : Position
  counted : Option Nat
  iterator : Option RowColumns
  onRow : Bool

/-- What a step comes to.  A step may fail before SQLite has looked at the schema. -/
inductive StepAnswer where
  | row
  | done
  | busy (lookedAt : Bool)
  | failed (code : Nat) (lookedAt : Bool)
deriving DecidableEq, Repr

def StepAnswer.code : StepAnswer → ResultCode
  | .row => .row
  | .done => .done
  | .busy _ => .busy
  | .failed code _ => .error code

def StepAnswer.lookedAt : StepAnswer → Bool
  | .busy lookedAt => lookedAt
  | .failed _ lookedAt => lookedAt
  | _ => true

inductive ReadingAction (Schema : Type) where
  | change (schema : Schema)
  | stepOnce (answer : StepAnswer)
  | reset
  | each
  | begin (meanwhile : Schema) (answer : StepAnswer)
  | increment (answer : StepAnswer)

namespace RowColumns
section Row
variable (conversions : Conversions) (row : RowColumns) (values : List Value)

/-- `row_view::get(int)`; SQLite gives NULL for a column that the row has not. -/
def get (type : CppType) (idx : Int) : Except Exception (Option type.Val) :=
  if idx < 0 ∨ (row.columns : Int) ≤ idx then
    .error (.outOfRange (ascii "no such column index"))
  else .ok (type.get conversions (values[idx.toNat]?.getD .null))

/-- `row_view::get(std::string_view)`: of columns of one name the cache has the first. -/
def getNamed (type : CppType) (name : Text) : Except Exception (Option type.Val) :=
  match row.cache.findIdx? (· = name) with
  | none => .error (.outOfRange (ascii "no such column name"))
  | some idx => row.get conversions values type idx

/-- The row is the one that is read: by name it is the first of the columns that have the
name now, and an index is one of theirs. -/
def Agrees (columns : List Text) : Prop :=
  ∀ values : List Value, values.length = columns.length →
    (∀ type name, match columns.findIdx? (· = name) with
      | none => ∃ what, row.getNamed conversions values type name = .error (.outOfRange what)
      | some idx => row.getNamed conversions values type name =
          .ok (type.get conversions (values[idx]?.getD .null))) ∧
    ∀ type idx, (∃ got, row.get conversions values type idx = .ok got) ↔
      0 ≤ idx ∧ idx < columns.length

end Row
end RowColumns

namespace Reading
section Reading
variable {Schema : Type} (compile : Schema → Option (List Text))

def prepared (schema : Schema) (columns : List Text) : Reading Schema :=
  ⟨schema, columns, .ready, none, none, false⟩

/-- The columns of the program that the next step runs: a statement that is not in the middle
of an execution is compiled again under the schema there is, if it still can be. -/
def program (reading : Reading Schema) : Option (List Text) :=
  if reading.position.midExecution then some reading.columns else compile reading.schema

def sqlite3Step (answer : StepAnswer) (reading : Reading Schema) :
    ResultCode × Reading Schema :=
  if answer.lookedAt then
    match reading.program compile with
    | none => (.error 1, { reading with position := .halted })
    | some columns =>
        (answer.code,
          { reading with columns := columns, position := reading.position.after answer.code })
  else (answer.code, { reading with position := reading.position.after answer.code })

/-- The names that the loop of `prime_cache` gets; for a column the statement has not, there is
no name. -/
def primeCache (counted : Nat) (reading : Reading Schema) : Option (List Text) :=
  if counted ≤ reading.columns.length then some (reading.columns.take counted) else none

/-- `advance`: the iterator goes on to a row or to the end, or the step throws. -/
def advance (row : RowColumns) (answer : StepAnswer) (reading : Reading Schema) :
    Reading Schema :=
  match reading.sqlite3Step compile answer with
  | (.row, stepped) => { stepped with iterator := some row, onRow := true }
  | (.done, stepped) => { stepped with iterator := none, onRow := false }
  | (_, stepped) => { stepped with onRow := false }

def step (reading : Reading Schema) : ReadingAction Schema → Option (Reading Schema)
  | .change schema => some { reading with schema := schema }
  | .stepOnce answer => some { (reading.sqlite3Step compile answer).2 with onRow := false }
  | .reset => some { reading with position := .ready, onRow := false }
  | .each =>
      some { reading with
        counted := some reading.columns.length, iterator := none, onRow := false }
  | .begin meanwhile answer =>
      match reading.counted with
      | none => none
      | some counted =>
          (reading.primeCache counted).map fun names =>
            -- an iterator whose first step throws is never there
            advance compile ⟨counted, names⟩ answer
              { reading with schema := meanwhile, counted := none, iterator := none }
  | .increment answer =>
      reading.iterator.map fun row => reading.advance compile row answer

/-- Whenever the iterator is on a row, it agrees with it. -/
def Agrees (conversions : Conversions) (reading : Reading Schema) : Prop :=
  ∀ row, reading.iterator = some row → reading.onRow = true →
    row.Agrees conversions reading.columns

end Reading
end Reading

/-! ## Lists of names -/

/-- The place has the name, and none before it has. -/
def FirstAt (names : List Text) (place : Nat) (name : Text) : Prop :=
  names[place]? = some name ∧ ∀ earlier < place, names[earlier]? ≠ some name

/-- As many columns, and the same name wherever one of the two has a name for the first
time. -/
def SameColumns (first second : List Text) : Prop :=
  first.length = second.length ∧
    ∀ place name, FirstAt first place name ∨ FirstAt second place name →
      first[place]? = second[place]?

theorem findIdx?_eq_some_iff_firstAt (names : List Text) (place : Nat) (name : Text) :
    names.findIdx? (· = name) = some place ↔ FirstAt names place name := by
  rw [List.findIdx?_eq_some_iff_getElem]
  constructor
  · rintro ⟨inside, here, before⟩
    refine ⟨by rw [List.getElem?_eq_getElem inside]; simpa using here, fun earlier less => ?_⟩
    rw [List.getElem?_eq_getElem (Nat.lt_trans less inside)]
    simpa using before earlier less
  · rintro ⟨here, before⟩
    obtain ⟨inside, same⟩ := List.getElem?_eq_some_iff.mp here
    refine ⟨inside, by simpa using same, fun earlier less => ?_⟩
    have different := before earlier less
    rw [List.getElem?_eq_getElem (Nat.lt_trans less inside)] at different
    simpa using different

theorem SameColumns.symm {first second : List Text} (same : SameColumns first second) :
    SameColumns second first :=
  ⟨same.1.symm, fun place name found => (same.2 place name found.symm).symm⟩

theorem SameColumns.firstAt {first second : List Text} (same : SameColumns first second)
    (place : Nat) (name : Text) (found : FirstAt first place name) :
    FirstAt second place name := by
  refine ⟨(same.2 place name (Or.inl found)).symm.trans found.1, ?_⟩
  intro earlier
  induction earlier using Nat.strong_induction_on with
  | _ earlier ih =>
      intro less there
      have firstThere : FirstAt second earlier name :=
        ⟨there, fun before lower => ih before lower (Nat.lt_trans lower less)⟩
      have here := (same.2 earlier name (Or.inr firstThere)).trans there
      exact found.2 earlier less here

theorem sameColumns_iff (first second : List Text) :
    SameColumns first second ↔ first.length = second.length ∧
      ∀ name, first.findIdx? (· = name) = second.findIdx? (· = name) := by
  constructor
  · intro same
    refine ⟨same.1, fun name => Option.ext fun place => ?_⟩
    rw [findIdx?_eq_some_iff_firstAt, findIdx?_eq_some_iff_firstAt]
    exact ⟨same.firstAt place name, same.symm.firstAt place name⟩
  · rintro ⟨length, found⟩
    refine ⟨length, fun place name either => ?_⟩
    rw [← findIdx?_eq_some_iff_firstAt, ← findIdx?_eq_some_iff_firstAt, found name,
      or_self] at either
    have here := (findIdx?_eq_some_iff_firstAt second place name).mp either
    rw [← found name] at either
    exact ((findIdx?_eq_some_iff_firstAt first place name).mp either).1.trans here.1.symm

/-! ## Rows -/

/-- A row whose columns all differ, and differ from NULL, when they are read as text. -/
def labelled (columns : Nat) : List Value :=
  (List.range columns).map fun idx => .text (List.replicate idx 97)

theorem getElem?_labelled (columns idx : Nat) :
    (labelled columns)[idx]? = if idx < columns then some (.text (List.replicate idx 97))
      else none := by
  unfold labelled
  rw [List.getElem?_map]
  by_cases inside : idx < columns
  · rw [List.getElem?_range inside, if_pos inside]
    rfl
  · rw [List.getElem?_eq_none (by simpa using inside), if_neg inside]
    rfl

theorem labelled_injective (conversions : Conversions) (columns first second : Nat)
    (inside : second < columns)
    (same : (CppType.base .string).get conversions ((labelled columns)[first]?.getD .null) =
      (CppType.base .string).get conversions ((labelled columns)[second]?.getD .null)) :
    first = second := by
  rw [getElem?_labelled, getElem?_labelled, if_pos inside] at same
  by_cases early : first < columns
  · rw [if_pos early] at same
    have bytes : List.replicate first (97 : UInt8) = List.replicate second 97 :=
      Option.some.inj same
    simpa using congrArg List.length bytes
  · rw [if_neg early] at same
    have bytes : ascii "NULL" = List.replicate second (97 : UInt8) := Option.some.inj same
    have letter : (78 : UInt8) ∈ List.replicate second (97 : UInt8) := bytes ▸ by decide
    exact absurd (List.eq_of_mem_replicate letter) (by decide)

namespace RowColumns
section Row
variable (conversions : Conversions) (row : RowColumns)

theorem get_ok_iff (values : List Value) (type : CppType) (idx : Int) :
    (∃ got, row.get conversions values type idx = .ok got) ↔ 0 ≤ idx ∧ idx < row.columns := by
  unfold get
  by_cases outside : idx < 0 ∨ (row.columns : Int) ≤ idx
  · rw [if_pos outside]
    refine ⟨fun ⟨_, impossible⟩ => (by cases impossible), fun inside => ?_⟩
    omega
  · rw [if_neg outside]
    exact ⟨fun _ => by omega, fun _ => ⟨_, rfl⟩⟩

theorem get_eq (values : List Value) (type : CppType) (idx : Nat) (inside : idx < row.columns) :
    row.get conversions values type idx = .ok (type.get conversions (values[idx]?.getD .null)) := by
  unfold get
  rw [if_neg (by omega)]
  rfl

theorem agrees_iff (columns : List Text) (whole : row.cache.length = row.columns) :
    row.Agrees conversions columns ↔ SameColumns row.cache columns := by
  have inCache : ∀ name idx, row.cache.findIdx? (· = name) = some idx → idx < row.columns := by
    intro name idx found
    rw [← whole]
    exact (List.findIdx?_eq_some_iff_getElem.mp found).1
  rw [sameColumns_iff]
  constructor
  · intro agrees
    obtain ⟨named, indexed⟩ := agrees (labelled columns.length) (by simp [labelled])
    have counts : row.columns = columns.length := by
      have accepted : ∀ idx : Int, (0 ≤ idx ∧ idx < row.columns) ↔
          (0 ≤ idx ∧ idx < columns.length) := by
        intro idx
        rw [← get_ok_iff conversions row (labelled columns.length) (.base .string) idx]
        exact indexed (.base .string) idx
      have left := accepted row.columns
      have right := accepted columns.length
      omega
    refine ⟨whole.trans counts, fun name => ?_⟩
    have here := named (.base .string) name
    unfold getNamed at here
    cases cached : row.cache.findIdx? (· = name) with
    | none =>
        cases now : columns.findIdx? (· = name) with
        | none => rfl
        | some place =>
            rw [cached, now] at here
            cases here
    | some idx =>
        have got := get_eq conversions row (labelled columns.length) (.base .string) idx
          (inCache name idx cached)
        cases now : columns.findIdx? (· = name) with
        | none =>
            rw [cached, now] at here
            obtain ⟨what, threw⟩ := here
            dsimp only at threw
            rw [got] at threw
            cases threw
        | some place =>
            rw [cached, now] at here
            dsimp only at here
            rw [got] at here
            have inside := (List.findIdx?_eq_some_iff_getElem.mp now).1
            rw [labelled_injective conversions columns.length idx place inside
              (Except.ok.inj here)]
  · rintro ⟨length, found⟩ values full
    have counts : row.columns = columns.length := whole.symm.trans length
    refine ⟨fun type name => ?_, fun type idx => ?_⟩
    · unfold getNamed
      rw [← found name]
      cases cached : row.cache.findIdx? (· = name) with
      | none => exact ⟨_, rfl⟩
      | some idx => exact get_eq conversions row values type idx (inCache name idx cached)
    · rw [get_ok_iff, counts]

end Row
end RowColumns

namespace Reading
section Reading
variable {Schema : Type} (compile : Schema → Option (List Text))

def Primed (reading : Reading Schema) : Prop :=
  ∀ row, reading.iterator = some row → row.cache.length = row.columns

/-- The columns an iterator brings into its step, and the schema it is made under. -/
def brings (reading : Reading Schema) : ReadingAction Schema → Option (List Text × Schema)
  | .begin meanwhile .row =>
      (reading.counted.bind reading.primeCache).map fun names => (names, meanwhile)
  | .increment .row => reading.iterator.map fun row => (row.cache, reading.schema)
  | _ => none

/-- Where an iterator steps to a row, the program that SQLite runs has the columns that were
asked for. -/
def StepsUnchanged (reading : Reading Schema) (action : ReadingAction Schema) : Prop :=
  ∀ names schema fresh, reading.brings action = some (names, schema) →
    { reading with schema := schema }.program compile = some fresh → SameColumns names fresh

theorem primeCache_length (counted : Nat) (reading : Reading Schema) (names : List Text)
    (primed : reading.primeCache counted = some names) : names.length = counted := by
  unfold primeCache at primed
  split at primed
  · rename_i enough
    cases primed
    exact List.length_take_of_le enough
  · cases primed

theorem advance_cases (row : RowColumns) (answer : StepAnswer) (reading : Reading Schema) :
    (∃ fresh, answer = .row ∧ reading.program compile = some fresh ∧
      (reading.advance compile row answer).iterator = some row ∧
      (reading.advance compile row answer).onRow = true ∧
      (reading.advance compile row answer).columns = fresh) ∨
    (answer = .row → reading.program compile = none) ∧
      (reading.advance compile row answer).onRow = false ∧
      ((reading.advance compile row answer).iterator = none ∨
        (reading.advance compile row answer).iterator = reading.iterator) := by
  unfold advance sqlite3Step
  cases answer with
  | row =>
      cases runs : reading.program compile with
      | none => exact Or.inr ⟨fun _ => rfl, rfl, Or.inr rfl⟩
      | some fresh => exact Or.inl ⟨fresh, rfl, rfl, rfl, rfl, rfl⟩
  | done =>
      refine Or.inr ⟨nofun, ?_⟩
      cases reading.program compile with
      | none => exact ⟨rfl, Or.inr rfl⟩
      | some fresh => exact ⟨rfl, Or.inl rfl⟩
  | busy lookedAt =>
      refine Or.inr ⟨nofun, ?_⟩
      cases lookedAt with
      | false => exact ⟨rfl, Or.inr rfl⟩
      | true =>
          cases reading.program compile with
          | none => exact ⟨rfl, Or.inr rfl⟩
          | some fresh => exact ⟨rfl, Or.inr rfl⟩
  | failed code lookedAt =>
      refine Or.inr ⟨nofun, ?_⟩
      cases lookedAt with
      | false => exact ⟨rfl, Or.inr rfl⟩
      | true =>
          cases reading.program compile with
          | none => exact ⟨rfl, Or.inr rfl⟩
          | some fresh => exact ⟨rfl, Or.inr rfl⟩

theorem primed_advance (row : RowColumns) (answer : StepAnswer) (reading : Reading Schema)
    (whole : row.cache.length = row.columns) (primed : reading.Primed) :
    (reading.advance compile row answer).Primed := by
  intro other found
  rcases reading.advance_cases compile row answer
    with ⟨_, _, _, iterator, _⟩ | ⟨_, _, gone | same⟩
  · rw [iterator] at found
    cases found
    exact whole
  · rw [gone] at found
    cases found
  · rw [same] at found
    exact primed other found

/-- The state after a row-yielding step agrees just when the program that ran has the columns
that were asked for. -/
theorem agrees_advance (conversions : Conversions) (row : RowColumns) (answer : StepAnswer)
    (reading : Reading Schema) (whole : row.cache.length = row.columns) :
    (reading.advance compile row answer).Agrees conversions ↔
      (answer = .row → ∀ fresh, reading.program compile = some fresh →
        SameColumns row.cache fresh) := by
  rcases reading.advance_cases compile row answer
    with ⟨fresh, isRow, runs, iterator, onRow, columns⟩ | ⟨fails, off, _⟩
  · rw [Agrees, iterator, onRow, columns]
    constructor
    · intro agrees _ other found
      cases runs.symm.trans found
      exact (RowColumns.agrees_iff conversions row fresh whole).mp (agrees row rfl rfl)
    · intro same other found _
      cases found
      exact (RowColumns.agrees_iff conversions row fresh whole).mpr (same isRow fresh runs)
  · constructor
    · intro _ isRow fresh found
      rw [fails isRow] at found
      cases found
    · intro _ other _ on
      rw [off] at on
      cases on

theorem sqlite3Step_iterator (answer : StepAnswer) (reading : Reading Schema) :
    (reading.sqlite3Step compile answer).2.iterator = reading.iterator := by
  unfold sqlite3Step
  split
  · split <;> rfl
  · rfl

theorem begin_cases (reading : Reading Schema) (meanwhile : Schema) (answer : StepAnswer)
    (next : Reading Schema) (enabled : reading.step compile (.begin meanwhile answer) = some next) :
    ∃ columns names, reading.counted = some columns ∧ reading.primeCache columns = some names ∧
      next = advance compile ⟨columns, names⟩ answer
        { reading with schema := meanwhile, counted := none, iterator := none } := by
  simp only [step] at enabled
  cases counted : reading.counted with
  | none =>
      rw [counted] at enabled
      cases enabled
  | some columns =>
      rw [counted] at enabled
      obtain ⟨names, primes, rfl⟩ := Option.map_eq_some_iff.mp enabled
      exact ⟨columns, names, rfl, primes, rfl⟩

theorem primed_step (reading : Reading Schema) (action : ReadingAction Schema)
    (next : Reading Schema) (primed : reading.Primed)
    (enabled : reading.step compile action = some next) : next.Primed := by
  cases action with
  | change schema =>
      cases enabled
      exact primed
  | stepOnce answer =>
      cases enabled
      intro row found
      exact primed row ((sqlite3Step_iterator compile answer reading).symm.trans found)
  | reset =>
      cases enabled
      exact primed
  | each =>
      cases enabled
      intro row found
      cases found
  | begin meanwhile answer =>
      obtain ⟨columns, names, _, primes, rfl⟩ :=
        begin_cases compile reading meanwhile answer next enabled
      apply primed_advance compile ⟨columns, names⟩ answer
      · exact primeCache_length columns reading names primes
      · intro row found
        cases found
  | increment answer =>
      obtain ⟨row, found, rfl⟩ := Option.map_eq_some_iff.mp enabled
      exact primed_advance compile row answer reading (primed row found) primed

theorem agrees_step_iff (conversions : Conversions) (reading : Reading Schema)
    (action : ReadingAction Schema) (next : Reading Schema) (primed : reading.Primed)
    (agrees : reading.Agrees conversions)
    (enabled : reading.step compile action = some next) :
    next.Agrees conversions ↔ reading.StepsUnchanged compile action := by
  cases action with
  | change schema =>
      cases enabled
      exact ⟨fun _ _ _ _ none => (by cases none), fun _ => agrees⟩
  | stepOnce answer =>
      cases enabled
      exact ⟨fun _ _ _ _ none => (by cases none), fun _ _ _ off => (by cases off)⟩
  | reset =>
      cases enabled
      exact ⟨fun _ _ _ _ none => (by cases none), fun _ _ _ off => (by cases off)⟩
  | each =>
      cases enabled
      exact ⟨fun _ _ _ _ none => (by cases none), fun _ _ _ off => (by cases off)⟩
  | begin meanwhile answer =>
      obtain ⟨columns, names, counted, primes, rfl⟩ :=
        begin_cases compile reading meanwhile answer next enabled
      rw [agrees_advance compile conversions ⟨columns, names⟩ answer _
        (primeCache_length columns reading names primes)]
      constructor
      · intro same asked schema fresh brought runs
        cases answer with
        | row =>
            simp only [brings, counted, Option.bind_some, primes, Option.map_some,
              Option.some.injEq, Prod.mk.injEq] at brought
            obtain ⟨rfl, rfl⟩ := brought
            exact same rfl fresh runs
        | _ => cases brought
      · rintro unchanged rfl fresh runs
        apply unchanged names meanwhile fresh _ runs
        simp only [brings, counted, Option.bind_some, primes, Option.map_some]
  | increment answer =>
      obtain ⟨row, found, rfl⟩ := Option.map_eq_some_iff.mp enabled
      rw [agrees_advance compile conversions row answer reading (primed row found)]
      constructor
      · intro same asked schema fresh brought runs
        cases answer with
        | row =>
            simp only [brings, found, Option.map_some, Option.some.injEq, Prod.mk.injEq] at brought
            obtain ⟨rfl, rfl⟩ := brought
            exact same rfl fresh runs
        | _ => cases brought
      · rintro unchanged rfl fresh runs
        apply unchanged row.cache reading.schema fresh _ runs
        simp only [brings, found, Option.map_some]

/-- Along every run of loops over a query, schema changes at any point included, a row view
reads by name and by index what the row has, exactly if no iterator steps to a row of a
program whose columns are not those it has asked for. -/
theorem columns_agree_iff (conversions : Conversions) (schema : Schema) (columns : List Text)
    (actions : List (ReadingAction Schema)) :
    EveryState (step compile) (fun reading => reading.Agrees conversions) actions
        (prepared schema columns) ↔
      EveryStep (step compile) (fun reading action => reading.StepsUnchanged compile action)
        actions (prepared schema columns) := by
  apply everyState_iff_everyStep (step compile) Primed
  · exact fun reading action next primed enabled =>
      primed_step compile reading action next primed enabled
  · exact fun reading action next primed agrees enabled =>
      agrees_step_iff compile conversions reading action next primed agrees enabled
  · intro row found
    cases found
  · intro row found
    cases found

/-- `SELECT * FROM t`, and the table is made anew with its two columns the other way round
before the loop. -/
theorem exchanged_columns_misread :
    ¬EveryState (step fun swapped : Bool =>
        some (if swapped then [ascii "b", ascii "a"] else [ascii "a", ascii "b"]))
      (fun reading => reading.Agrees ⟨fun _ => 0, fun _ => []⟩)
      [.change true, .each, .begin true .row]
      (prepared false [ascii "a", ascii "b"]) := by
  intro states
  have final := everyState_final _ _ _ _ _ states rfl
  have same := (RowColumns.agrees_iff _ ⟨2, [ascii "a", ascii "b"]⟩ [ascii "b", ascii "a"] rfl).mp
    (final ⟨2, [ascii "a", ascii "b"]⟩ rfl rfl)
  have first := same.2 0 (ascii "a") (Or.inl ⟨rfl, fun earlier less => by omega⟩)
  cases first

end Reading
end Reading
end VSQLite
