import VSQLite.Values.RoundTrip

/-!
# Rows of typed values

`q.each(args...)` takes an argument for every parameter, each of its own type, and
`result::get_tuple` reads a slice of the columns of a row, each as its own type.
-/

set_option autoImplicit false

namespace VSQLite
open Lib

def Tuple : List CppType → Type
  | [] => Unit
  | type :: rest => type.Val × Tuple rest

namespace Tuple

/-- What the arguments of `each` are handed to SQLite as, one `operator%` after the other. -/
def handed (emptyNull : Bool) : (types : List CppType) → Tuple types → Option (List Value)
  | [], _ => some []
  | type :: rest, (value, values) =>
      (Route.percent.value emptyNull type value).bind fun first =>
        (handed emptyNull rest values).map (first :: ·)

def settled : (types : List CppType) → Tuple types → Tuple (types.map CppType.owning)
  | [], _ => ()
  | type :: rest, (value, values) => (type.settled value, settled rest values)

def append : (first second : List CppType) → Tuple first → Tuple second → Tuple (first ++ second)
  | [], _, _, later => later
  | _ :: rest, second, (value, values), later => (value, append rest second values later)

/-- Every value is of a type `operator%` takes, is a whole number of microseconds where it is a
duration, and fits where it goes. -/
def Storable (limit : Nat) : (types : List CppType) → Tuple types → Prop
  | [], _ => True
  | type :: rest, (value, values) =>
      (type.bindable = true ∧ type.Exact value ∧ type.Fits value ∧ type.size value ≤ limit) ∧
        Storable limit rest values

end Tuple

/-! ## Reading -/

section Reading
variable (conversions : Conversions) (columns : List Value)

/-- `get<T>(idx)` on a row with these columns. -/
def getColumn (type : CppType) (idx : Int) : Option (Except Exception type.Val) :=
  if idx < 0 ∨ (columns.length : Int) ≤ idx then
    some (.error (.outOfRange (ascii "no such column index")))
  else (type.get conversions (columns.getD idx.toNat .null)).map .ok

/-- `tuple_from_row`; the first column that throws decides. -/
def tupleFromRow : (types : List CppType) → Int → Option (Except Exception (Tuple types))
  | [], _ => some (.ok ())
  | type :: rest, start =>
      (getColumn conversions columns type start).bind fun first =>
        (tupleFromRow rest (start + 1)).map fun later =>
          first.bind fun value => later.map fun values => (value, values)

/-- `get_tuple<Ts...>(start_column)`; there is no result where the sum overflows an `int`. -/
def getTuple (types : List CppType) (startColumn : Int) :
    Option (Except Exception (Tuple types)) :=
  if startColumn < 0 then
    some (.error (.databaseException (ascii "Tuple columns exceed result column count.")))
  else if 2 ^ 31 ≤ startColumn + types.length then none
  else if (columns.length : Int) < startColumn + types.length then
    some (.error (.databaseException (ascii "Tuple columns exceed result column count.")))
  else tupleFromRow conversions columns types startColumn

end Reading

/-! ## What is handed on is read back -/

section Slices
variable (conversions : Conversions) (emptyNull : Bool)

theorem handed_cons (type : CppType) (rest : List CppType) (value : type.Val)
    (values : Tuple rest) (first : Value) (others : List Value)
    (here : type.bindValue emptyNull value = some first) (bindable : type.bindable = true)
    (later : Tuple.handed emptyNull rest values = some others) :
    Tuple.handed emptyNull (type :: rest) (value, values) = some (first :: others) := by
  have route := route_value emptyNull type value .percent bindable
  rw [Tuple.handed, route, here, Option.bind_some, later, Option.map_some]

theorem getColumn_at (early : List Value) (value : Value) (late : List Value) (type : CppType)
    (read : type.Val) (back : type.get conversions value = some read) :
    getColumn conversions (early ++ value :: late) type early.length = some (.ok read) := by
  have inside : ¬((early.length : Int) < 0 ∨
      ((early ++ value :: late).length : Int) ≤ early.length) := by
    rw [List.length_append, List.length_cons]
    omega
  have here : (early ++ value :: late).getD (early.length : Int).toNat .null = value := by
    rw [Int.toNat_natCast, List.getD_eq_getElem?_getD, List.getElem?_append_right (Nat.le_refl _),
      Nat.sub_self]
    rfl
  rw [getColumn, if_neg inside, here, back, Option.map_some]

theorem tupleFromRow_cons (columns : List Value) (type : CppType) (rest : List CppType)
    (start : Int) (read : type.Val) (others : Tuple rest)
    (column : getColumn conversions columns type start = some (.ok read))
    (later : tupleFromRow conversions columns rest (start + 1) = some (.ok others)) :
    tupleFromRow conversions columns (type :: rest) start = some (.ok (read, others)) := by
  rw [tupleFromRow, column, Option.bind_some, later]
  rfl

/-- The values of a tuple are stored one by one, and a slice that starts where they do reads
them. -/
theorem tuple_stored (limit : Nat) (types : List CppType) (values : Tuple types)
    (storable : Tuple.Storable limit types values) :
    ∃ stored, Tuple.handed emptyNull types values = some stored ∧
      stored.length = types.length ∧ Fits limit stored ∧
      ∀ early late, tupleFromRow conversions (early ++ stored ++ late)
        (types.map CppType.owning) early.length = some (.ok (Tuple.settled types values)) := by
  induction types with
  | nil =>
      refine ⟨[], rfl, rfl, ?_, fun _ _ => rfl⟩
      intro _ member
      cases member
  | cons type rest ih =>
      obtain ⟨value, values⟩ := values
      obtain ⟨⟨bindable, exactly, fits, short⟩, others⟩ := storable
      obtain ⟨stored, later, length, small, back⟩ := ih values others
      obtain ⟨first, here, _, size, read⟩ :=
        type_stored conversions emptyNull type value exactly fits
      refine ⟨first :: stored, handed_cons emptyNull type rest value values first stored here
        bindable later, congrArg Nat.succ length, ?_, fun early late => ?_⟩
      · intro other member
        rcases List.mem_cons.mp member with rfl | tail
        · exact size ▸ short
        · exact small other tail
      · have column := getColumn_at conversions early first (stored ++ late) type.owning _ read
        have tail := back (early ++ [first]) late
        rw [List.length_append, List.length_singleton, Nat.cast_add, Nat.cast_one] at tail
        have same : early ++ [first] ++ stored ++ late = early ++ first :: stored ++ late := by
          simp
        have whole : early ++ first :: (stored ++ late) = early ++ first :: stored ++ late := by
          simp
        rw [same] at tail
        rw [whole] at column
        exact tupleFromRow_cons conversions _ type.owning _ _ _ _ column tail

theorem tuple_append (first second : List CppType) (values : Tuple first)
    (later : Tuple second) :
    Tuple.handed emptyNull (first ++ second) (values.append first second later) =
        (Tuple.handed emptyNull first values).bind fun early =>
          (Tuple.handed emptyNull second later).map (early ++ ·) := by
  induction first with
  | nil =>
      change Tuple.handed emptyNull second later = (Tuple.handed emptyNull second later).map _
      simp
  | cons type rest ih =>
      obtain ⟨value, values⟩ := values
      change Tuple.handed emptyNull (type :: (rest ++ second))
        (value, Tuple.append rest second values later) = _
      rw [Tuple.handed, ih values, Tuple.handed]
      cases Route.percent.value emptyNull type value with
      | none => rfl
      | some handed =>
          cases Tuple.handed emptyNull rest values with
          | none => rfl
          | some early =>
              cases Tuple.handed emptyNull second later with
              | none => rfl
              | some late => rfl

end Slices

/-! ## A row of parameters -/

namespace Session

/-- The columns of `SELECT ?1, ?2, ..` in the current row. -/
def selectedRow (session : Session) : Option (List Value) :=
  session.currentRow.map Row.bindings

section Each
variable {session : Session} {id : StmtId} {stmt : Stmt}

theorem Owns.each_bound (owns : session.Owns id stmt) (unused : session.command.lastArgIdx = 0)
    (ready : stmt.position = .ready) (sized : stmt.bindings.length = stmt.parameters.length)
    (values : List Value) (full : values.length = stmt.parameters.length)
    (fits : Fits session.sqlite.lengthLimit values) :
    ∃ bound, session.each values = (bound, .ok ()) ∧
      bound.Owns id { stmt with bindings := values } ∧
      bound.command.sql = session.command.sql := by
  have binds := percentAll_bound values session id stmt owns ready
    (by rw [unused, Nat.zero_add]; exact Nat.le_of_eq full)
  obtain ⟨passed, moved⟩ := binds.fits fits
  rw [unused, overwrite_all values stmt.bindings (full.trans sized.symm)] at moved
  have sql := (keeps_percentAll (values.map .positional) session).sql
  cases result : percentAll (values.map .positional) session with
  | mk bound outcome =>
      rw [result] at passed moved sql
      cases outcome with
      | error thrown => cases passed
      | ok _ =>
          refine ⟨bound, ?_, moved, sql⟩
          simp [each, result, moved.accessCheck, Except.map]

theorem Owns.only_row (owns : session.Owns id stmt) (ready : stmt.position = .ready) :
    ∃ read, session.nextRow (rowAnswer fun _ => 1) false = (read, .ok (true, false)) ∧
      read.selectedRow = some stmt.bindings := by
  obtain ⟨read, stepped, _, _, reads⟩ := owns.nextRow fun _ => 1
  have fresh : stmt.position.yielded = 0 := by
    rw [ready]
    rfl
  refine ⟨read, by simpa [fresh] using stepped, ?_⟩
  rw [selectedRow, reads.currentRow]
  simp [Stmt.currentRow, fresh]

end Each

/-- A query `SELECT ?1, ?2, ..` with an argument of its own type for every parameter: any slice of
the row's columns is read back as the arguments that were bound there, and a slice that is not
within the row throws. -/
theorem row_round_trip (conversions : Conversions) (emptyNull : Bool) (session : Session)
    (before asked after : List CppType) (early : Tuple before) (middle : Tuple asked)
    (late : Tuple after)
    (waiting : session.Waiting (before ++ (asked ++ after)).length (· = .ready))
    (few : (before ++ (asked ++ after)).length < 2 ^ 31)
    (first : Tuple.Storable session.sqlite.lengthLimit before early)
    (second : Tuple.Storable session.sqlite.lengthLimit asked middle)
    (third : Tuple.Storable session.sqlite.lengthLimit after late) :
    ∃ stored bound read,
      Tuple.handed emptyNull (before ++ (asked ++ after))
        (early.append before (asked ++ after) (middle.append asked after late)) = some stored ∧
      session.each stored = (bound, .ok ()) ∧
      bound.nextRow (rowAnswer fun _ => 1) false = (read, .ok (true, false)) ∧
      read.selectedRow = some stored ∧
      getTuple conversions stored (asked.map CppType.owning) before.length =
        some (.ok (Tuple.settled asked middle)) ∧
      ∀ (types : List CppType) (start : Int), start + types.length < 2 ^ 31 →
        start < 0 ∨ ((before ++ (asked ++ after)).length : Int) < start + types.length →
        getTuple conversions stored types start = some (.error
          (.databaseException (ascii "Tuple columns exceed result column count."))) := by
  obtain ⟨unused, id, stmt, owns, sized, bindings, ready⟩ := waiting
  obtain ⟨firsts, handedFirst, lengthFirst, fitsFirst, _⟩ :=
    tuple_stored conversions emptyNull _ before early first
  obtain ⟨seconds, handedSecond, lengthSecond, fitsSecond, back⟩ :=
    tuple_stored conversions emptyNull _ asked middle second
  obtain ⟨thirds, handedThird, lengthThird, fitsThird, _⟩ :=
    tuple_stored conversions emptyNull _ after late third
  have handed : Tuple.handed emptyNull (before ++ (asked ++ after))
      (early.append before (asked ++ after) (middle.append asked after late)) =
        some (firsts ++ (seconds ++ thirds)) := by
    rw [tuple_append, handedFirst, Option.bind_some, tuple_append, handedSecond,
      Option.bind_some, handedThird]
    rfl
  have length : (firsts ++ (seconds ++ thirds)).length = (before ++ (asked ++ after)).length := by
    simp only [List.length_append, lengthFirst, lengthSecond, lengthThird]
  have fits : Fits session.sqlite.lengthLimit (firsts ++ (seconds ++ thirds)) := by
    intro value member
    rcases List.mem_append.mp member with inFirst | rest
    · exact fitsFirst value inFirst
    · rcases List.mem_append.mp rest with inSecond | inThird
      · exact fitsSecond value inSecond
      · exact fitsThird value inThird
  obtain ⟨bound, each, moved, _⟩ := owns.each_bound unused ready (bindings.trans sized.symm)
    (firsts ++ (seconds ++ thirds)) (length.trans sized.symm) fits
  obtain ⟨read, next, row⟩ := moved.only_row ready
  refine ⟨_, bound, read, handed, each, next, row, ?_, fun types start small outside => ?_⟩
  · have slice := back firsts thirds
    rw [lengthFirst, List.append_assoc] at slice
    simp only [List.length_append] at few length
    rw [getTuple, if_neg (by omega), List.length_map, if_neg (by omega), List.length_append,
      List.length_append, if_neg (by omega)]
    exact slice
  · rw [← length] at outside
    rw [getTuple]
    by_cases negative : start < 0
    · rw [if_pos negative]
    · rw [if_neg negative, if_neg (by omega), if_pos (by omega)]

def selectingThree : Session :=
  ⟨some 0, ⟨[⟨0, ascii "SELECT ?, ?, ?", [none, none, none], [.null, .null, .null], .ready,
    false⟩], 30, []⟩, ⟨ascii "SELECT ?, ?, ?", some 0, 0⟩⟩

/-- The text between a `bool` and a vector of two bytes. -/
theorem row_round_trip_middle :
    ∃ stored bound read,
      Tuple.handed true [.base .bool, .optional .string, .base .byteVector]
        (true, some [97], [1, 2], ()) = some stored ∧
      selectingThree.each stored = (bound, .ok ()) ∧
      bound.nextRow (rowAnswer fun _ => 1) false = (read, .ok (true, false)) ∧
      read.selectedRow = some stored ∧
      getTuple ⟨fun _ => 0, fun _ => []⟩ stored [.optional .string] 1 =
        some (.ok (some [97], ())) := by
  obtain ⟨stored, bound, read, handed, each, next, row, slice, _⟩ :=
    row_round_trip ⟨fun _ => 0, fun _ => []⟩ true selectingThree [.base .bool]
      [.optional .string] [.base .byteVector] (true, ()) (some [97], ()) ([1, 2], ())
      ⟨rfl, 0, _, ⟨rfl, rfl, rfl⟩, rfl, rfl, rfl⟩ (show 3 < 2 ^ 31 by decide)
      ⟨⟨rfl, trivial, show 0 < 2 ^ 31 by decide, Nat.zero_le _⟩, trivial⟩
      ⟨⟨rfl, trivial, show 1 < 2 ^ 31 by decide, show 1 ≤ 30 by decide⟩, trivial⟩
      ⟨⟨rfl, trivial, show 2 < 2 ^ 31 by decide, show 2 ≤ 30 by decide⟩, trivial⟩
  exact ⟨stored, bound, read, handed, each, next, row, slice⟩

end Session
end VSQLite
