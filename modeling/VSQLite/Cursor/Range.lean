import VSQLite.Cursor.Stepping

/-!
# Iterating over a range

The iterators of a range share its result.  However they are copied, moved on and dropped,
the statement is stepped from row to row, and no more once it has none left.
-/

set_option autoImplicit false

namespace VSQLite
open Lib

/-- `iterator::operator==`. -/
def Object.equals : Object → Object → Bool
  | .iterator shared isEnd _ _, .iterator otherShared otherEnd _ _ =>
      if isEnd && otherEnd then true else shared = otherShared && isEnd = otherEnd
  | _, _ => false

def Object.endIterator : Object := .iterator none true none .unbound

/-- What a program does with a range and what it got from it; objects are numbered from the
range on. -/
inductive RangeOp where
  | begin (object : Nat) (names : Nat → Text)
  | makeEnd
  | copy (object : Nat)
  | increment (object : Nat)
  | dereference (object : Nat)
  | read (object : Nat) (column : Column)
  | destroy (object : Nat)

def RangeOp.action (base : Nat) (count : List Value → Nat) : RangeOp → CursorAction
  | .begin object names => .begin (base + object) (rowAnswer count) names
  | .makeEnd => .makeEnd
  | .copy object => .copy (base + object)
  | .increment object => .increment (base + object) (rowAnswer count)
  | .dereference object => .dereference (base + object)
  | .read object column => .viewGet (base + object) column
  | .destroy object => .destroy (base + object)

/-- The row that a call of `sqlite3_step` yields, if it is not `SQLITE_DONE`. -/
def StepCall.row (count : List Value → Nat) (call : StepCall) : Option Row :=
  if call.position.yielded < count call.bindings then
    some ⟨call.bindings, call.position.yielded + 1⟩
  else none

namespace Cursors

def rangeStep (base : Nat) (count : List Value → Nat) (cursors : Cursors) (op : RangeOp) :
    Option Cursors :=
  cursors.step (op.action base count)

/-- The rows that all steps since then have yielded, the first one first. -/
def Visits (count : List Value → Nat) (start cursors : Cursors) (rows : List (Option Row)) :
    Prop :=
  ∃ fresh, cursors.con.sqlite.log = fresh ++ start.con.sqlite.log ∧
    (fresh.reverse.filterMap Event.stepCall).map (StepCall.row count) = rows

/-- The rows up to one of them, and the end if it was reached. -/
def visited (bindings : List Value) (seen : Nat) (ended : Bool) : List (Option Row) :=
  (Session.rowsFrom bindings 0 seen).map some ++ if ended then [none] else []

def AtEnd (object : Nat) (cursors : Cursors) : Prop :=
  ∃ held, cursors.objects[object]? = some held ∧ held.equals .endIterator = true

/-- The object is an iterator that shows the current row of its result. -/
def OnRow (object : Nat) (cursors : Cursors) : Prop :=
  ∃ shared cache, cursors.objects[object]? =
    some (.iterator (some shared) false cache ⟨some shared, cache⟩)

/-- The iterator that an operation moves to the next row: the incremented one, if it has a
result, or the one that `begin()` makes of a range that was not begun. -/
def mover (base : Nat) (cursors : Cursors) : RangeOp → Option Nat
  | .begin object _ =>
      match cursors.objects[base + object]? with
      | some (.range (some _) false _) => some cursors.objects.length
      | _ => none
  | .increment object =>
      match cursors.objects[base + object]? with
      | some (.iterator (some _) _ _ _) => some (base + object)
      | _ => none
  | _ => none

/-- What the objects of a range are. -/
inductive OfRange (rid : Nat) : Object → Prop where
  | range (begun : Bool) (cache : Option Nat) : OfRange rid (.range (some rid) begun cache)
  | onRow (cache : Option Nat) :
      OfRange rid (.iterator (some rid) false cache ⟨some rid, cache⟩)
  | atEnd (cache : Option Nat) (current : RowView) :
      OfRange rid (.iterator none true cache current)
  | rowView (view : RowView) : OfRange rid (.rowView view)
  | destroyed : OfRange rid .destroyed

def place (seen : Nat) (ended : Bool) : Position :=
  if ended then .halted else if seen = 0 then .ready else .row seen

/-- How far a range is: so many rows seen, and whether the end was reached. -/
structure Ranged (base rid : Nat) (result : Result) (stmt : Stmt) (count : List Value → Nat)
    (start : Cursors) (seen : Nat) (ended : Bool) (cursors : Cursors) : Prop where
  serves : Serves rid { result with ended := ended } { stmt with position := place seen ended }
    cursors
  objects : ∀ index held, base ≤ index → cursors.objects[index]? = some held → OfRange rid held
  within : seen ≤ count stmt.bindings
  finished : ended = true → seen = count stmt.bindings
  visits : Visits count start cursors (visited stmt.bindings seen ended)

/-- A range has shown so many of its rows, and its end or not: that is what the steps of the
statement yielded, and where the statement stands. -/
structure Progress (count : List Value → Nat) (id : StmtId) (bindings : List Value)
    (start : Cursors) (seen : Nat) (ended : Bool) (cursors : Cursors) : Prop where
  within : seen ≤ count bindings
  finished : ended = true → seen = count bindings
  visits : Visits count start cursors (visited bindings seen ended)
  stands : ∃ held, cursors.con.sqlite.stmts[id]? = some held ∧ held.bindings = bindings ∧
    held.position = place seen ended

/-- `begin()` of a range and `++` of an iterator do not fail. -/
structure Answers (base : Nat) (count : List Value → Nat) (cursors : Cursors) : Prop where
  begins : ∀ object names shared begun cache,
    cursors.objects[base + object]? = some (.range shared begun cache) →
      ∃ next, rangeStep base count cursors (.begin object names) = some next
  increments : ∀ object shared isEnd cache current,
    cursors.objects[base + object]? = some (.iterator shared isEnd cache current) →
      ∃ next, rangeStep base count cursors (.increment object) = some next

@[simp] theorem place_running_yielded (seen : Nat) : (place seen false).yielded = seen := by
  by_cases none : seen = 0
  · simp [place, none, Position.yielded]
  · simp [place, none]

theorem place_eq_halted (seen : Nat) (ended : Bool) :
    place seen ended = .halted ↔ ended = true := by
  cases ended with
  | true => simp [place]
  | false => by_cases none : seen = 0 <;> simp [place, none]

section Ranged
variable {base rid : Nat} {result : Result} {stmt : Stmt} {count : List Value → Nat}
  {start cursors : Cursors} {seen : Nat} {ended : Bool}

theorem visits_step {rows : List (Option Row)} (visits : Visits count start cursors rows)
    {next : Cursors} (id : StmtId) (source : Text) (call : StepCall)
    (log : next.con.sqlite.log = .stepped id source call :: cursors.con.sqlite.log) :
    Visits count start next (rows ++ [call.row count]) := by
  obtain ⟨fresh, since, rfl⟩ := visits
  refine ⟨.stepped id source call :: fresh, by rw [log, since]; rfl, ?_⟩
  simp [Event.stepCall]

theorem visited_succ (bindings : List Value) (seen : Nat) :
    visited bindings seen false ++ [some ⟨bindings, seen + 1⟩] =
      visited bindings (seen + 1) false := by
  simp [visited, Session.rowsFrom, List.range_succ]

theorem Ranged.nextRow (ranged : Ranged base rid result stmt count start seen ended cursors) :
    ∃ next touches later finished,
      cursors.nextRow (rowAnswer count) rid { result with ended := ended } =
        ⟨next, .returned (some (!finished)), touches⟩ ∧
      next.objects = cursors.objects ∧
      Ranged base rid result stmt count start later finished next ∧
      ((seen < count stmt.bindings ∧ later = seen + 1 ∧ finished = false) ∨
        (seen = count stmt.bindings ∧ later = seen ∧ finished = true)) := by
  cases ended with
  | true =>
      refine ⟨cursors, [], seen, true, nextRow_ended _ rfl, rfl, ranged, ?_⟩
      exact Or.inr ⟨ranged.finished rfl, rfl, rfl⟩
  | false =>
      obtain ⟨next, touches, moved, objects, -, log, serves⟩ := ranged.serves.nextRow rfl count
      have visits := visits_step ranged.visits _ _ _ log
      simp only [place_running_yielded] at moved serves
      by_cases more : seen < count stmt.bindings
      · refine ⟨next, touches, seen + 1, false, ?_, objects, ⟨?_, objects ▸ ranged.objects,
          more, fun ended => (by cases ended), ?_⟩, Or.inl ⟨more, rfl, rfl⟩⟩
        · simpa [more] using moved
        · simpa [more, place] using serves
        · rw [← visited_succ]
          simpa [StepCall.row, Stmt.call, more] using visits
      · refine ⟨next, touches, seen, true, ?_, objects, ⟨?_, objects ▸ ranged.objects,
          ranged.within, fun _ => Nat.le_antisymm ranged.within (Nat.le_of_not_lt more), ?_⟩, ?_⟩
        · simpa [more] using moved
        · simpa [more, place] using serves
        · simpa [StepCall.row, Stmt.call, more, visited] using visits
        · exact Or.inr ⟨Nat.le_antisymm ranged.within (Nat.le_of_not_lt more), rfl, rfl⟩

theorem Ranged.congr (ranged : Ranged base rid result stmt count start seen ended cursors)
    {next : Cursors} (con : next.con = cursors.con) (results : next.results = cursors.results)
    (objects : ∀ index held, base ≤ index → next.objects[index]? = some held →
      OfRange rid held) :
    Ranged base rid result stmt count start seen ended next := by
  obtain ⟨fresh, since, rows⟩ := ranged.visits
  exact ⟨ranged.serves.congr con results, objects, ranged.within, ranged.finished,
    fresh, by rw [con, since], rows⟩

theorem Ranged.addObject (ranged : Ranged base rid result stmt count start seen ended cursors)
    (object : Object) (kind : OfRange rid object) :
    Ranged base rid result stmt count start seen ended (cursors.addObject object) := by
  refine ranged.congr rfl rfl fun index held later found => ?_
  change (cursors.objects ++ [object])[index]? = some held at found
  rcases Nat.lt_or_ge index cursors.objects.length with old | new
  · rw [List.getElem?_append_left old] at found
    exact ranged.objects index held later found
  · rw [List.getElem?_append_right new] at found
    rw [List.mem_singleton.mp (List.mem_of_getElem? found)]
    exact kind

theorem Ranged.setObject (ranged : Ranged base rid result stmt count start seen ended cursors)
    (place : Nat) (object : Object) (kind : OfRange rid object) :
    Ranged base rid result stmt count start seen ended (cursors.setObject place object) := by
  refine ranged.congr rfl rfl fun index held later found => ?_
  change (cursors.objects.set place object)[index]? = some held at found
  rw [List.getElem?_set] at found
  split at found
  · split at found
    · cases found
      exact kind
    · cases found
  · exact ranged.objects index held later found

theorem atEnd_congr {index : Nat} {next : Cursors} (objects : next.objects = cursors.objects)
    (atEnd : AtEnd index cursors) : AtEnd index next := by
  rw [AtEnd, objects]
  exact atEnd

theorem atEnd_addObject {index : Nat} (object : Object) (atEnd : AtEnd index cursors) :
    AtEnd index (cursors.addObject object) := by
  obtain ⟨held, found, same⟩ := atEnd
  have inside := (List.getElem?_eq_some_iff.mp found).1
  exact ⟨held, (List.getElem?_append_left inside).trans found, same⟩

theorem atEnd_setObject_ne {index place : Nat} (object : Object) (other : place ≠ index) :
    AtEnd index (cursors.setObject place object) ↔ AtEnd index cursors := by
  unfold AtEnd Cursors.setObject
  rw [List.getElem?_set_ne other]

theorem atEnd_setObject_self {index : Nat} {held : Object} (object : Object)
    (found : cursors.objects[index]? = some held) :
    AtEnd index (cursors.setObject index object) ↔ object.equals .endIterator = true := by
  have inside := (List.getElem?_eq_some_iff.mp found).1
  unfold AtEnd Cursors.setObject
  rw [List.getElem?_set_self inside]
  simp

@[simp] theorem advanced_equals_end (cache : Option Nat) (found : Bool) :
    (advanced rid cache found).equals .endIterator = !found := by
  cases found <;> rfl

theorem advanced_ofRange (cache : Option Nat) (found : Bool) :
    OfRange rid (advanced rid cache found) := by
  cases found with
  | true => exact .onRow cache
  | false => exact .atEnd cache _

/-- What an operation does to the iterators, and how far it takes the range. -/
structure Moves (base all : Nat) (before after : Cursors) (seen later : Nat)
    (ended finished : Bool) (op : RangeOp) : Prop where
  stays : ∀ object, AtEnd (base + object) before → op ≠ .destroy object →
    AtEnd (base + object) after
  moved : ∀ object, mover base before op = some object →
    (seen < all ∧ later = seen + 1 ∧ finished = false ∧ OnRow object after) ∨
      (seen = all ∧ later = seen ∧ finished = true ∧ AtEnd object after)
  unmoved : mover base before op = none → later = seen ∧ finished = ended
  increments : ∀ object, op = .increment object → mover base before op = none →
    AtEnd (base + object) after
  begins : ∀ object names, op = .begin object names → mover base before op = none →
    AtEnd before.objects.length after

/-- An operation that moves an iterator, which shows what the step came to. -/
theorem moves_advanced {all later : Nat} {finished : Bool} {object : Nat} {after : Cursors}
    {op : RangeOp} (cache : Option Nat) (moves : mover base cursors op = some object)
    (stays : ∀ object, AtEnd (base + object) cursors → op ≠ .destroy object →
      AtEnd (base + object) after)
    (reached : (seen < all ∧ later = seen + 1 ∧ finished = false) ∨
      (seen = all ∧ later = seen ∧ finished = true))
    (found : after.objects[object]? = some (advanced rid cache (!finished))) :
    Moves base all cursors after seen later ended finished op := by
  have some_ : mover base cursors op ≠ none := by
    rw [moves]
    exact Option.some_ne_none object
  refine ⟨stays, fun other same => ?_, fun idle => absurd idle some_,
    fun _ _ idle => absurd idle some_, fun _ _ _ idle => absurd idle some_⟩
  cases Option.some.inj (moves.symm.trans same)
  rcases reached with ⟨more, next, rfl⟩ | ⟨whole, next, rfl⟩
  · exact Or.inl ⟨more, next, rfl, rid, cache, found⟩
  · exact Or.inr ⟨whole, next, rfl, _, found, rfl⟩

/-- An operation that moves no iterator; one that it makes or increments is at the end. -/
theorem moves_idle {all : Nat} {after : Cursors} {op : RangeOp}
    (idle : mover base cursors op = none)
    (stays : ∀ object, AtEnd (base + object) cursors → op ≠ .destroy object →
      AtEnd (base + object) after)
    (increments : ∀ object, op = .increment object → AtEnd (base + object) after)
    (begins : ∀ object names, op = .begin object names → AtEnd cursors.objects.length after) :
    Moves base all cursors after seen seen ended ended op := by
  refine ⟨stays, fun object moved => ?_, fun _ => ⟨rfl, rfl⟩,
    fun object same _ => increments object same,
    fun object names same _ => begins object names same⟩
  rw [idle] at moved
  cases moved

theorem Ranged.increment (ranged : Ranged base rid result stmt count start seen ended cursors)
    (object : Nat) (next : Cursors)
    (enabled : rangeStep base count cursors (.increment object) = some next) :
    ∃ later finished, Ranged base rid result stmt count start later finished next ∧
      Moves base (count stmt.bindings) cursors next seen later ended finished
        (.increment object) := by
  obtain ⟨effect, ran, rfl⟩ := Option.map_eq_some_iff.mp enabled
  simp only [RangeOp.action, run, Cursors.increment] at ran
  split at ran
  · rename_i isEnd cache current found
    cases ran
    have kind := ranged.objects _ _ (Nat.le_add_right _ _) found
    cases kind
    have after := (atEnd_setObject_self (.iterator none true cache .unbound) found).mpr rfl
    have idle : mover base cursors (.increment object) = none := by
      simp only [mover, found]
    refine ⟨seen, ended, ranged.setObject _ _ (.atEnd cache _),
      moves_idle idle ?_ ?_ fun _ _ same => by cases same⟩
    · intro other atEnd _
      by_cases same : base + object = base + other
      · exact same ▸ after
      · exact (atEnd_setObject_ne _ same).mpr atEnd
    · rintro other ⟨⟩
      exact after
  · rename_i id isEnd cache current found
    have kind := ranged.objects _ _ (Nat.le_add_right _ _) found
    cases kind
    obtain ⟨shared, held, rfl⟩ := Option.map_eq_some_iff.mp ran
    rw [ranged.serves.held] at held
    cases held
    obtain ⟨moved, touches, later, finished, came, objects, next, reached⟩ := ranged.nextRow
    simp only [came]
    have moves : mover base cursors (.increment object) = some (base + object) := by
      simp only [mover, found]
    have before : ¬AtEnd (base + object) cursors := by
      rintro ⟨held, at_, same⟩
      rw [found] at at_
      cases at_
      exact absurd same (by simp [Object.equals, Object.endIterator])
    have inside := (List.getElem?_eq_some_iff.mp (objects ▸ found)).1
    refine ⟨later, finished, next.setObject _ _ (advanced_ofRange cache _),
      moves_advanced cache moves ?_ reached (List.getElem?_set_self inside)⟩
    intro other atEnd _
    by_cases same : base + object = base + other
    · exact absurd (same ▸ atEnd) before
    · exact (atEnd_setObject_ne _ same).mpr (atEnd_congr objects atEnd)
  · cases ran

theorem Ranged.addEnd (ranged : Ranged base rid result stmt count start seen ended cursors)
    (object : Nat) (names : Nat → Text) (idle : mover base cursors (.begin object names) = none) :
    ∃ later finished, Ranged base rid result stmt count start later finished
        (cursors.addObject .endIterator) ∧
      Moves base (count stmt.bindings) cursors (cursors.addObject .endIterator) seen later ended
        finished (.begin object names) := by
  exact ⟨seen, ended, ranged.addObject _ (.atEnd none _),
    moves_idle idle (fun other atEnd _ => atEnd_addObject _ atEnd) nofun
      fun _ _ _ => ⟨_, List.getElem?_concat_length, rfl⟩⟩

theorem rangeCache_objects (cache : Option Nat) :
    (cursors.rangeCache cache).1.objects = cursors.objects := by
  cases cache <;> rfl

theorem Ranged.primed (ranged : Ranged base rid result stmt count start seen ended cursors)
    (index : Nat) (cache : Option Nat) (names : Nat → Text) :
    ∃ next touches,
      ((cursors.rangeCache cache).1.setObject index
        (.range (some rid) true (some (cursors.rangeCache cache).2))).primeCache
          { result with ended := ended } (cursors.rangeCache cache).2 names =
        ⟨next, .returned none, touches⟩ ∧
      next.objects =
        cursors.objects.set index (.range (some rid) true (some (cursors.rangeCache cache).2)) ∧
      Ranged base rid result stmt count start seen ended next := by
  obtain ⟨con, results⟩ := rangeCache_keeps cache cursors
  have objects : (cursors.rangeCache cache).1.objects = cursors.objects :=
    rangeCache_objects cache
  have cached : Ranged base rid result stmt count start seen ended (cursors.rangeCache cache).1 :=
    ranged.congr con results (objects ▸ ranged.objects)
  have begun := cached.setObject index
    (.range (some rid) true (some (cursors.rangeCache cache).2)) (.range _ _)
  obtain ⟨returned, same, serves⟩ := begun.serves.primeCache (cursors.rangeCache cache).2 names
  obtain ⟨primedCon, primedResults⟩ := primeCache_keeps { result with ended := ended }
    (cursors.rangeCache cache).2 names ((cursors.rangeCache cache).1.setObject index
      (.range (some rid) true (some (cursors.rangeCache cache).2)))
  refine ⟨_, _, by rw [← returned], ?_, begun.congr primedCon primedResults ?_⟩
  · rw [same]
    exact congrArg (List.set · _ _) objects
  · rw [same]
    exact begun.objects

theorem Ranged.beginAt (ranged : Ranged base rid result stmt count start seen ended cursors)
    (object : Nat) (names : Nat → Text) (cache : Option Nat)
    (found : cursors.objects[base + object]? = some (.range (some rid) false cache)) :
    ∃ later finished,
      Ranged base rid result stmt count start later finished
        (cursors.beginAt (rowAnswer count) names (base + object) rid
          { result with ended := ended } cache).cursors ∧
      Moves base (count stmt.bindings) cursors
        (cursors.beginAt (rowAnswer count) names (base + object) rid
          { result with ended := ended } cache).cursors seen later ended finished
        (.begin object names) := by
  obtain ⟨primed, touches, prime, marked, here⟩ := ranged.primed (base + object) cache names
  obtain ⟨moved, more, later, finished, came, objects, next, reached⟩ := here.nextRow
  have moves : mover base cursors (.begin object names) = some cursors.objects.length := by
    simp only [mover, found]
  have whole : (cursors.beginAt (rowAnswer count) names (base + object) rid
      { result with ended := ended } cache).cursors =
        moved.addObject
          (advanced rid (some (cursors.rangeCache cache).2) (!finished)) := by
    unfold Cursors.beginAt
    simp only [prime, came]
  have length : moved.objects.length = cursors.objects.length := by
    rw [objects, marked, List.length_set]
  rw [whole]
  refine ⟨later, finished, next.addObject _ (advanced_ofRange _ _),
    moves_advanced (some (cursors.rangeCache cache).2) moves ?_ reached
      (length ▸ List.getElem?_concat_length)⟩
  intro other atEnd _
  apply atEnd_addObject
  have others : AtEnd (base + other) (cursors.setObject (base + object)
      (.range (some rid) true (some (cursors.rangeCache cache).2))) := by
    refine (atEnd_setObject_ne _ fun same => ?_).mpr atEnd
    obtain ⟨held, at_, equal⟩ := atEnd
    rw [← same, found] at at_
    cases at_
    cases equal
  exact atEnd_congr (objects.trans marked) others

theorem Ranged.begin (ranged : Ranged base rid result stmt count start seen ended cursors)
    (object : Nat) (names : Nat → Text) (next : Cursors)
    (enabled : rangeStep base count cursors (.begin object names) = some next) :
    ∃ later finished, Ranged base rid result stmt count start later finished next ∧
      Moves base (count stmt.bindings) cursors next seen later ended finished
        (.begin object names) := by
  obtain ⟨effect, ran, rfl⟩ := Option.map_eq_some_iff.mp enabled
  simp only [RangeOp.action, run, Cursors.begin] at ran
  split at ran
  · rename_i begun cache found
    cases ran
    exact ranged.addEnd object names (by simp only [mover, found])
  · rename_i id begun cache found
    have kind := ranged.objects _ _ (Nat.le_add_right _ _) found
    cases kind
    cases begun with
    | true =>
        cases ran
        exact ranged.addEnd object names (by simp only [mover, found])
    | false =>
        obtain ⟨shared, held, rfl⟩ := Option.map_eq_some_iff.mp ran
        rw [ranged.serves.held] at held
        cases held
        exact ranged.beginAt object names cache found
  · cases ran

theorem Ranged.progress (ranged : Ranged base rid result stmt count start seen ended cursors) :
    Progress count result.statement stmt.bindings start seen ended cursors := by
  obtain ⟨command, -, owns⟩ := ranged.serves.live
  exact ⟨ranged.within, ranged.finished, ranged.visits, _, owns.found, rfl, rfl⟩

theorem Ranged.answers (ranged : Ranged base rid result stmt count start seen ended cursors) :
    Answers base count cursors where
  begins object names shared begun cache found := by
    cases ranged.objects _ _ (Nat.le_add_right _ _) found
    cases begun <;>
      simp [rangeStep, Cursors.step, RangeOp.action, run, Cursors.begin, found,
        ranged.serves.held]
  increments object shared isEnd cache current found := by
    cases ranged.objects _ _ (Nat.le_add_right _ _) found <;>
      simp [rangeStep, Cursors.step, RangeOp.action, run, Cursors.increment, found,
        ranged.serves.held]

theorem Ranged.step (ranged : Ranged base rid result stmt count start seen ended cursors)
    (op : RangeOp) (next : Cursors) (enabled : rangeStep base count cursors op = some next) :
    ∃ later finished, Ranged base rid result stmt count start later finished next ∧
      Moves base (count stmt.bindings) cursors next seen later ended finished op := by
  cases op with
  | begin object names => exact ranged.begin object names next enabled
  | increment object => exact ranged.increment object next enabled
  | makeEnd =>
      cases enabled
      exact ⟨seen, ended, ranged.addObject _ (.atEnd none _),
        moves_idle rfl (fun object atEnd _ => atEnd_addObject _ atEnd) nofun nofun⟩
  | copy object =>
      obtain ⟨effect, ran, rfl⟩ := Option.map_eq_some_iff.mp enabled
      obtain ⟨held, found, rfl⟩ := Option.map_eq_some_iff.mp ran
      exact ⟨seen, ended, ranged.addObject _ (ranged.objects _ held (Nat.le_add_right _ _) found),
        moves_idle rfl (fun object atEnd _ => atEnd_addObject _ atEnd) nofun nofun⟩
  | dereference object =>
      obtain ⟨effect, ran, rfl⟩ := Option.map_eq_some_iff.mp enabled
      obtain ⟨view, found, rfl⟩ := Option.map_eq_some_iff.mp ran
      exact ⟨seen, ended, ranged.addObject _ (.rowView view),
        moves_idle rfl (fun object atEnd _ => atEnd_addObject _ atEnd) nofun nofun⟩
  | read object column =>
      obtain ⟨effect, ran, rfl⟩ := Option.map_eq_some_iff.mp enabled
      obtain ⟨view, found, rfl⟩ := Option.map_eq_some_iff.mp ran
      exact ⟨seen, ended, ranged, moves_idle rfl (fun object atEnd _ => atEnd) nofun nofun⟩
  | destroy object =>
      obtain ⟨effect, ran, rfl⟩ := Option.map_eq_some_iff.mp enabled
      obtain ⟨held, found, rfl⟩ := Option.map_eq_some_iff.mp ran
      refine ⟨seen, ended, ranged.setObject _ _ .destroyed,
        moves_idle rfl (fun other atEnd kept => ?_) nofun nofun⟩
      refine (atEnd_setObject_ne _ fun same => kept ?_).mpr atEnd
      rw [Nat.add_left_cancel same]

theorem Ranged.run (ranged : Ranged base rid result stmt count start seen ended cursors)
    (ops : List RangeOp) (final : Cursors)
    (ran : exec (rangeStep base count) ops cursors = some final) :
    ∃ later finished, Ranged base rid result stmt count start later finished final :=
  exec_preserves (rangeStep base count)
    (fun cursors => ∃ seen ended, Ranged base rid result stmt count start seen ended cursors)
    (fun _ op next ⟨_, _, ranged⟩ enabled =>
      let ⟨later, finished, ranged, _⟩ := ranged.step op next enabled
      ⟨later, finished, ranged⟩)
    ops cursors final ⟨seen, ended, ranged⟩ ran

end Ranged

theorem ranged_each (cursors : Cursors) (index columns : Nat) (command : Command)
    (live : cursors.query index = some command) (id : StmtId) (stmt : Stmt)
    (owns : (cursors.con.session command).Owns id stmt) (ready : stmt.position = .ready)
    (count : List Value → Nat) :
    ∃ start, cursors.step (.each index columns) = some start ∧
      start.objects = cursors.objects ++
        [.range (some cursors.results.length) false (some cursors.caches.length)] ∧
      Ranged cursors.objects.length cursors.results.length ⟨index, id, columns, false⟩ stmt count
        start 0 false start := by
  have same : { stmt with position := place 0 false } = stmt := by
    rw [show place 0 false = stmt.position from ready.symm]
  have made : cursors.getResult index command columns false =
      .ok ({ cursors with results := cursors.results ++ [⟨index, id, columns, false⟩] },
        cursors.results.length) := by
    simp only [getResult, owns.accessCheck]
  have stepped : cursors.step (.each index columns) =
      some (Cursors.makeRange cursors.results.length
        { cursors with results := cursors.results ++ [⟨index, id, columns, false⟩] }) := by
    simp only [step, run, live, Option.map_some, made]
  refine ⟨_, stepped, rfl, ⟨⟨⟨command, live, ?_⟩, List.getElem?_concat_length⟩, ?_,
    Nat.zero_le _, fun impossible => (by cases impossible), ⟨[], rfl, rfl⟩⟩⟩
  · rw [same]
    exact owns
  · intro at_ held later found
    change (cursors.objects ++ [_])[at_]? = some held at found
    rw [List.getElem?_append_right later] at found
    rw [List.mem_singleton.mp (List.mem_of_getElem? found)]
    exact .range false _

/-- Whatever is done with the range of a fresh query, its steps yield the rows in their
order, each once, and the end at most once and after all of them.  A moved iterator is on the
next row, or at the end, and that just when all rows were seen; what is at the end stays there. -/
theorem range_yields_each_row_once (cursors : Cursors) (index columns : Nat) (command : Command)
    (live : cursors.query index = some command) (id : StmtId) (stmt : Stmt)
    (owns : (cursors.con.session command).Owns id stmt) (ready : stmt.position = .ready)
    (count : List Value → Nat) :
    ∃ start, cursors.step (.each index columns) = some start ∧
      start.objects = cursors.objects ++
        [.range (some cursors.results.length) false (some cursors.caches.length)] ∧
      Progress count id stmt.bindings start 0 false start ∧
      ∀ ops reached, exec (rangeStep cursors.objects.length count) ops start = some reached →
        ∃ seen ended, Progress count id stmt.bindings start seen ended reached ∧
          Answers cursors.objects.length count reached ∧
          ∀ op next, rangeStep cursors.objects.length count reached op = some next →
            ∃ later finished, Progress count id stmt.bindings start later finished next ∧
              Moves cursors.objects.length (count stmt.bindings) reached next seen later ended
                finished op := by
  obtain ⟨start, made, objects, ranged⟩ :=
    ranged_each cursors index columns command live id stmt owns ready count
  refine ⟨start, made, objects, ranged.progress, fun ops reached ran => ?_⟩
  obtain ⟨seen, ended, here⟩ := ranged.run ops reached ran
  refine ⟨seen, ended, here.progress, here.answers, fun op next enabled => ?_⟩
  obtain ⟨later, finished, after, moves⟩ := here.step op next enabled
  exact ⟨later, finished, after.progress, moves⟩

def oneQuery : Cursors :=
  ⟨⟨some 0, Session.selection.sqlite, .construct ⟨0, false⟩, [⟨Session.selection.command, .live⟩]⟩,
    [], [], []⟩

/-- An iterator on the first of two notes, and a copy of it moved on twice. -/
def twoNotes : List RangeOp :=
  [.begin 0 (fun _ => ascii "body"), .copy 1, .increment 2, .increment 2]

/-- The copy is at the end after the second note, and so is the iterator it was copied from
once that is moved on. -/
theorem range_yields_each_row_once_two :
    ∃ start reached next, oneQuery.step (.each 0 1) = some start ∧
      exec (rangeStep 0 fun _ => 2) twoNotes start = some reached ∧
      rangeStep 0 (fun _ => 2) reached (.increment 1) = some next ∧
      Progress (fun _ => 2) 0 [.null] start 2 true next ∧
      AtEnd 1 next ∧ AtEnd 2 next ∧ ¬AtEnd 1 reached := by
  obtain ⟨start, made, -, -, whole⟩ := range_yields_each_row_once oneQuery 0 1
    Session.selection.command rfl 0 _ ⟨rfl, rfl, rfl⟩ rfl (fun _ => 2)
  cases made
  obtain ⟨seen, ended, here, -, steps⟩ := whole twoNotes _ rfl
  obtain ⟨later, finished, there, moves⟩ := steps (.increment 1) _ rfl
  obtain ⟨held, found, -, position⟩ := here.stands
  cases found
  have halted : ended = true := (place_eq_halted seen ended).mp position.symm
  obtain ⟨more, -⟩ | ⟨allSeen, rfl, rfl, atEnd⟩ := moves.moved 1 rfl
  · exact absurd (here.finished halted) (Nat.ne_of_lt more)
  · refine ⟨_, _, _, rfl, rfl, rfl, allSeen ▸ there, atEnd, moves.stays 2 ?_ nofun, ?_⟩
    · exact ⟨_, rfl, rfl⟩
    · rintro ⟨held, found, same⟩
      cases found
      cases same

end Cursors
end VSQLite
