import VSQLite.Connection.Sources
import VSQLite.Cursor.Model

/-!
# What a cursor may touch

A result is as good as the query it came from.  While the query object exists its
statement is the one the result copied, and nobody else has it; once the query is gone
both pointers dangle, whatever has become of the statement.
-/

set_option autoImplicit false

namespace VSQLite
open Lib

namespace Connection

section Slots
variable {db : DbHandle} {con : Connection}

theorem step_slots (state : Owned db con) (action : Action) (next : Connection)
    (enabled : con.step action = some next) :
    (∃ fresh, next.slots = con.slots ++ fresh) ∨
    ∃ index slot after, con.slots[index]? = some slot ∧ slot.phase ≠ .dead ∧
      next.slots = con.slots.set index after ∧
      (slot.phase = .live → after.phase = .dead ∨
        (after.phase = .live ∧ after.command.stmt = slot.command.stmt)) := by
  have unmoved : next.slots = con.slots → ∃ fresh, next.slots = con.slots ++ fresh :=
    fun same => ⟨[], by rw [same, List.append_nil]⟩
  cases moved_of_step action enabled with
  | construct sql _ => exact Or.inl ⟨_, rfl⟩
  | clearForSchema index command found =>
      exact Or.inr ⟨index, _, _, found, by simp, rfl, fun live => by cases live⟩
  | acquire index command found =>
      obtain ⟨stmt, phase, _, slots⟩ := acquire_slots state index command
      exact Or.inr ⟨index, _, _, found, by simp, slots, fun live => by cases live⟩
  | prepare index compiled home command _ found =>
      cases compiled with
      | error code => exact Or.inr ⟨index, _, _, found, by simp, rfl, fun live => by cases live⟩
      | empty => exact Or.inr ⟨index, _, _, found, by simp, rfl, fun live => by cases live⟩
      | statement parameters =>
          exact Or.inr ⟨index, _, _, found, by simp, rfl, fun live => by cases live⟩
  | use index op answer command found =>
      have keeps := op.run_keeps answer (con.session command)
      exact Or.inr ⟨index, _, _, found, by simp, rfl, fun _ => Or.inr ⟨rfl, keeps.stmt⟩⟩
  | destroy index command found =>
      refine Or.inr ⟨index, _, ⟨{ command with stmt := none }, .dead⟩, found, by simp, ?_,
        fun _ => Or.inl rfl⟩
      rw [destroy, setSlot, (finalize_frame command con).2]
  | configure config _ => exact Or.inl (unmoved rfl)
  | clearCache _ => exact Or.inl (unmoved rfl)
  | close _ _ => exact Or.inl (unmoved (close_slots con))

end Slots
end Connection

namespace Cursors

/-- The query the result came from owns the statement the result copied, or is gone. -/
def Bound (con : Connection) (result : Result) : Prop :=
  ∃ slot, con.slots[result.query]? = some slot ∧
    (slot.phase = .dead ∨
      (slot.phase = .live ∧ slot.command.stmt = some result.statement))

structure Sound (db : DbHandle) (cursors : Cursors) : Prop where
  owned : Connection.Owned db cursors.con
  results : ∀ result ∈ cursors.results, Bound cursors.con result

theorem bound_step {db : DbHandle} {con next : Connection} (state : Connection.Owned db con)
    (action : Action) (enabled : con.step action = some next) (result : Result)
    (bound : Bound con result) : Bound next result := by
  obtain ⟨slot, found, settled⟩ := bound
  have bounded := (List.getElem?_eq_some_iff.mp found).1
  rcases Connection.step_slots state action next enabled with
    ⟨fresh, slots⟩ | ⟨index, moved, after, movedFound, present, slots, kept⟩
  · exact ⟨slot, by rw [slots, List.getElem?_append_left bounded, found], settled⟩
  · by_cases same : index = result.query
    · subst same
      rw [found] at movedFound
      cases movedFound
      refine ⟨after, by rw [slots, List.getElem?_set_self bounded], ?_⟩
      rcases settled with dead | ⟨live, own⟩
      · exact absurd dead present
      · rcases kept live with dead | ⟨still, stmt⟩
        · exact Or.inl dead
        · exact Or.inr ⟨still, stmt.trans own⟩
    · exact ⟨slot, by rw [slots, List.getElem?_set_ne same, found], settled⟩

section Sound
variable {db : DbHandle} {cursors : Cursors}

theorem Sound.congr (sound : Sound db cursors) {next : Cursors} (con : next.con = cursors.con)
    (results : next.results = cursors.results) : Sound db next := by
  refine ⟨con ▸ sound.owned, fun result member => ?_⟩
  rw [con]
  exact sound.results result (results ▸ member)

theorem step_sound (sound : Sound db cursors) (action : Action) (con : Connection)
    (enabled : cursors.con.step action = some con) :
    Sound db { cursors with con := con } :=
  ⟨Connection.step_owned action con sound.owned enabled, fun result member =>
    bound_step sound.owned action enabled result (sound.results result member)⟩

theorem stepQuery_sound (sound : Sound db cursors) (answer : StepCall → ResultCode)
    (index : Nat) (command : Command) (found : cursors.query index = some command) :
    Sound db (cursors.stepQuery answer index command).1 := by
  apply step_sound sound (.use index .stepOnce answer)
  simp only [Connection.step]
  rw [show cursors.con.commandAt .live index = some command from found]
  rfl

theorem setResult_sound (sound : Sound db cursors) (id : Nat) (result new : Result)
    (found : cursors.results[id]? = some result) (query : new.query = result.query)
    (statement : new.statement = result.statement) : Sound db (cursors.setResult id new) := by
  refine ⟨sound.owned, fun other member => ?_⟩
  rcases List.mem_or_eq_of_mem_set member with old | rfl
  · exact sound.results other old
  · obtain ⟨slot, at_, settled⟩ := sound.results result (List.mem_of_getElem? found)
    exact ⟨slot, query ▸ at_, statement ▸ settled⟩

theorem getResult_sound (sound : Sound db cursors) (index : Nat) (command own : Command)
    (found : cursors.query index = some own) (same : command.stmt = own.stmt) (columns : Nat)
    (ended : Bool) (made : Cursors) (id : Nat)
    (returned : cursors.getResult index command columns ended = .ok (made, id)) :
    Sound db made := by
  unfold getResult at returned
  cases passed : (cursors.con.session command).accessCheck with
  | error thrown =>
      rw [passed] at returned
      cases returned
  | ok stmt =>
      rw [passed] at returned
      cases returned
      have statement := Session.accessCheck_ok _ stmt passed
      refine ⟨sound.owned, fun result member => ?_⟩
      rcases List.mem_append.mp member with old | new
      · exact sound.results result old
      · rw [List.mem_singleton.mp new]
        exact ⟨⟨own, .live⟩, (Connection.commandAt_eq_some _ _ _ _).mp found,
          Or.inr ⟨rfl, same.symm.trans statement⟩⟩

theorem nextRow_sound (sound : Sound db cursors) (answer : StepCall → ResultCode) (id : Nat)
    (result : Result) (found : cursors.results[id]? = some result) :
    Sound db (cursors.nextRow answer id result).cursors := by
  unfold nextRow
  split
  · exact sound
  · split
    · exact sound
    · rename_i command live
      have stepped := stepQuery_sound sound answer result.query command live
      dsimp only
      split
      · rename_i after thrown came
        rw [came] at stepped
        exact stepped
      · rename_i after row came
        rw [came] at stepped
        have same : after.results = cursors.results := by
          have results : (cursors.stepQuery answer result.query command).1.results =
            cursors.results := rfl
          rw [came] at results
          exact results
        exact setResult_sound stepped id result _ (same ▸ found) rfl rfl

theorem rangeCache_keeps (cache : Option Nat) (cursors : Cursors) :
    (cursors.rangeCache cache).1.con = cursors.con ∧
      (cursors.rangeCache cache).1.results = cursors.results := by
  cases cache with
  | none => exact ⟨rfl, rfl⟩
  | some cache => exact ⟨rfl, rfl⟩

theorem primeCache_keeps (result : Result) (cache : Nat) (names : Nat → Text)
    (cursors : Cursors) :
    (cursors.primeCache result cache names).cursors.con = cursors.con ∧
      (cursors.primeCache result cache names).cursors.results = cursors.results := by
  unfold primeCache
  split
  · exact ⟨rfl, rfl⟩
  · exact ⟨rfl, rfl⟩

theorem stepQuery_query (answer : StepCall → ResultCode) (index : Nat) (command : Command)
    (found : cursors.query index = some command) :
    ∃ own, (cursors.stepQuery answer index command).1.query index = some own ∧
      command.stmt = own.stmt := by
  have slot := (Connection.commandAt_eq_some _ _ _ _).mp found
  have bounded := (List.getElem?_eq_some_iff.mp slot).1
  have keeps := CommandOp.run_keeps answer (cursors.con.session command) .stepOnce
  refine ⟨_, (Connection.commandAt_eq_some _ _ _ _).mpr ?_, keeps.stmt.symm⟩
  exact List.getElem?_set_self bounded

theorem beginAt_sound (sound : Sound db cursors) (answer : StepCall → ResultCode)
    (names : Nat → Text) (index id : Nat) (result : Result) (cache : Option Nat)
    (found : cursors.results[id]? = some result) :
    Sound db (cursors.beginAt answer names index id result cache).cursors := by
  obtain ⟨cachedCon, cachedResults⟩ := rangeCache_keeps cache cursors
  obtain ⟨primedCon, primedResults⟩ := primeCache_keeps result (cursors.rangeCache cache).2 names
    ((cursors.rangeCache cache).1.setObject index
      (.range (some id) true (some (cursors.rangeCache cache).2)))
  have results := primedResults.trans cachedResults
  have primed := sound.congr (primedCon.trans cachedCon) results
  have moved := nextRow_sound primed answer id result (results.symm ▸ found)
  unfold beginAt
  dsimp only
  split
  · split
    · exact moved.congr rfl rfl
    · exact moved
  · exact primed

theorem begin_sound (sound : Sound db cursors) (answer : StepCall → ResultCode)
    (names : Nat → Text) (index : Nat) (effect : Effect)
    (enabled : cursors.begin answer names index = some effect) : Sound db effect.cursors := by
  unfold begin at enabled
  split at enabled
  · cases enabled
    exact sound.congr rfl rfl
  · split at enabled
    · cases enabled
      exact sound.congr rfl rfl
    · obtain ⟨result, found, rfl⟩ := Option.map_eq_some_iff.mp enabled
      exact beginAt_sound sound answer names index _ result _ found
  · cases enabled

theorem increment_sound (sound : Sound db cursors) (answer : StepCall → ResultCode) (index : Nat)
    (effect : Effect) (enabled : cursors.increment answer index = some effect) :
    Sound db effect.cursors := by
  unfold increment at enabled
  split at enabled
  · cases enabled
    exact sound.congr rfl rfl
  · obtain ⟨result, found, rfl⟩ := Option.map_eq_some_iff.mp enabled
    have moved := nextRow_sound sound answer _ result found
    dsimp only
    split
    · exact moved.congr rfl rfl
    · exact moved
  · cases enabled

theorem resultAt_found (object id : Nat) (result : Result)
    (held : cursors.resultAt object = some (id, result)) :
    cursors.objects[object]? = some (.result id) ∧ cursors.results[id]? = some result := by
  unfold resultAt at held
  split at held
  · rename_i shared found
    obtain ⟨other, at_, same⟩ := Option.map_eq_some_iff.mp held
    cases same
    exact ⟨found, at_⟩
  · cases held

theorem run_sound (sound : Sound db cursors) (action : CursorAction) (effect : Effect)
    (enabled : cursors.run action = some effect) : Sound db effect.cursors := by
  cases action with
  | connection action =>
      obtain ⟨con, stepped, rfl⟩ := Option.map_eq_some_iff.mp enabled
      exact step_sound sound action con stepped
  | getResult index columns =>
      obtain ⟨command, found, rfl⟩ := Option.map_eq_some_iff.mp enabled
      split
      · exact sound
      · rename_i made id returned
        exact (getResult_sound sound index command command found rfl columns false made id
          returned).congr rfl rfl
  | emitResult index columns answer =>
      obtain ⟨command, found, rfl⟩ := Option.map_eq_some_iff.mp enabled
      have stepped := stepQuery_sound sound answer index command found
      obtain ⟨own, live, same⟩ := stepQuery_query answer index command found
      split
      · rename_i after thrown came
        rw [came] at stepped
        exact stepped
      · rename_i after row came
        rw [came] at stepped live
        split
        · exact stepped
        · rename_i made id returned
          exact (getResult_sound stepped index command own live same columns (!row) made id
            returned).congr rfl rfl
  | each index columns =>
      obtain ⟨command, found, rfl⟩ := Option.map_eq_some_iff.mp enabled
      split
      · exact sound
      · rename_i made id returned
        exact (getResult_sound sound index command command found rfl columns false made id
          returned).congr rfl rfl
  | makeRange object =>
      obtain ⟨held, _, rfl⟩ := Option.map_eq_some_iff.mp enabled
      exact sound.congr rfl rfl
  | copy object =>
      obtain ⟨held, _, rfl⟩ := Option.map_eq_some_iff.mp enabled
      exact sound.congr rfl rfl
  | destroy object =>
      obtain ⟨held, _, rfl⟩ := Option.map_eq_some_iff.mp enabled
      exact sound.congr rfl rfl
  | nextRow object answer =>
      obtain ⟨⟨id, result⟩, held, rfl⟩ := Option.map_eq_some_iff.mp enabled
      exact nextRow_sound sound answer id result (resultAt_found object id result held).2
  | reset object =>
      obtain ⟨⟨id, result⟩, held, rfl⟩ := Option.map_eq_some_iff.mp enabled
      exact setResult_sound sound id result _ (resultAt_found object id result held).2 rfl rfl
  | get object idx =>
      obtain ⟨held, _, rfl⟩ := Option.map_eq_some_iff.mp enabled
      exact sound
  | begin object answer names => exact begin_sound sound answer names object effect enabled
  | makeEnd =>
      cases enabled
      exact sound.congr rfl rfl
  | increment object answer => exact increment_sound sound answer object effect enabled
  | dereference object =>
      obtain ⟨view, _, rfl⟩ := Option.map_eq_some_iff.mp enabled
      exact sound.congr rfl rfl
  | viewGet object column =>
      obtain ⟨view, _, rfl⟩ := Option.map_eq_some_iff.mp enabled
      exact sound

end Sound
end Cursors
end VSQLite
