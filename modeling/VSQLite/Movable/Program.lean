import Mathlib.Logic.Function.Basic
import VSQLite.Lib.Run
import VSQLite.Movable.Session
import VSQLite.Movable.Snapshot

/-!
# Programs with snapshots and sessions

A program constructs objects, calls their members, moves from one to another and destroys them,
in any order, and catches what is thrown.  Objects are numbered in the order they are
constructed.
-/

set_option autoImplicit false

namespace VSQLite
open Lib

inductive HandleObject (snapshots : SnapshotApi) (sessions : SessionApi) where
  | snapshot (object : Snapshot snapshots)
  | session (object : ChangeSession sessions)
  | destroyed

structure HandleProgram (snapshots : SnapshotApi) (sessions : SessionApi) where
  connections : Connections
  objects : List (HandleObject snapshots sessions)
  natives : Natives

/-- What SQLite answers comes with the action. -/
inductive HandleAction where
  | connect (con : Nat) (db : Option DbHandle)
  | emptySnapshot
  | takeSnapshot (con : Nat) (schema : Text) (answer : NativeAnswer)
  | openSnapshot (object con : Nat) (schema : Text) (answer : NativeAnswer)
  | resetSnapshot (object : Nat)
  | constructSession (con : Nat) (schema : Text) (indirect : Bool) (answer : NativeAnswer)
  | attach (object : Nat) (table : Text) (answer : NativeAnswer)
  | attachAll (object : Nat) (answer : NativeAnswer)
  | enable (object : Nat) (value : Bool)
  | setIndirect (object : Nat) (value : Bool)
  | changeset (object : Nat) (answer : NativeAnswer)
  | patchset (object : Nat) (answer : NativeAnswer)
  | moveConstruct (source : Nat)
  | moveAssign (target source : Nat)
  | destroy (object : Nat)
deriving DecidableEq

section Program
variable {snapshots : SnapshotApi} {sessions : SessionApi}

def HandleObject.holds : HandleObject snapshots sessions → List NativeHandle
  | .snapshot object => object.handle.toList
  | .session object => object.handle.toList
  | .destroyed => []

namespace HandleProgram

def start : HandleProgram snapshots sessions := ⟨fun _ => none, [], ⟨0, []⟩⟩

def snapshotAt (program : HandleProgram snapshots sessions) (place : Nat) :
    Option (Snapshot snapshots) :=
  match program.objects[place]? with
  | some (.snapshot object) => some object
  | _ => none

def sessionAt (program : HandleProgram snapshots sessions) (place : Nat) :
    Option (ChangeSession sessions) :=
  match program.objects[place]? with
  | some (.session object) => some object
  | _ => none

/-- There is a new object, or the constructor has thrown. -/
def created {Object : Type} (program : HandleProgram snapshots sessions)
    (wrap : Object → HandleObject snapshots sessions)
    (result : Natives × Except NativeException Object) : HandleProgram snapshots sessions :=
  match result with
  | (natives, .error _) => { program with natives := natives }
  | (natives, .ok object) =>
      { program with objects := program.objects ++ [wrap object], natives := natives }

/-- `none` if there is no such object, or the action is not one of its type. -/
def step (program : HandleProgram snapshots sessions) :
    HandleAction → Option (HandleProgram snapshots sessions)
  | .connect con db =>
      some { program with connections := Function.update program.connections con db }
  | .emptySnapshot => some { program with objects := program.objects ++ [.snapshot .empty] }
  | .takeSnapshot con schema answer =>
      some (program.created .snapshot
        (Snapshot.take program.connections con schema answer program.natives))
  | .openSnapshot object con schema answer =>
      (program.snapshotAt object).map fun snapshot =>
        { program with natives :=
            (snapshot.openSnapshot program.connections con schema answer program.natives).1 }
  | .resetSnapshot object =>
      (program.snapshotAt object).map fun snapshot =>
        let (left, natives) := snapshot.reset program.natives
        { program with objects := program.objects.set object (.snapshot left), natives := natives }
  | .constructSession con schema indirect answer =>
      some (program.created .session
        (ChangeSession.construct program.connections con schema indirect answer program.natives))
  | .attach object table answer =>
      (program.sessionAt object).map fun session =>
        { program with natives :=
            (session.attach program.connections table answer program.natives).1 }
  | .attachAll object answer =>
      (program.sessionAt object).map fun session =>
        { program with natives :=
            (session.attachAll program.connections answer program.natives).1 }
  | .enable object value =>
      (program.sessionAt object).map fun session =>
        { program with natives := (session.enable value program.natives).1 }
  | .setIndirect object value =>
      (program.sessionAt object).map fun session =>
        { program with natives := (session.setIndirect value program.natives).1 }
  | .changeset object answer =>
      (program.sessionAt object).map fun session =>
        { program with natives :=
            (session.changeset program.connections answer program.natives).1 }
  | .patchset object answer =>
      (program.sessionAt object).map fun session =>
        { program with natives :=
            (session.patchset program.connections answer program.natives).1 }
  | .moveConstruct source =>
      match program.objects[source]? with
      | some (.snapshot other) =>
          let (this, left) := other.moveConstruct
          some { program with
            objects := program.objects.set source (.snapshot left) ++ [.snapshot this] }
      | some (.session other) =>
          let (this, left) := other.moveConstruct
          some { program with
            objects := program.objects.set source (.session left) ++ [.session this] }
      | _ => none
  | .moveAssign target source =>
      match program.objects[target]?, program.objects[source]? with
      | some (.snapshot this), some (.snapshot other) =>
          let (taker, left, natives) :=
            Snapshot.moveAssign (target == source) this other program.natives
          some { program with
            objects := (program.objects.set target (.snapshot taker)).set source (.snapshot left)
            natives := natives }
      | some (.session this), some (.session other) =>
          let (taker, left, natives) :=
            ChangeSession.moveAssign (target == source) this other program.natives
          some { program with
            objects := (program.objects.set target (.session taker)).set source (.session left)
            natives := natives }
      | _, _ => none
  | .destroy object =>
      match program.objects[object]? with
      | some (.snapshot snapshot) =>
          some { program with
            objects := program.objects.set object .destroyed
            natives := (snapshot.reset program.natives).2 }
      | some (.session session) =>
          some { program with
            objects := program.objects.set object .destroyed
            natives := (session.destroy program.natives).2 }
      | _ => none

/-! ## Who owns a handle -/

def estate (program : HandleProgram snapshots sessions) :
    Estate (HandleObject snapshots sessions) NativeCall :=
  ⟨program.objects, program.natives.handles, program.natives.calls⟩

/-- Every handle that SQLite has made is with one object and was not released, or with none and
was released once; and no call was passed one that had been released. -/
def InCustody (program : HandleProgram snapshots sessions) : Prop :=
  program.estate.InCustody HandleObject.holds NativeCall.uses NativeCall.releases

/-- The handles released so far. -/
def released (program : HandleProgram snapshots sessions) : List NativeHandle :=
  program.estate.released NativeCall.releases

def heldBy (program : HandleProgram snapshots sessions) (place : Nat) : List NativeHandle :=
  (program.objects[place]?.map HandleObject.holds).getD []

/-- The handle whose owner is reset, destroyed, or assigned another object. -/
def givenUp (program : HandleProgram snapshots sessions) : HandleAction → List NativeHandle
  | .resetSnapshot object => program.heldBy object
  | .moveAssign target source => if target = source then [] else program.heldBy target
  | .destroy object => program.heldBy object
  | _ => []

section Steps
variable {program : HandleProgram snapshots sessions}

abbrev Changes (program next : HandleProgram snapshots sessions) (gone : List NativeHandle) :
    Prop :=
  program.estate.Change HandleObject.holds NativeCall.uses NativeCall.releases next.estate gone

theorem snapshotAt_eq (place : Nat) (object : Snapshot snapshots)
    (there : program.snapshotAt place = some object) :
    program.objects[place]? = some (.snapshot object) := by
  unfold snapshotAt at there
  split at there
  · cases there
    assumption
  · cases there

theorem sessionAt_eq (place : Nat) (object : ChangeSession sessions)
    (there : program.sessionAt place = some object) :
    program.objects[place]? = some (.session object) := by
  unfold sessionAt at there
  split at there
  · cases there
    assumption
  · cases there

theorem heldBy_eq {place : Nat} {object : HandleObject snapshots sessions}
    (there : program.objects[place]? = some object) : program.heldBy place = object.holds := by
  rw [heldBy, there]
  rfl

theorem changes_nothing (connections : Connections) :
    program.Changes { program with connections := connections } [] :=
  .use [] [] (fun _ impossible => (by cases impossible)) (Quiet.nil [])

theorem changes_asked {place : Nat} {object : HandleObject snapshots sessions}
    (there : program.objects[place]? = some object) {handle : Option NativeHandle}
    (holds : object.holds = handle.toList) {after : Natives}
    (asked : program.natives.Asked handle after) :
    program.Changes { program with natives := after } [] := by
  obtain ⟨calls, quiet, rfl⟩ := asked
  refine .use handle.toList calls ?_ quiet
  intro resource member
  rw [← holds] at member
  exact List.mem_flatMap.mpr ⟨object, List.mem_of_getElem? there, member⟩

theorem changes_created {Object : Type} {handle : Object → Option NativeHandle}
    {wrap : Object → HandleObject snapshots sessions}
    (holds : ∀ object, (wrap object).holds = (handle object).toList)
    {result : Natives × Except NativeException Object}
    (created : program.natives.Created handle result) :
    program.Changes (program.created wrap result) [] := by
  cases created with
  | failed calls thrown quiet =>
      exact .use [] calls (fun _ impossible => (by cases impossible)) quiet
  | made calls object owns quiet =>
      refine .allocate (wrap object) calls ?_ quiet
      rw [holds, owns]
      rfl

theorem changes_discarded {place : Nat} {old new : HandleObject snapshots sessions}
    (there : program.objects[place]? = some old) (nothing : new.holds = [])
    {free : NativeHandle → NativeCall} (frees : Frees NativeCall.uses NativeCall.releases free)
    {after : Natives} (released : after = program.natives.record (old.holds.map free)) :
    program.Changes { program with objects := program.objects.set place new, natives := after }
      (program.heldBy place) := by
  rw [heldBy_eq there, released]
  exact .discard place old new free there nothing frees

theorem changes_moved {source : Nat} {other left this : HandleObject snapshots sessions}
    (there : program.objects[source]? = some other) (nothing : left.holds = [])
    (takes : this.holds = other.holds) :
    program.Changes { program with objects := program.objects.set source left ++ [this] } [] :=
  .construct source other left this there nothing takes

theorem set_self {place : Nat} {object : HandleObject snapshots sessions}
    (there : program.objects[place]? = some object) :
    (program.objects.set place object).set place object = program.objects := by
  obtain ⟨bound, same⟩ := List.getElem?_eq_some_iff.mp there
  rw [List.set_set, ← same]
  exact List.set_getElem_self bound

/-- An object is assigned to itself, or takes what the other has. -/
theorem changes_assigned {target source : Nat}
    {this other taker left : HandleObject snapshots sessions}
    (there : program.objects[target]? = some this) (here : program.objects[source]? = some other)
    {free : NativeHandle → NativeCall} (frees : Frees NativeCall.uses NativeCall.releases free)
    {after : Natives}
    (self : target = source → taker = this ∧ left = other ∧ after = program.natives)
    (takes : target ≠ source → taker.holds = other.holds ∧ left.holds = [] ∧
      after = program.natives.record (this.holds.map free)) :
    program.Changes
      { program with
        objects := (program.objects.set target taker).set source left, natives := after }
      (program.givenUp (.moveAssign target source)) := by
  by_cases same : target = source
  · obtain ⟨rfl, rfl, rfl⟩ := self same
    subst same
    cases there.symm.trans here
    rw [givenUp, if_pos rfl, set_self there]
    exact changes_nothing program.connections
  · obtain ⟨holds, nothing, rfl⟩ := takes same
    rw [givenUp, if_neg same, heldBy_eq there]
    exact .assign target source this other taker left free same there here holds nothing frees

theorem step_moveAssign (target source : Nat) {next : HandleProgram snapshots sessions}
    (taken : program.step (.moveAssign target source) = some next) :
    program.Changes next (program.givenUp (.moveAssign target source)) := by
  simp only [step] at taken
  split at taken
  · rename_i this other there here
    cases Option.some.inj taken
    refine changes_assigned there here NativeCall.snapshotFree_frees ?_ ?_
    · rintro rfl
      simp [Snapshot.moveAssign]
    · intro different
      rw [beq_eq_false_iff_ne.mpr different, Snapshot.moveAssign_other]
      exact ⟨rfl, rfl, rfl⟩
  · rename_i this other there here
    cases Option.some.inj taken
    refine changes_assigned there here NativeCall.sessionDelete_frees ?_ ?_
    · rintro rfl
      simp [ChangeSession.moveAssign]
    · intro different
      rw [beq_eq_false_iff_ne.mpr different, ChangeSession.moveAssign_other]
      exact ⟨rfl, rfl, rfl⟩
  · cases taken

theorem step_moveConstruct (source : Nat) {next : HandleProgram snapshots sessions}
    (taken : program.step (.moveConstruct source) = some next) :
    program.Changes next (program.givenUp (.moveConstruct source)) := by
  simp only [step] at taken
  split at taken
  · rename_i other there
    cases Option.some.inj taken
    exact changes_moved there rfl rfl
  · rename_i other there
    cases Option.some.inj taken
    exact changes_moved there rfl rfl
  · cases taken

theorem step_destroy (object : Nat) {next : HandleProgram snapshots sessions}
    (taken : program.step (.destroy object) = some next) :
    program.Changes next (program.givenUp (.destroy object)) := by
  simp only [step] at taken
  split at taken
  · rename_i snapshot there
    cases Option.some.inj taken
    exact changes_discarded there rfl NativeCall.snapshotFree_frees
      (snapshot.reset_natives program.natives)
  · rename_i session there
    cases Option.some.inj taken
    exact changes_discarded there rfl NativeCall.sessionDelete_frees
      (session.destroyHandle_eq program.natives)
  · cases taken

theorem step_resetSnapshot (object : Nat) {next : HandleProgram snapshots sessions}
    (taken : program.step (.resetSnapshot object) = some next) :
    program.Changes next (program.givenUp (.resetSnapshot object)) := by
  obtain ⟨snapshot, there, rfl⟩ := Option.map_eq_some_iff.mp taken
  have emptied : (HandleObject.snapshot (snapshot.reset program.natives).1 :
      HandleObject snapshots sessions).holds = [] := by
    rw [HandleObject.holds, snapshot.reset_handle]
    rfl
  exact changes_discarded (snapshotAt_eq object snapshot there) emptied
    NativeCall.snapshotFree_frees (snapshot.reset_natives program.natives)

theorem changes_session {place : Nat} {after : ChangeSession sessions → Natives}
    (asked : ∀ session, program.natives.Asked session.handle (after session))
    {next : HandleProgram snapshots sessions}
    (taken : (program.sessionAt place).map (fun session =>
      { program with natives := after session }) = some next) :
    program.Changes next [] := by
  obtain ⟨session, there, rfl⟩ := Option.map_eq_some_iff.mp taken
  exact changes_asked (sessionAt_eq place session there) rfl (asked session)

theorem step_changes (action : HandleAction) {next : HandleProgram snapshots sessions}
    (taken : program.step action = some next) :
    program.Changes next (program.givenUp action) := by
  cases action with
  | connect con db =>
      cases Option.some.inj taken
      exact changes_nothing _
  | emptySnapshot =>
      cases Option.some.inj taken
      exact .empty _ rfl
  | takeSnapshot con schema answer =>
      cases Option.some.inj taken
      exact changes_created (fun _ => rfl) (Snapshot.take_created _ con schema answer _)
  | openSnapshot object con schema answer =>
      obtain ⟨snapshot, there, rfl⟩ := Option.map_eq_some_iff.mp taken
      exact changes_asked (snapshotAt_eq object snapshot there) rfl
        (snapshot.openSnapshot_asked _ con schema answer _)
  | resetSnapshot object => exact step_resetSnapshot object taken
  | constructSession con schema indirect answer =>
      cases Option.some.inj taken
      exact changes_created (fun _ => rfl)
        (ChangeSession.construct_created _ con schema indirect answer _)
  | attach object table answer =>
      exact changes_session (fun session => session.attach_asked _ table answer _) taken
  | attachAll object answer =>
      exact changes_session (fun session => session.attach_asked _ [] answer _) taken
  | enable object value =>
      exact changes_session
        (fun session => session.setFlag_asked _ value (fun _ => rfl) (fun _ => rfl) _) taken
  | setIndirect object value =>
      exact changes_session
        (fun session => session.setFlag_asked _ value (fun _ => rfl) (fun _ => rfl) _) taken
  | changeset object answer =>
      exact changes_session (fun session => session.collect_asked _ false answer _) taken
  | patchset object answer =>
      exact changes_session (fun session => session.collect_asked _ true answer _) taken
  | moveConstruct source => exact step_moveConstruct source taken
  | moveAssign target source => exact step_moveAssign target source taken
  | destroy object => exact step_destroy object taken

end Steps

/-- The action releases what it makes an owner give up, and nothing else. -/
def ReleasesGivenUp (program : HandleProgram snapshots sessions) (action : HandleAction) : Prop :=
  ∀ next, program.step action = some next →
    next.released = program.givenUp action ++ program.released

theorem start_inCustody : (start : HandleProgram snapshots sessions).InCustody :=
  ⟨Settled.empty, List.Pairwise.nil⟩

/-- Whatever a program does with its objects, every handle has one owner until it is released, it
is released once, exactly when its owner is reset, destroyed or assigned another object, and no
call is passed a handle after that.  When no object holds a handle any more, every one that
SQLite has made was released. -/
theorem handles_released_once (snapshots : SnapshotApi) (sessions : SessionApi)
    (actions : List HandleAction) :
    EveryState step InCustody actions (start : HandleProgram snapshots sessions) ∧
      EveryStep step ReleasesGivenUp actions (start : HandleProgram snapshots sessions) ∧
      ∀ final, exec step actions (start : HandleProgram snapshots sessions) = some final →
        (∀ object ∈ final.objects, object.holds = []) →
          ∀ handle < final.natives.handles, final.released.count handle = 1 := by
  obtain ⟨states, steps⟩ := (everyState_and_everyStep_iff_of_carried step InCustody InCustody
    ReleasesGivenUp (fun _ _ => True) (fun _ custody => custody)
    (fun program action next custody _ taken => by
      have changed := (step_changes action taken).custody custody
      refine ⟨changed.1, fun other also => ?_⟩
      cases taken.symm.trans also
      exact changed.2)
    (fun _ _ _ _ impossible => absurd trivial impossible) actions start start_inCustody).mpr
    (everyStep_of_forall step _ (fun _ _ => trivial) actions start)
  refine ⟨states, steps, fun final run empty handle bound => ?_⟩
  have custody := everyState_final step InCustody actions start final states run
  exact custody.count_released (List.flatMap_eq_nil_iff.mpr empty) bound

/-- The second of two snapshots is assigned to itself and then the first; both are destroyed. -/
example :
    let answer : NativeAnswer := ⟨.ok, none, none, 0, []⟩
    let program : Option (HandleProgram ⟨true, true, true⟩ sessions) :=
      exec step [.connect 0 (some 7), .takeSnapshot 0 [] answer, .takeSnapshot 0 [] answer,
        .moveAssign 1 1, .moveAssign 1 0, .destroy 0, .destroy 1] start
    program.map (fun program => program.natives.calls.take 2) =
      some [.snapshotFree 0, .snapshotFree 1] := rfl

end HandleProgram
end Program
end VSQLite
