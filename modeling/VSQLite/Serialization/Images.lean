import Mathlib.Data.List.Nodup
import VSQLite.Command.Model
import VSQLite.Lib.Custody
import VSQLite.Lib.Run

/-!
# Database images

The memory blocks behind `serialize` and `deserialize`, numbered in the order they are
allocated.  What SQLite answers comes from outside; what it documents about who owns a block
is computed here.
-/

set_option autoImplicit false

namespace VSQLite
open Lib

abbrev BlockId := Nat

structure Freed where
  block : BlockId
  byWrapper : Bool
deriving DecidableEq, Repr

/-- A connection and the memory of images.  `contents` are the schemas SQLite keeps in a block
of memory, `owned` the blocks SQLite has owned or used so far, and `freed` is newest first. -/
structure Images where
  handle : Option DbHandle
  contents : List (Text × BlockId)
  blocks : Nat
  owned : List BlockId
  freed : List Freed

inductive ImageFailure where
  | exception (thrown : Exception)
  | badAlloc
deriving DecidableEq, Repr

namespace Images

/-- A connection with schemas that SQLite keeps in memory of its own. -/
def opened (db : DbHandle) (schemas : List Text) : Images :=
  ⟨some db, schemas.zipIdx, schemas.length, List.range schemas.length, []⟩

def free (byWrapper : Bool) (blocks : List BlockId) (images : Images) : Images :=
  { images with freed := blocks.map (fun block => ⟨block, byWrapper⟩) ++ images.freed }

def normalizeSchema (schema : Text) : Text := if schema.isEmpty then ascii "main" else schema

/-- The schema that SQLite finds for the argument. -/
def schemaName (schema : Text) : Text := foldCase (cString (normalizeSchema schema))

def noCopy (flags : BitVec 32) : Bool := flags &&& 1 ≠ 0

/-- Without the flag the image is a new block.  With it there is only the block that SQLite
keeps the schema in, and it goes on using that. -/
def sqlite3Serialize (schema : Text) (flags : BitVec 32) (given : Bool) (images : Images) :
    Option BlockId × Images :=
  if noCopy flags then
    (if given then (images.contents.find? fun entry => entry.1 = schema).map Prod.snd else none,
      images)
  else if given then (some images.blocks, { images with blocks := images.blocks + 1 })
  else (none, images)

/-- `image` is what SQLite has for the schema, if it makes one; `copied` says whether the vector
finds the memory it needs. -/
def serialize (supported : Bool) (schema : Text) (flags : BitVec 32)
    (image : Option (List UInt8)) (copied : Bool) (images : Images) :
    Images × Except ImageFailure (List UInt8) :=
  if !supported then
    (images, .error (.exception (.databaseException
      (ascii "SQLite serialization APIs are not available in this build."))))
  else
    match images.handle with
    | none => (images, .error (.exception (.databaseException (ascii "Database is not open."))))
    | some _ =>
        match sqlite3Serialize (schemaName schema) flags image.isSome images with
        | (none, asked) =>
            (asked, .error (.exception (.databaseException
              (ascii "Failed to serialize database image."))))
        | (some blob, asked) =>
            if copied then (asked.free true [blob], .ok (image.getD []))
            else (asked, .error .badAlloc)

/-- `SQLITE_DESERIALIZE_FREEONCLOSE`, and `SQLITE_DESERIALIZE_READONLY` on demand. -/
def deserializeFlags (readOnly : Bool) : BitVec 32 := if readOnly then 1 ||| 4 else 1

/-- With `SQLITE_DESERIALIZE_FREEONCLOSE` SQLite owns the buffer from now on.  It frees it at
once where it returns an error, and otherwise what it kept the schema in before. -/
def sqlite3Deserialize (schema : Text) (buffer : BlockId) (flags : BitVec 32) (rc : ResultCode)
    (images : Images) : Images :=
  if flags &&& 1 = 0 then images
  else
    let taken := { images with owned := buffer :: images.owned }
    if rc = .ok then
      { taken.free false ((images.contents.filter fun entry => entry.1 = schema).map Prod.snd) with
        contents := (schema, buffer) :: images.contents.filter fun entry => entry.1 ≠ schema }
    else taken.free false [buffer]

/-- `allocated` says whether `sqlite3_malloc64` finds the memory. -/
def deserialize (supported : Bool) (image : List UInt8) (schema : Text)
    (readOnly allocated : Bool) (rc : ResultCode) (images : Images) :
    Images × Except ImageFailure Unit :=
  if !supported then
    (images, .error (.exception (.databaseException
      (ascii "SQLite serialization APIs are not available in this build."))))
  else if image.isEmpty then
    (images, .error (.exception (.databaseException
      (ascii "Serialized database image is empty."))))
  else if !allocated then
    (images, .error (.exception (.databaseException
      (ascii "Failed to allocate buffer for sqlite3_deserialize."))))
  else
    let buffer := images.blocks
    let filled := { images with blocks := images.blocks + 1 }
    match images.handle with
    -- the check throws when the buffer is already there
    | none => (filled, .error (.exception (.databaseException (ascii "Database is not open."))))
    | some _ =>
        let called := filled.sqlite3Deserialize (schemaName schema) buffer
          (deserializeFlags readOnly) rc
        if rc = .ok then (called, .ok ())
        else (called.free true [buffer], .error (.exception (.databaseExceptionCode rc [])))

/-- `connection::close`; SQLite frees what it keeps schemas in. -/
def close (err : ResultCode) (images : Images) : Images × Except ImageFailure Unit :=
  match images.handle with
  | none => (images, .error (.exception (.databaseException (ascii "Database is not open."))))
  | some _ =>
      if err = .ok then
        ({ images.free false (images.contents.map Prod.snd) with handle := none, contents := [] },
          .ok ())
      else (images, .error (.exception (.databaseExceptionCode err [])))

end Images

inductive ImageAction where
  | serialize (schema : Text) (flags : BitVec 32) (image : Option (List UInt8)) (copied : Bool)
  | deserialize (image : List UInt8) (schema : Text) (readOnly : Bool) (allocated : Bool)
      (rc : ResultCode)
  | close (err : ResultCode)
deriving DecidableEq

namespace Images

/-- The program catches what a call throws, and goes on. -/
def step (supported : Bool) (images : Images) : ImageAction → Option Images
  | .serialize schema flags image copied =>
      some (images.serialize supported schema flags image copied).1
  | .deserialize image schema readOnly allocated rc =>
      some (images.deserialize supported image schema readOnly allocated rc).1
  | .close err => some (images.close err).1

/-- Every block allocated so far is one SQLite keeps a schema in and was not freed, or was freed
once, and the wrapper has freed none that was SQLite's. -/
def FreedByOwner (images : Images) : Prop :=
  Settled images.blocks (images.contents.map Prod.snd) (images.freed.map Freed.block) ∧
    ∀ freed ∈ images.freed, freed.byWrapper = true → freed.block ∉ images.owned

/-- What SQLite makes for `serialize` is a block of its own and copied from, and a buffer that was
allocated for `deserialize` reaches SQLite and is accepted. -/
def Sound (supported : Bool) (images : Images) : ImageAction → Prop
  | .serialize schema flags image copied =>
      supported = true → images.handle.isSome = true →
        (sqlite3Serialize (schemaName schema) flags image.isSome images).1.isSome = true →
          copied = !noCopy flags
  | .deserialize image _ _ allocated rc =>
      supported = true → image ≠ [] → allocated = true →
        images.handle.isSome = true ∧ rc = .ok
  | .close _ => True

/-! ## Where the blocks go -/

/-- SQLite owns what it keeps schemas in, and nothing that was not allocated; for a closed
connection it keeps nothing. -/
structure Known (images : Images) : Prop where
  kept : ∀ entry ∈ images.contents, entry.2 ∈ images.owned
  allocated : ∀ block ∈ images.owned, block < images.blocks
  closed : images.handle = none → images.contents = []

theorem deserializeFlags_freeOnClose (readOnly : Bool) : deserializeFlags readOnly &&& 1 ≠ 0 := by
  cases readOnly <;> decide

theorem sqlite3Deserialize_eq (schema : Text) (buffer : BlockId) (readOnly : Bool)
    (rc : ResultCode) (images : Images) :
    images.sqlite3Deserialize schema buffer (deserializeFlags readOnly) rc =
      if rc = .ok then
        { handle := images.handle
          contents := (schema, buffer) :: images.contents.filter fun entry => entry.1 ≠ schema
          blocks := images.blocks
          owned := buffer :: images.owned
          freed := ((images.contents.filter fun entry => entry.1 = schema).map Prod.snd).map
            (fun block => ⟨block, false⟩) ++ images.freed }
      else
        { images with
          owned := buffer :: images.owned
          freed := ⟨buffer, false⟩ :: images.freed } := by
  rw [sqlite3Deserialize, if_neg (deserializeFlags_freeOnClose readOnly)]
  rfl

theorem free_blocks (byWrapper : Bool) (blocks : List BlockId) (freed : List Freed) :
    (blocks.map (fun block => (⟨block, byWrapper⟩ : Freed)) ++ freed).map Freed.block =
      blocks ++ freed.map Freed.block := by
  simp [Function.comp_def]

section Steps
variable {images : Images} (known : Known images) (good : FreedByOwner images)

include good in
theorem settled_allocated_iff (times : Nat) :
    Settled (images.blocks + 1) (images.contents.map Prod.snd)
      (List.replicate times images.blocks ++ images.freed.map Freed.block) ↔ times = 1 := by
  have allocated := good.1.allocate_iff 0 times
  rw [List.replicate_zero, List.nil_append, Nat.zero_add] at allocated
  exact allocated

include known in
theorem new_not_owned : images.blocks ∉ images.owned :=
  fun member => Nat.lt_irrefl _ (known.allocated _ member)

include known good in
theorem good_serialize_copy (copied : Bool) (thrown : Except ImageFailure (List UInt8)) :
    let asked := { images with blocks := images.blocks + 1 }
    FreedByOwner (if copied then (asked.free true [images.blocks], thrown)
      else (asked, .error .badAlloc)).1 ↔ copied = true := by
  intro asked
  cases copied with
  | false =>
      refine ⟨fun after => ?_, fun impossible => by cases impossible⟩
      exact absurd ((settled_allocated_iff good 0).mp after.1) (by decide)
  | true =>
      refine ⟨fun _ => rfl, fun _ => ⟨(settled_allocated_iff good 1).mpr rfl, ?_⟩⟩
      intro freed member
      rcases List.mem_cons.mp member with new | old
      · rw [new]
        exact fun _ => new_not_owned known
      · exact good.2 freed old

include good in
theorem good_serialize_kept (blob : BlockId) (copied : Bool)
    (thrown : Except ImageFailure (List UInt8)) (kept : blob ∈ images.contents.map Prod.snd) :
    FreedByOwner (if copied then (images.free true [blob], thrown)
      else (images, .error .badAlloc)).1 ↔ copied = false := by
  cases copied with
  | false => exact ⟨fun _ => rfl, fun _ => good⟩
  | true =>
      refine ⟨fun after => ?_, fun impossible => by cases impossible⟩
      exact absurd after.1 (Settled.not_of_released_kept kept)

include known good in
theorem good_serialize (supported : Bool) (schema : Text) (flags : BitVec 32)
    (image : Option (List UInt8)) (copied : Bool) :
    FreedByOwner (images.serialize supported schema flags image copied).1 ↔
      images.Sound supported (.serialize schema flags image copied) := by
  unfold serialize Sound
  cases supported with
  | false => exact ⟨fun _ impossible => (by cases impossible), fun _ => good⟩
  | true =>
      cases opened : images.handle with
      | none => exact ⟨fun _ _ impossible => (by cases impossible), fun _ => good⟩
      | some db =>
          have unasked : FreedByOwner images ↔ (true = true → (some db).isSome = true →
              (none : Option BlockId).isSome = true → copied = !noCopy flags) :=
            ⟨fun _ _ _ impossible => (by cases impossible), fun _ => good⟩
          simp only [Bool.not_true, Bool.false_eq_true, if_false, sqlite3Serialize]
          cases shared : noCopy flags with
          | true =>
              rw [shared] at unasked
              cases image with
              | none => simpa using unasked
              | some bytes =>
                  simp only [Option.isSome_some, if_true]
                  cases found : images.contents.find? fun entry => entry.1 = schemaName schema with
                  | none => simpa using unasked
                  | some entry =>
                      have kept : entry.2 ∈ images.contents.map Prod.snd :=
                        List.mem_map_of_mem (List.mem_of_find?_eq_some found)
                      have freed := good_serialize_kept good entry.2 copied (.ok bytes) kept
                      simpa using freed
          | false =>
              rw [shared] at unasked
              cases image with
              | none => simpa using unasked
              | some bytes =>
                  have freed := good_serialize_copy known good copied (.ok bytes)
                  simpa using freed

include good in
theorem good_accepted (handle : Option DbHandle) (schema : Text) :
    FreedByOwner
      { handle := handle
        contents := (schema, images.blocks) ::
          images.contents.filter fun entry => entry.1 ≠ schema
        blocks := images.blocks + 1
        owned := images.blocks :: images.owned
        freed := ((images.contents.filter fun entry => entry.1 = schema).map Prod.snd).map
          (fun block => ⟨block, false⟩) ++ images.freed } := by
  have parts := (List.filter_append_perm (fun entry : Text × BlockId => decide (entry.1 = schema))
    images.contents).map Prod.snd
  have others : (images.contents.filter fun entry => !decide (entry.1 = schema)) =
      images.contents.filter fun entry => entry.1 ≠ schema :=
    List.filter_congr fun entry _ => by simp
  rw [List.map_append, others] at parts
  have released := good.1.release _ _ parts.symm
  refine ⟨?_, ?_⟩
  · simp only [free_blocks]
    exact (released.allocate_iff 1 0).mpr rfl
  · intro freed member byWrapper
    have old : freed ∈ images.freed := by
      rcases List.mem_append.mp member with dropped | old
      · obtain ⟨block, _, rfl⟩ := List.mem_map.mp dropped
        cases byWrapper
      · exact old
    have bound := good.1.lt_of_released (List.mem_map_of_mem (f := Freed.block) old)
    rw [List.mem_cons, not_or]
    exact ⟨Nat.ne_of_lt bound, good.2 freed old byWrapper⟩

include good in
theorem good_deserialize (supported : Bool) (image : List UInt8) (schema : Text)
    (readOnly allocated : Bool) (rc : ResultCode) :
    FreedByOwner (images.deserialize supported image schema readOnly allocated rc).1 ↔
      images.Sound supported (.deserialize image schema readOnly allocated rc) := by
  unfold deserialize Sound
  cases supported with
  | false => exact ⟨fun _ impossible => (by cases impossible), fun _ => good⟩
  | true =>
      cases image with
      | nil => exact ⟨fun _ _ impossible => absurd rfl impossible, fun _ => good⟩
      | cons first rest =>
          cases allocated with
          | false => exact ⟨fun _ _ _ impossible => (by cases impossible), fun _ => good⟩
          | true =>
              have filled : ∀ outcome : Prop, (outcome ↔ images.handle.isSome = true ∧ rc = .ok) →
                  (outcome ↔ (true = true → first :: rest ≠ [] → true = true →
                    images.handle.isSome = true ∧ rc = .ok)) :=
                fun _ same => ⟨fun holds _ _ _ => same.mp holds,
                  fun promised => same.mpr (promised rfl (List.cons_ne_nil _ _) rfl)⟩
              apply filled
              simp only [Bool.not_true, Bool.false_eq_true, if_false, List.isEmpty_cons]
              cases opened : images.handle with
              | none =>
                  refine ⟨fun after => ?_, fun impossible => by cases impossible.1⟩
                  exact absurd ((settled_allocated_iff good 0).mp after.1) (by decide)
              | some db =>
                  rw [sqlite3Deserialize_eq]
                  by_cases accepted : rc = .ok
                  · simp only [if_pos accepted]
                    exact ⟨fun _ => ⟨rfl, accepted⟩, fun _ => good_accepted good _ _⟩
                  · simp only [if_neg accepted]
                    refine ⟨fun after => ?_, fun reached => absurd reached.2 accepted⟩
                    exact absurd ((settled_allocated_iff good 2).mp after.1) (by decide)

include good in
theorem good_close (err : ResultCode) : FreedByOwner (images.close err).1 := by
  unfold close
  cases images.handle with
  | none => exact good
  | some db =>
      by_cases done : err = .ok
      · simp only [if_pos done]
        refine ⟨?_, ?_⟩
        · simp only [free, free_blocks]
          exact good.1.release (images.contents.map Prod.snd) [] (by simp)
        · intro freed member byWrapper
          rcases List.mem_append.mp member with closed | old
          · obtain ⟨block, _, rfl⟩ := List.mem_map.mp closed
            cases byWrapper
          · exact good.2 freed old byWrapper
      · simp only [if_neg done]
        exact good

include known good in
theorem good_step (supported : Bool) (action : ImageAction) (next : Images)
    (taken : images.step supported action = some next) :
    FreedByOwner next ↔ images.Sound supported action := by
  cases action with
  | serialize schema flags image copied =>
      cases Option.some.inj taken
      exact good_serialize known good supported schema flags image copied
  | deserialize image schema readOnly allocated rc =>
      cases Option.some.inj taken
      exact good_deserialize good supported image schema readOnly allocated rc
  | close err =>
      cases Option.some.inj taken
      exact ⟨fun _ => trivial, fun _ => good_close good err⟩

/-! ### What is known -/

include known in
theorem known_serialize (supported : Bool) (schema : Text) (flags : BitVec 32)
    (image : Option (List UInt8)) (copied : Bool) :
    Known (images.serialize supported schema flags image copied).1 := by
  have copy : Known { images with blocks := images.blocks + 1 } :=
    ⟨known.kept, fun block member => Nat.lt_succ_of_lt (known.allocated block member),
      known.closed⟩
  unfold serialize
  cases supported with
  | false => exact known
  | true =>
      cases opened : images.handle with
      | none => exact known
      | some db =>
          simp only [Bool.not_true, Bool.false_eq_true, if_false, sqlite3Serialize]
          cases noCopy flags with
          | true =>
              simp only [if_true]
              split
              · rename_i same
                rw [← (Prod.mk.inj same).2]
                exact known
              · rename_i same
                rw [← (Prod.mk.inj same).2]
                cases copied <;> exact ⟨known.kept, known.allocated, known.closed⟩
          | false =>
              cases image with
              | none => exact known
              | some bytes => cases copied <;> exact ⟨copy.kept, copy.allocated, copy.closed⟩

include known in
theorem known_deserialize (supported : Bool) (image : List UInt8) (schema : Text)
    (readOnly allocated : Bool) (rc : ResultCode) :
    Known (images.deserialize supported image schema readOnly allocated rc).1 := by
  have later : ∀ block ∈ images.owned, block < images.blocks + 1 :=
    fun block member => Nat.lt_succ_of_lt (known.allocated block member)
  have taken : ∀ block ∈ images.blocks :: images.owned, block < images.blocks + 1 := by
    intro block member
    rcases List.mem_cons.mp member with rfl | old
    · exact Nat.lt_succ_self _
    · exact later block old
  unfold deserialize
  split
  · exact known
  · split
    · exact known
    · split
      · exact known
      · cases opened : images.handle with
        | none => exact ⟨known.kept, later, fun _ => known.closed opened⟩
        | some db =>
            simp only [sqlite3Deserialize_eq]
            by_cases accepted : rc = .ok
            · simp only [if_pos accepted]
              refine ⟨fun entry member => ?_, taken, fun impossible => by cases impossible⟩
              rcases List.mem_cons.mp member with rfl | old
              · exact List.mem_cons_self ..
              · exact List.mem_cons_of_mem _ (known.kept entry (List.mem_of_mem_filter old))
            · simp only [if_neg accepted]
              exact ⟨fun entry member => List.mem_cons_of_mem _ (known.kept entry member), taken,
                fun impossible => by cases impossible⟩

include known in
theorem known_step (supported : Bool) (action : ImageAction) (next : Images)
    (taken : images.step supported action = some next) : Known next := by
  cases action with
  | serialize schema flags image copied =>
      cases Option.some.inj taken
      exact known_serialize known supported schema flags image copied
  | deserialize image schema readOnly allocated rc =>
      cases Option.some.inj taken
      exact known_deserialize known supported image schema readOnly allocated rc
  | close err =>
      cases Option.some.inj taken
      unfold close
      cases images.handle with
      | none => exact known
      | some db =>
          by_cases done : err = .ok
          · simp only [if_pos done]
            exact ⟨fun _ member => (by cases member), known.allocated, fun _ => rfl⟩
          · simp only [if_neg done]
            exact known

end Steps

theorem known_opened (db : DbHandle) (schemas : List Text) : Known (opened db schemas) := by
  refine ⟨fun entry member => ?_, fun block member => List.mem_range.mp member,
    fun impossible => by cases impossible⟩
  exact List.mem_range.mpr (List.snd_lt_of_mem_zipIdx member)

theorem good_opened (db : DbHandle) (schemas : List Text) : FreedByOwner (opened db schemas) := by
  refine ⟨fun block => ?_, fun _ member => by cases member⟩
  have blocks : (opened db schemas).contents.map Prod.snd = List.range schemas.length := by
    simp [opened, List.range_eq_range']
  rw [blocks]
  by_cases bound : block < schemas.length
  · have once := List.count_eq_one_of_mem List.nodup_range (List.mem_range.mpr bound)
    simp [opened, bound, once]
  · have absent := List.count_eq_zero.mpr (fun member => bound (List.mem_range.mp member))
    simp [opened, bound, absent]

/-- Along a run every block is freed exactly once and by its owner, exactly when `serialize`
copies what SQLite has copied for it and no other block, and every buffer of `deserialize`
reaches SQLite and is accepted; and then, once the connection is closed, all of them are
freed. -/
theorem freed_by_owner_iff (supported : Bool) (db : DbHandle) (schemas : List Text)
    (actions : List ImageAction) :
    (EveryState (step supported) FreedByOwner actions (opened db schemas) ↔
      EveryStep (step supported) (Sound supported) actions (opened db schemas)) ∧
    ∀ final, exec (step supported) actions (opened db schemas) = some final →
      final.handle = none →
        EveryStep (step supported) (Sound supported) actions (opened db schemas) →
        ∀ block < final.blocks, (final.freed.map Freed.block).count block = 1 := by
  have exactly : EveryState (step supported) FreedByOwner actions (opened db schemas) ↔
      EveryStep (step supported) (Sound supported) actions (opened db schemas) :=
    everyState_iff_everyStep (step supported) Known FreedByOwner (Sound supported)
      (fun images action next known taken => known_step known supported action next taken)
      (fun images action next known good taken => good_step known good supported action next taken)
      actions _ (known_opened db schemas) (good_opened db schemas)
  refine ⟨exactly, fun final run closed sound block bound => ?_⟩
  have good : FreedByOwner final :=
    everyState_final (step supported) FreedByOwner actions _ final (exactly.mpr sound) run
  have known : Known final :=
    exec_preserves (step supported) Known
      (fun images action next known taken => known_step known supported action next taken)
      actions _ final (known_opened db schemas) run
  refine good.1.count_released bound ?_
  rw [known.closed closed]
  exact List.not_mem_nil

/-- There is no schema of that name, so the image is refused; the buffer is freed by SQLite and
by the wrapper. -/
theorem rejected_image_freed_twice :
    ∃ images, exec (step true)
        [.deserialize [0] (ascii "archive") false true (.error 1), .close .ok] (opened 0 []) =
          some images ∧
      images.freed = [⟨0, true⟩, ⟨0, false⟩] ∧
      ¬EveryState (step true) FreedByOwner
        [.deserialize [0] (ascii "archive") false true (.error 1), .close .ok] (opened 0 []) := by
  refine ⟨_, rfl, rfl, fun all => ?_⟩
  have good : FreedByOwner ⟨none, [], 1, [0], [⟨0, true⟩, ⟨0, false⟩]⟩ :=
    everyState_final (step true) FreedByOwner _ _ _ all rfl
  have twice := good.1 0
  revert twice
  decide

/-- `SQLITE_SERIALIZE_NOCOPY` on a schema that was deserialized: the wrapper frees the database
that SQLite uses. -/
theorem noCopy_frees_database :
    ∃ images, exec (step true)
        [.deserialize [0] [] false true .ok, .serialize [] 1 (some [0]) true] (opened 0 []) =
          some images ∧
      images.contents = [(foldCase (ascii "main"), 0)] ∧ images.freed = [⟨0, true⟩] :=
  ⟨_, rfl, rfl, rfl⟩

end Images
end VSQLite
