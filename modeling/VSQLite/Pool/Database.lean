import VSQLite.Pool.Growth

/-!
# One database for the whole pool

A path that names a regular file goes on naming that file until someone removes it.
Only the mode `always_create` does, so growing the pool leaves its database alone in
every other mode, and in that one as long as there is never a second connection.
-/

set_option autoImplicit false

namespace VSQLite
open Lib

/-- A path on disk: not one of the special names, and without a NUL byte. -/
def OrdinaryPath (db : Text) : Prop := isSpecialDatabase db = false ∧ (0 : UInt8) ∉ db

/-- The connection has the file open that the path names. -/
def Names (db : Text) (files : FileSystem) (file : Option Nat) : Prop :=
  ∃ number, file = some number ∧ files.node db = .regular number

/-- What the progress of a constructor says about the path. -/
def Progress.Holds (db : Text) (files : FileSystem) : Progress → Prop
  | .unchecked => True
  | .checked => files.node db = .absent ∨ ∃ file, files.node db = .regular file
  | .opened file => Names db files file

/-- A file stays, and what is missing may appear. -/
def Node.Stays (before after : Node) : Prop :=
  (∀ file, before = .regular file → after = .regular file) ∧
    (before = .absent → after = .absent ∨ ∃ file, after = .regular file)

theorem Node.stays_of_eq {before after : Node} (same : after = before) : before.Stays after :=
  ⟨fun _ regular => same.trans regular, fun absent => Or.inl (same.trans absent)⟩

section Holds
variable {db : Text} {files next : FileSystem}

theorem Names.stays {file : Option Nat} (named : Names db files file)
    (stays : (files.node db).Stays (next.node db)) : Names db next file := by
  obtain ⟨number, same, regular⟩ := named
  exact ⟨number, same, stays.1 number regular⟩

theorem Progress.Holds.stays {progress : Progress} (holds : progress.Holds db files)
    (stays : (files.node db).Stays (next.node db)) : progress.Holds db next := by
  cases progress with
  | unchecked => exact trivial
  | checked =>
      rcases holds with absent | ⟨file, regular⟩
      · exact stays.2 absent
      · exact Or.inr ⟨file, stays.1 file regular⟩
  | opened file => exact Names.stays holds stays

end Holds

namespace FileSystem

theorem follow_plain (files : FileSystem) (links : Nat) (path : Text)
    (plain : ∀ target, files.node path ≠ .symlink target) :
    files.follow (links + 1) path = some path := by
  unfold follow
  split
  · rename_i target link
    exact absurd link (plain target)
  · rfl

/-- Opening a path that was seen to name a file or nothing leaves the path naming the
file that was opened. -/
theorem openFile_names (db : Text) (flags : OpenFlags) (files : FileSystem)
    (checked : Progress.checked.Holds db files) :
    (files.node db).Stays ((files.openFile db flags).1.node db) ∧
      ∀ file, (files.openFile db flags).2 = .ok file →
        Names db (files.openFile db flags).1 file := by
  unfold openFile
  rcases checked with absent | ⟨number, regular⟩
  · rw [absent]
    cases flags.create with
    | false =>
        refine ⟨⟨fun file regular => ?_, fun _ => Or.inl absent⟩, fun file opened => ?_⟩
        · cases regular
        · cases opened
    | true =>
        have named : (files.createFile db).node db = .regular files.fresh := if_pos rfl
        refine ⟨⟨fun file regular => ?_, fun _ => Or.inr ⟨_, named⟩⟩, fun file opened => ?_⟩
        · cases regular
        · cases opened
          exact ⟨_, rfl, named⟩
  · rw [regular]
    refine ⟨Node.stays_of_eq regular, fun file opened => ?_⟩
    cases opened
    exact ⟨number, rfl, regular⟩

theorem openV2_names (db : Text) (flags : OpenFlags) (refused : Option Refusal)
    (files : FileSystem) (ondisk : db ≠ ascii ":memory:")
    (checked : Progress.checked.Holds db files) :
    (files.node db).Stays ((files.openV2 db flags refused).1.node db) ∧
      ∀ file, (files.openV2 db flags refused).2 = .ok file →
        Names db (files.openV2 db flags refused).1 file := by
  have plain : files.follow 40 db = some db := by
    apply follow_plain
    intro target link
    rcases checked with absent | ⟨number, regular⟩
    · rw [absent] at link
      cases link
    · rw [regular] at link
      cases link
  unfold openV2
  cases refused with
  | some refusal => exact ⟨Node.stays_of_eq rfl, fun _ opened => by cases opened⟩
  | none =>
      dsimp only
      rw [if_neg ondisk, plain]
      split
      · exact openFile_names db flags files checked
      · exact openFile_names db flags files checked

theorem status_type (db : Text) (refused : Option Refusal) (files : FileSystem)
    (plain : (files.status db refused).type = .notFound ∨
      (files.status db refused).type = .regular) : Progress.checked.Holds db files := by
  unfold status at plain
  cases refused with
  | some refusal => rcases plain with missing | regular <;> contradiction
  | none =>
      dsimp only at plain
      split at plain
      · rename_i absent
        exact Or.inl absent
      · cases named : files.node db with
        | absent => exact Or.inl named
        | regular file => exact Or.inr ⟨file, named⟩
        | directory => rw [named] at plain; rcases plain with missing | regular <;> contradiction
        | symlink target =>
            rw [named] at plain
            rcases plain with missing | regular <;> contradiction
        | other => rw [named] at plain; rcases plain with missing | regular <;> contradiction

theorem perform_holds (db : Text) (mode : OpenMode) (request : OsRequest)
    (refused : Option Refusal) (files : FileSystem) (progress : Progress)
    (ondisk : db ≠ ascii ":memory:") (allowed : progress.may db mode request)
    (holds : progress.Holds db files) :
    (Progress.after db request (files.perform request refused).2 progress).Holds db
      (files.perform request refused).1 := by
  cases request with
  | status target =>
      cases progress with
      | unchecked =>
          change Progress.Holds db files
            (if target = db ∧ ((files.status target refused).type = .notFound ∨
              (files.status target refused).type = .regular) then .checked else .unchecked)
          by_cases seen : target = db ∧ ((files.status target refused).type = .notFound ∨
              (files.status target refused).type = .regular)
          · rw [if_pos seen]
            obtain ⟨rfl, plain⟩ := seen
            exact status_type target refused files plain
          · rw [if_neg seen]
            exact trivial
      | checked => exact holds
      | opened file => exact holds
  | isPresent target => exact holds
  | remove target =>
      obtain ⟨_, rfl, rfl⟩ := allowed
      simp only [perform, Progress.after, remove]
      cases refused with
      | some refusal => exact holds
      | none =>
          dsimp only
          split
          · exact holds
          · exact Or.inl (if_pos rfl)
  | openV2 target flags =>
      obtain ⟨rfl, rfl⟩ := allowed
      have opens := openV2_names target flags refused files ondisk holds
      simp only [perform]
      cases opened : (files.openV2 target flags refused).2 with
      | ok file => exact opens.2 file opened
      | error code => exact Progress.Holds.stays holds opens.1

theorem perform_stays (db : Text) (mode : OpenMode) (request : OsRequest)
    (refused : Option Refusal) (files : FileSystem) (progress : Progress)
    (ondisk : db ≠ ascii ":memory:") (allowed : progress.may db mode request)
    (holds : progress.Holds db files) (harmless : ∀ target, request ≠ .remove target) :
    (files.node db).Stays ((files.perform request refused).1.node db) := by
  cases request with
  | status target => exact Node.stays_of_eq rfl
  | isPresent target => exact Node.stays_of_eq rfl
  | remove target => exact absurd rfl (harmless target)
  | openV2 target flags =>
      obtain ⟨rfl, rfl⟩ := allowed
      exact (openV2_names target flags refused files ondisk holds).1

end FileSystem

namespace Growth

section Kept
variable (followSymlinks : Bool) (db : Text) (mode : OpenMode)

structure Kept (capacity : Nat) (world : Growth) : Prop where
  balanced : ∃ lost, Pool.Balanced capacity lost world.pool
  produced : world.live.map Prod.fst = world.pool.produced
  elsewhere : ∀ call : Nat, world.pool.calls[call]? ≠ some .creating → world.opening call = none
  live : ∀ entry ∈ world.live, Names db world.files entry.2
  progress : ∀ call : Nat, world.pool.calls[call]? = some .creating →
    ∃ progress : Progress, progress.Holds db world.files ∧
      (world.constructor followSymlinks db mode call).Follows (Progress.after db)
        (Progress.may db mode) Progress.delivers progress

variable {followSymlinks db mode} {capacity : Nat} {world : Growth}

/-- With one slot taken at most, a constructor that runs is alone. -/
theorem Kept.alone (kept : Kept followSymlinks db mode capacity world)
    (single : world.pool.created ≤ 1) (call : Nat)
    (creating : world.pool.calls[call]? = some .creating) :
    world.live = [] ∧ ∀ other : Nat, world.pool.calls[other]? = some .creating → other = call := by
  obtain ⟨lost, balanced⟩ := kept.balanced
  have made := balanced.made
  have running : 0 < world.pool.inCreation :=
    countP_pos_of_getElem? _ world.pool.calls call .creating creating rfl
  constructor
  · apply List.map_eq_nil_iff.mp
    rw [kept.produced]
    apply List.eq_nil_of_length_eq_zero
    omega
  · intro other alsoCreating
    exact index_unique_of_countP_le_one AcquirePhase.creates world.pool.calls
      (show world.pool.inCreation ≤ 1 by omega) other call .creating .creating alsoCreating rfl
      creating rfl

theorem pool_kept (kept : Kept followSymlinks db mode capacity world) (action : PoolAction)
    (pool : Pool) (enabled : world.pool.step action = some pool)
    (internal : ∀ call result, action ≠ .factory call result)
    (ordinary : OrdinaryPath db) :
    Kept followSymlinks db mode capacity { world with pool := pool } := by
  obtain ⟨lost, balanced⟩ := kept.balanced
  obtain ⟨produced, stays⟩ := Pool.step_undisturbed world.pool pool action enabled internal
  have outside : ∀ call : Nat, pool.calls[call]? ≠ some .creating → world.opening call = none :=
    fun call absent => kept.elsewhere call fun creating => absent (stays call creating)
  refine ⟨⟨_, Pool.step_balanced balanced action enabled⟩, kept.produced.trans produced.symm,
    outside, kept.live, fun call creating => ?_⟩
  by_cases before : world.pool.calls[call]? = some .creating
  · exact kept.progress call before
  · have fresh : constructor followSymlinks db mode call { world with pool := pool } =
        connectionOpen followSymlinks db mode := by
      simp only [constructor, kept.elsewhere call before, Option.getD_none]
    rw [fresh]
    exact ⟨.unchecked, trivial, connectionOpen_follows db mode followSymlinks ordinary.1⟩

theorem outside_kept (kept : Kept followSymlinks db mode capacity world) (path : Text)
    (node : Node) (next : Growth) (enabled : world.outside db path node = some next) :
    Kept followSymlinks db mode capacity next ∧ next.files.node db = world.files.node db ∧
      next.live = world.live := by
  unfold outside at enabled
  split at enabled
  · cases enabled
  · rename_i different
    split at enabled
    · rename_i known
      cases enabled
      have same : (world.files.place path node known).node db = world.files.node db :=
        if_neg fun equal => different equal.symm
      have stays := Node.stays_of_eq same
      refine ⟨⟨kept.balanced, kept.produced, kept.elsewhere, fun entry member =>
        (kept.live entry member).stays stays, fun call creating => ?_⟩, same, rfl⟩
      obtain ⟨progress, holds, follows⟩ := kept.progress call creating
      exact ⟨progress, holds.stays stays, follows⟩
    · cases enabled

theorem constructor_setOpening (call other : Nat) (rest : Os (Option Nat)) (files : FileSystem) :
    constructor followSymlinks db mode other
        { world.setOpening call (some rest) with files := files } =
      if other = call then rest else world.constructor followSymlinks db mode other := by
  unfold constructor setOpening
  dsimp only
  split <;> rfl

/-- A constructor makes a request.  A removal happens only where nobody else is. -/
theorem request_kept (kept : Kept followSymlinks db mode capacity world)
    (ordinary : OrdinaryPath db) (alone : mode = .alwaysCreate → world.pool.created ≤ 1)
    (call : Nat) (creating : world.pool.calls[call]? = some .creating) (request : OsRequest)
    (next : request.Answer → Os (Option Nat))
    (asks : world.constructor followSymlinks db mode call = .call request next)
    (refused : Option Refusal) :
    Kept followSymlinks db mode capacity
        { world.setOpening call (some (next (world.files.perform request refused).2)) with
          files := (world.files.perform request refused).1 } ∧
      ∀ entry ∈ world.live,
        Names db (world.files.perform request refused).1 entry.2 := by
  have ondisk : db ≠ ascii ":memory:" := by
    intro special
    have regular := ordinary.1
    rw [isSpecialDatabase, if_pos special] at regular
    cases regular
  obtain ⟨progress, holds, follows⟩ := kept.progress call creating
  rw [asks] at follows
  obtain ⟨allowed, later⟩ := follows
  have own := FileSystem.perform_holds db mode request refused world.files progress ondisk allowed
    holds
  -- what the request leaves alone: the live connections and the other constructors
  have others : (∀ entry ∈ world.live, Names db (world.files.perform request refused).1 entry.2) ∧
      ∀ other : Nat, other ≠ call → world.pool.calls[other]? = some .creating →
        ∀ progress : Progress, progress.Holds db world.files →
          progress.Holds db (world.files.perform request refused).1 := by
    by_cases removal : ∃ target, request = .remove target
    · obtain ⟨target, rfl⟩ := removal
      obtain ⟨none, unique⟩ := kept.alone (alone allowed.1) call creating
      rw [none]
      exact ⟨fun _ member => absurd member List.not_mem_nil,
        fun other different alsoCreating => absurd (unique other alsoCreating) different⟩
    · have stays := FileSystem.perform_stays db mode request refused world.files progress ondisk
        allowed holds fun target same => removal ⟨target, same⟩
      exact ⟨fun entry member => (kept.live entry member).stays stays,
        fun _ _ _ progress holds => holds.stays stays⟩
  refine ⟨⟨kept.balanced, kept.produced, fun other absent => ?_, others.1,
    fun other alsoCreating => ?_⟩, others.1⟩
  · have different : other ≠ call := fun same => absent (same ▸ creating)
    exact (if_neg different).trans (kept.elsewhere other absent)
  · rw [constructor_setOpening]
    by_cases same : other = call
    · rw [if_pos same]
      exact ⟨_, own, later _⟩
    · rw [if_neg same]
      obtain ⟨progress, holds, follows⟩ := kept.progress other alsoCreating
      exact ⟨progress, others.2 other same alsoCreating progress holds, follows⟩

theorem factory_leaves (pool next : Pool) (call : Nat) (result : FactoryResult)
    (enabled : pool.step (.factory call result) = some next) :
    next.calls[call]? ≠ some .creating ∧
      ∀ other : Nat, other ≠ call → next.calls[other]? = pool.calls[other]? := by
  have moved : ∀ phase : AcquirePhase, phase ≠ .creating →
      pool.calls[call]? = some .creating → next.calls = pool.calls.set call phase →
      next.calls[call]? ≠ some .creating ∧
        ∀ other : Nat, other ≠ call → next.calls[other]? = pool.calls[other]? := by
    intro phase left creating same
    rw [same]
    refine ⟨?_, fun other different => List.getElem?_set_ne different.symm⟩
    rw [List.getElem?_set_self (List.getElem?_eq_some_iff.mp creating).1]
    exact fun equal => left (Option.some.inj equal)
  cases Pool.moved_of_step (.factory call result) enabled with
  | connection call conn found => exact moved (.holding (some conn)) (by simp) found rfl
  | null call found => exact moved (.holding none) (by simp) found rfl
  | throws call found => exact moved .failed (by simp) found rfl

theorem finish_kept (kept : Kept followSymlinks db mode capacity world) (call : Nat)
    (result : FactoryResult) (pool : Pool)
    (enabled : world.pool.step (.factory call result) = some pool)
    (live : List (ConnId × Option Nat)) (named : ∀ entry ∈ live, Names db world.files entry.2)
    (produced : live.map Prod.fst = pool.produced) :
    Kept followSymlinks db mode capacity
      { world.setOpening call none with pool := pool, live := live } := by
  obtain ⟨lost, balanced⟩ := kept.balanced
  obtain ⟨left, same⟩ := factory_leaves world.pool pool call result enabled
  refine ⟨⟨_, Pool.step_balanced balanced _ enabled⟩, produced, fun other absent => ?_, named,
    fun other alsoCreating => ?_⟩
  · change (if other = call then none else world.opening other) = none
    by_cases equal : other = call
    · exact if_pos equal
    · rw [if_neg equal]
      exact kept.elsewhere other (same other equal ▸ absent)
  · have different : other ≠ call := fun equal => left (equal ▸ alsoCreating)
    have kept := kept.progress other ((same other different).symm.trans alsoCreating)
    have rest : constructor followSymlinks db mode other
        { world.setOpening call none with pool := pool, live := live } =
        world.constructor followSymlinks db mode other := by
      simp only [constructor, setOpening, if_neg different]
    rw [rest]
    exact kept

theorem factory_produced (pool next : Pool) (call : Nat) (conn : ConnId)
    (enabled : pool.step (.factory call (.connection conn)) = some next) :
    next.produced = conn :: pool.produced := by
  cases Pool.moved_of_step _ enabled with
  | connection call conn found => rfl

/-- Connections that are live stay so, and the path still names the file each has open. -/
def Undamaged (db : Text) (world next : Growth) : Prop :=
  ∀ entry ∈ world.live, entry ∈ next.live ∧ Names db next.files entry.2

theorem create_kept (kept : Kept followSymlinks db mode capacity world)
    (ordinary : OrdinaryPath db) (alone : mode = .alwaysCreate → world.pool.created ≤ 1)
    (call : Nat) (refused : Option Refusal) (conn : ConnId) (next : Growth)
    (enabled : world.create followSymlinks db mode call refused conn = some next) :
    Kept followSymlinks db mode capacity next ∧ Undamaged db world next := by
  unfold create at enabled
  split at enabled
  · rename_i creating
    obtain ⟨progress, holds, follows⟩ := kept.progress call creating
    split at enabled
    · rename_i file finished
      obtain ⟨pool, stepped, rfl⟩ := Option.map_eq_some_iff.mp enabled
      rw [finished] at follows
      have named : Names db world.files file := by
        rw [show progress = .opened file from follows] at holds
        exact holds
      have produced := factory_produced world.pool pool call conn stepped
      refine ⟨finish_kept kept call _ pool stepped _ (fun entry member => ?_) ?_,
        fun entry member => ⟨List.mem_cons_of_mem _ member, kept.live entry member⟩⟩
      · rcases List.mem_cons.mp member with rfl | old
        · exact named
        · exact kept.live entry old
      · rw [List.map_cons, kept.produced, produced]
    · obtain ⟨pool, stepped, rfl⟩ := Option.map_eq_some_iff.mp enabled
      have produced : pool.produced = world.pool.produced := by
        cases Pool.moved_of_step _ stepped with
        | throws call found => rfl
      exact ⟨finish_kept kept call _ pool stepped world.live kept.live
        (kept.produced.trans produced.symm), fun entry member => ⟨member, kept.live entry member⟩⟩
    · rename_i request rest asks
      cases enabled
      obtain ⟨after, live⟩ := request_kept kept ordinary alone call creating request rest asks
        refused
      exact ⟨after, fun entry member => ⟨member, live entry member⟩⟩
  · cases enabled

theorem step_kept (kept : Kept followSymlinks db mode capacity world) (ordinary : OrdinaryPath db)
    (alone : mode = .alwaysCreate → world.pool.created ≤ 1) (action : GrowthAction)
    (next : Growth) (enabled : world.step followSymlinks db mode action = some next) :
    Kept followSymlinks db mode capacity next ∧ Undamaged db world next := by
  have internal : ∀ action : PoolAction, (∀ call result, action ≠ .factory call result) →
      (world.pool.step action).map (fun pool => { world with pool := pool }) = some next →
      Kept followSymlinks db mode capacity next ∧ Undamaged db world next := by
    intro action notFactory moved
    obtain ⟨pool, stepped, rfl⟩ := Option.map_eq_some_iff.mp moved
    exact ⟨pool_kept kept action pool stepped notFactory ordinary,
      fun entry member => ⟨member, kept.live entry member⟩⟩
  cases action with
  | pool action =>
      by_cases factory : ∃ call result, action = .factory call result
      · obtain ⟨call, result, rfl⟩ := factory
        cases enabled
      · refine internal action (fun call result same => factory ⟨call, result, same⟩) ?_
        cases action with
        | factory call result => cases enabled
        | _ => exact enabled
  | create call refused conn => exact create_kept kept ordinary alone call refused conn next enabled
  | outside path node =>
      obtain ⟨after, same, live⟩ := outside_kept kept path node next enabled
      refine ⟨after, fun entry member => ⟨live ▸ member, ?_⟩⟩
      exact (kept.live entry member).stays (Node.stays_of_eq same)

theorem start_kept (files : FileSystem)
    (started : start capacity files = .ok world) :
    Kept followSymlinks db mode capacity world := by
  unfold start at started
  split at started
  · rename_i pool constructed
    cases started
    have balanced := Pool.construct_balanced capacity true pool constructed
    obtain ⟨_, rfl⟩ := Pool.construct_eq capacity true pool constructed
    exact ⟨⟨0, balanced⟩, rfl, fun _ _ => rfl, fun _ member => absurd member List.not_mem_nil,
      fun call creating => by cases creating⟩
  · cases started

/-- Either the mode removes nothing, or there is never a second slot. -/
def KeepsToItself (followSymlinks : Bool) (db : Text) (mode : OpenMode) (capacity : Nat)
    (actions : List GrowthAction) (world : Growth) : Prop :=
  mode ≠ .alwaysCreate ∨ capacity = 1 ∨
    EveryState (step followSymlinks db mode) (fun world => world.pool.created ≤ 1) actions world

theorem run_kept (ordinary : OrdinaryPath db) (actions : List GrowthAction) (final : Growth)
    (kept : Kept followSymlinks db mode capacity world)
    (alone : KeepsToItself followSymlinks db mode capacity actions world)
    (run : exec (step followSymlinks db mode) actions world = some final) :
    Kept followSymlinks db mode capacity final ∧
      (mode = .alwaysCreate → final.pool.created ≤ 1) := by
  rcases alone with harmless | rfl | single
  · have preserved := exec_preserves (step followSymlinks db mode)
      (Kept followSymlinks db mode capacity) (fun world action next kept enabled =>
        (step_kept kept ordinary (fun same => absurd same harmless) action next enabled).1)
      actions world final kept run
    exact ⟨preserved, fun same => absurd same harmless⟩
  · have bounded : ∀ world, Kept followSymlinks db mode 1 world → world.pool.created ≤ 1 := by
      intro world kept
      obtain ⟨lost, balanced⟩ := kept.balanced
      exact balanced.limits.2
    have preserved := exec_preserves (step followSymlinks db mode)
      (Kept followSymlinks db mode 1) (fun world action next kept enabled =>
        (step_kept kept ordinary (fun _ => bounded world kept) action next enabled).1)
      actions world final kept run
    exact ⟨preserved, fun _ => bounded final preserved⟩
  · have preserved := everyState_preserves (step followSymlinks db mode)
      (Kept followSymlinks db mode capacity) (fun world => world.pool.created ≤ 1)
      (fun world action next kept single enabled =>
        (step_kept kept ordinary (fun _ => single) action next enabled).1)
      actions world final kept single run
    exact ⟨preserved, fun _ => everyState_final _ _ actions world final single run⟩

end Kept

/-- In every state of a run all live connections have the file open that the path names,
so they share it, and no further step takes it from them. -/
theorem growth_keeps_database (followSymlinks : Bool) (db : Text) (mode : OpenMode)
    (capacity : Nat) (files : FileSystem) (initial : Growth) (actions : List GrowthAction)
    (world : Growth) (ordinary : OrdinaryPath db) (started : start capacity files = .ok initial)
    (alone : KeepsToItself followSymlinks db mode capacity actions initial)
    (run : exec (step followSymlinks db mode) actions initial = some world) :
    world.live.map Prod.fst = world.pool.produced ∧
      (∀ entry ∈ world.live, Names db world.files entry.2) ∧
      (∀ one ∈ world.live, ∀ other ∈ world.live, one.2 = other.2) ∧
      ∀ action next, world.step followSymlinks db mode action = some next →
        Undamaged db world next := by
  obtain ⟨kept, single⟩ := run_kept ordinary actions world (start_kept files started) alone run
  refine ⟨kept.produced, kept.live, fun one oneLive other otherLive => ?_,
    fun action next enabled => (step_kept kept ordinary single action next enabled).2⟩
  obtain ⟨number, oneFile, oneNode⟩ := kept.live one oneLive
  obtain ⟨number', otherFile, otherNode⟩ := kept.live other otherLive
  rw [oneNode] at otherNode
  cases otherNode
  rw [oneFile, otherFile]

def noFiles : FileSystem := ⟨fun _ => .absent, 0, fun _ _ found => by cases found⟩

/-- Two threads create the database at once, each having found it missing. -/
theorem growth_keeps_database_raced :
    ∃ initial world, start 2 noFiles = .ok initial ∧
      exec (step true (ascii "t.db") .openOrCreate) [.pool .enter, .pool .enter,
        .create 0 none 7, .create 1 none 8, .create 0 none 7, .create 1 none 8,
        .create 0 none 7, .create 1 none 8, .create 0 none 7, .create 1 none 8] initial =
          some world ∧
      world.live = [(8, some 0), (7, some 0)] ∧ world.files.node (ascii "t.db") = .regular 0 := by
  refine ⟨_, _, rfl, rfl, rfl, ?_⟩
  have kept := growth_keeps_database true (ascii "t.db") .openOrCreate 2 noFiles _ [.pool .enter,
    .pool .enter, .create 0 none 7, .create 1 none 8, .create 0 none 7, .create 1 none 8,
    .create 0 none 7, .create 1 none 8, .create 0 none 7, .create 1 none 8] _
    ⟨by decide, by decide⟩ rfl (Or.inl (by decide)) rfl
  obtain ⟨number, same, named⟩ := kept.2.1 (7, some 0) (by decide)
  cases same
  exact named

/-- With `always_create` the second connection removes the file of the first. -/
theorem recreation_splits_pool :
    OrdinaryPath (ascii "t.db") ∧ ∃ initial world, start 2 noFiles = .ok initial ∧
      exec (step true (ascii "t.db") .alwaysCreate) [.pool .enter, .create 0 none 7,
        .create 0 none 7, .create 0 none 7, .create 0 none 7, .pool (.lease 0), .pool .enter,
        .create 1 none 8, .create 1 none 8, .create 1 none 8, .create 1 none 8] initial =
          some world ∧
      world.live = [(7, some 0)] ∧ world.files.node (ascii "t.db") = .absent ∧
      ∃ later, exec (step true (ascii "t.db") .alwaysCreate) [.create 1 none 8, .create 1 none 8]
          world = some later ∧
        later.live = [(8, some 2), (7, some 0)] :=
  ⟨⟨by decide, by decide⟩, _, _, rfl, rfl, rfl, by decide, _, rfl, rfl⟩

end Growth
end VSQLite
