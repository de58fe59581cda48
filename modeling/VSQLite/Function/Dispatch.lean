import VSQLite.Function.Entry
import VSQLite.Function.Registration
import VSQLite.Lib.Recency

/-!
# What a call from SQL runs

SQLite finds a function by its name and its number of arguments, and calls its entry with the
pointer it was registered with.  Whatever was registered and replaced before, a call comes to the
callable registered last, and never to a holder that is gone.
-/

set_option autoImplicit false

namespace VSQLite
open Lib

/-- The holder of a callable, or `json_contains`, which has no user data. -/
inductive Implementation where
  | holder (holder : HolderId)
  | jsonContains
deriving DecidableEq, Repr

/-- The functions of a connection, what is in each holder, and the keys under which
`json_contains` is registered. -/
structure Dispatcher where
  functions : Functions
  callables : List Callable
  natives : List FunctionKey

inductive DispatchAction where
  | create (name : Text) (options : FunctionOptions) (callable : Callable) (rc : ResultCode)
  | registerContains (name : Text) (available : Bool) (rc : ResultCode)
  | close (err : ResultCode)

/-- What becomes of a call: SQLite knows no such function, the result is set, or C++ does not
say what happens. -/
inductive Called where
  | noFunction
  | returned (result : FunctionResult)
  | undefined
deriving DecidableEq, Repr

def Called.ofResult : Option FunctionResult → Called
  | some result => .returned result
  | none => .undefined

/-- `json_contains`, but for what it does with three arguments. -/
def jsonContainsEntry (contains : Value → Value → Value → FunctionResult) (argv : List Value) :
    FunctionResult :=
  match argv with
  | [json, path, value] => contains json path value
  | _ => .error (ascii "json_contains_value(json, path, value) expects 3 arguments.")

namespace Dispatcher

def opened (db : DbHandle) : Dispatcher := ⟨Functions.opened db, [], []⟩

section Registering
variable (nativeUtf16 : Nat)

def request (name : Text) (options : FunctionOptions) (callable : Callable) :
    Functions.Registration :=
  ⟨name, callable.parameters.length, options⟩

def createKeys (name : Text) (options : FunctionOptions) (callable : Callable) :
    List FunctionKey :=
  functionKeys nativeUtf16 name callable.parameters.length (composeTextRep options)

/-- `create_function`; the holder is allocated once the arity has been checked. -/
def create (name : Text) (options : FunctionOptions) (callable : Callable) (rc : ResultCode)
    (dispatcher : Dispatcher) : Option Dispatcher :=
  let asked := request name options callable
  let created := (dispatcher.functions.createFunction nativeUtf16 asked rc).1
  let callables := dispatcher.callables ++ [callable]
  if asked.arity ≠ asked.maxArity then some { dispatcher with functions := created }
  else if dispatcher.functions.handle.isNone then
    some { dispatcher with functions := created, callables := callables }
  else if rc = .ok then
    some
      { functions := created
        callables := callables
        natives := dispatcher.natives.filter (· ∉ createKeys nativeUtf16 name options callable) }
  -- the holder is destroyed twice, and C++ does not say what happens then
  else none

def containsKeys (name : Text) : List FunctionKey := functionKeys nativeUtf16 name 3 0x801

/-- `register_contains_function`; `available` is what `probe_json` finds. -/
def registerContains (name : Text) (available : Bool) (rc : ResultCode)
    (dispatcher : Dispatcher) : Dispatcher :=
  if dispatcher.functions.handle.isNone ∨ available = false ∨ rc ≠ .ok then dispatcher
  else
    let keys := containsKeys nativeUtf16 name
    let table := dispatcher.functions.table.filter fun entry => entry.1 ∉ keys
    { dispatcher with
      functions := { dispatcher.functions with
        table := table
        destroyed := (Functions.registered dispatcher.functions.table).filter
            (fun old => old ∉ table.map Prod.snd) ++ dispatcher.functions.destroyed }
      natives := keys ++ dispatcher.natives.filter (· ∉ keys) }

def close (err : ResultCode) (dispatcher : Dispatcher) : Dispatcher :=
  { dispatcher with
    functions := (dispatcher.functions.close err).1
    natives :=
      if dispatcher.functions.handle.isSome ∧ err = .ok then [] else dispatcher.natives }

/-- The program catches what a call throws, and goes on. -/
def step (dispatcher : Dispatcher) : DispatchAction → Option Dispatcher
  | .create name options callable rc => dispatcher.create nativeUtf16 name options callable rc
  | .registerContains name available rc =>
      some (dispatcher.registerContains nativeUtf16 name available rc)
  | .close err => some (dispatcher.close err)

end Registering

def find (key : FunctionKey) (dispatcher : Dispatcher) : Option Implementation :=
  match Recency.lookup key dispatcher.functions.table with
  | some holder => some (.holder holder)
  | none => if key ∈ dispatcher.natives then some .jsonContains else none

section Calling
variable (conversions : Conversions) (emptyNull : Bool)
variable (contains : Value → Value → Value → FunctionResult)

/-- A call that SQLite takes to the function under the key. -/
def call (key : FunctionKey) (argv : List Value) (dispatcher : Dispatcher) : Called :=
  match dispatcher.find key with
  | none => .noFunction
  | some .jsonContains => .returned (jsonContainsEntry contains argv)
  | some (.holder holder) =>
      if holder ∈ dispatcher.functions.destroyed then .undefined
      else .ofResult
        (Callable.functionEntry conversions emptyNull dispatcher.callables[holder]? argv)

end Calling
end Dispatcher

/-! ## What is meant by it -/

inductive SqlFunction where
  | callable (callable : Callable)
  | contains

/-- The functions of an open connection by their keys; nothing once it is closed. -/
abbrev Registry : Type := Option (FunctionKey → Option SqlFunction)

namespace Registry
section Registering
variable (nativeUtf16 : Nat)

def assign (keys : List FunctionKey) (function : SqlFunction)
    (functions : FunctionKey → Option SqlFunction) (key : FunctionKey) : Option SqlFunction :=
  if key ∈ keys then some function else functions key

/-- A registration counts when its arity is right.  One that SQLite rejects leaves no registry. -/
def register : Registry → DispatchAction → Option Registry
  | none, _ => some none
  | some functions, .create name options callable rc =>
      if (Dispatcher.request name options callable).arity ≠ callable.parameters.length then
        some (some functions)
      else if rc = .ok then
        some (some (assign (Dispatcher.createKeys nativeUtf16 name options callable)
          (.callable callable) functions))
      else none
  | some functions, .registerContains name available rc =>
      if available = true ∧ rc = .ok then
        some (some (assign (Dispatcher.containsKeys nativeUtf16 name) .contains functions))
      else some (some functions)
  | some functions, .close err => some (if err = .ok then none else some functions)

/-- What the registrations of a run leave, if SQLite rejects none of them. -/
def after (actions : List DispatchAction) : Option Registry :=
  exec (register nativeUtf16) actions (some fun _ => none)

end Registering

section Calling
variable (conversions : Conversions) (emptyNull : Bool)
variable (contains : Value → Value → Value → FunctionResult)

def find (key : FunctionKey) (registry : Registry) : Option SqlFunction :=
  registry.bind fun functions => functions key

/-- The callable is called on what the arguments convert to. -/
def call (key : FunctionKey) (argv : List Value) (registry : Registry) : Called :=
  match registry.find key with
  | none => .noFunction
  | some .contains =>
      .returned (contains (argv.getD 0 .null) (argv.getD 1 .null) (argv.getD 2 .null))
  | some (.callable callable) => .ofResult (callable.outcome conversions emptyNull argv)

end Calling
end Registry

/-! ## Calls reach the registry -/

namespace Dispatcher

/-- Holders that SQLite still has are whole, and hold callables of the registered arity. -/
structure Sound (dispatcher : Dispatcher) : Prop where
  allocated : dispatcher.callables.length = dispatcher.functions.holders
  known : ∀ key holder, (key, holder) ∈ dispatcher.functions.table →
    holder ∉ dispatcher.functions.destroyed ∧
      ∃ callable, dispatcher.callables[holder]? = some callable ∧
        callable.parameters.length = key.arity
  gone : ∀ holder ∈ dispatcher.functions.destroyed, holder < dispatcher.functions.holders
  natives : ∀ key ∈ dispatcher.natives, key.arity = 3
  closed : dispatcher.functions.handle = none →
    dispatcher.functions.table = [] ∧ dispatcher.natives = []

/-- The function a key stands for. -/
def functionAt (key : FunctionKey) (dispatcher : Dispatcher) : Option SqlFunction :=
  match dispatcher.find key with
  | none => none
  | some .jsonContains => some .contains
  | some (.holder holder) => dispatcher.callables[holder]?.map .callable

def view (dispatcher : Dispatcher) : Registry :=
  dispatcher.functions.handle.map fun _ key => dispatcher.functionAt key

theorem sound_opened (db : DbHandle) : Sound (opened db) := by
  refine ⟨rfl, ?_, ?_, ?_, fun impossible => by cases impossible⟩
  · intro key holder found
    cases found
  · intro holder member
    cases member
  · intro key member
    cases member

theorem functionKeys_arity (nativeUtf16 : Nat) (name : Text) (arity : Nat)
    (textRep : BitVec 32) (key : FunctionKey)
    (member : key ∈ functionKeys nativeUtf16 name arity textRep) : key.arity = arity := by
  obtain ⟨encoding, _, rfl⟩ := List.mem_map.mp member
  rfl

def dropped (table : List (FunctionKey × HolderId)) (dispatcher : Dispatcher) : List HolderId :=
  (Functions.registered dispatcher.functions.table).filter fun old => old ∉ table.map Prod.snd

/-- A callable is put into a holder that is destroyed at once. -/
def abandon (callable : Callable) (dispatcher : Dispatcher) : Dispatcher :=
  { dispatcher with
    functions := { dispatcher.functions with
      holders := dispatcher.functions.holders + 1
      destroyed := dispatcher.functions.holders :: dispatcher.functions.destroyed }
    callables := dispatcher.callables ++ [callable] }

/-- A callable is put into a holder, and SQLite takes the holder under some keys. -/
def accept (keys : List FunctionKey) (callable : Callable) (dispatcher : Dispatcher) :
    Dispatcher :=
  let table := Functions.replace keys dispatcher.functions.holders dispatcher.functions.table
  { functions := { dispatcher.functions with
      table := table
      holders := dispatcher.functions.holders + 1
      destroyed := dispatcher.dropped table ++ dispatcher.functions.destroyed }
    callables := dispatcher.callables ++ [callable]
    natives := dispatcher.natives.filter (· ∉ keys) }

def acceptContains (keys : List FunctionKey) (dispatcher : Dispatcher) : Dispatcher :=
  let table := dispatcher.functions.table.filter fun entry => entry.1 ∉ keys
  { dispatcher with
    functions := { dispatcher.functions with
      table := table
      destroyed := dispatcher.dropped table ++ dispatcher.functions.destroyed }
    natives := keys ++ dispatcher.natives.filter (· ∉ keys) }

section Steps
variable (nativeUtf16 : Nat) (name : Text) (options : FunctionOptions) (callable : Callable)
variable (rc : ResultCode) (dispatcher : Dispatcher)

theorem create_cases :
    ((request name options callable).arity ≠ callable.parameters.length ∧
      dispatcher.create nativeUtf16 name options callable rc = some dispatcher) ∨
    ((request name options callable).arity = callable.parameters.length ∧
      dispatcher.functions.handle = none ∧
      dispatcher.create nativeUtf16 name options callable rc =
        some (dispatcher.abandon callable)) ∨
    ((request name options callable).arity = callable.parameters.length ∧
      dispatcher.functions.handle.isSome ∧ rc = .ok ∧
      dispatcher.create nativeUtf16 name options callable rc =
        some (dispatcher.accept (createKeys nativeUtf16 name options callable) callable)) ∨
    ((request name options callable).arity = callable.parameters.length ∧
      dispatcher.functions.handle.isSome ∧ rc ≠ .ok ∧
      dispatcher.create nativeUtf16 name options callable rc = none) := by
  obtain ⟨⟨handle, table, holders, destroyed⟩, callables, natives⟩ := dispatcher
  unfold create
  by_cases mismatch : (request name options callable).arity ≠
      (request name options callable).maxArity
  · refine Or.inl ⟨mismatch, ?_⟩
    simp only [if_pos mismatch, Functions.createFunction]
  · have fits : (request name options callable).arity = callable.parameters.length :=
      not_not.mp mismatch
    simp only [if_neg mismatch, Functions.createFunction]
    cases handle with
    | none => exact Or.inr (Or.inl ⟨fits, rfl, rfl⟩)
    | some db =>
        by_cases accepted : rc = .ok
        · refine Or.inr (Or.inr (Or.inl ⟨fits, rfl, accepted, ?_⟩))
          simp only [Option.isNone_some, Bool.false_eq_true, if_false, if_pos accepted,
            Functions.sqlite3CreateFunctionV2]
          rfl
        · refine Or.inr (Or.inr (Or.inr ⟨fits, rfl, accepted, ?_⟩))
          simp only [Option.isNone_some, Bool.false_eq_true, if_false, if_neg accepted]

/-- The run goes on exactly where the holder is not destroyed twice. -/
theorem create_isSome_iff :
    (dispatcher.create nativeUtf16 name options callable rc).isSome = true ↔
      dispatcher.functions.Accepted (.create (request name options callable) rc) := by
  rcases create_cases nativeUtf16 name options callable rc dispatcher with
    ⟨mismatch, same⟩ | ⟨fits, closed, left⟩ | ⟨fits, opened, accepted, taken⟩ |
    ⟨fits, opened, rejected, nothing⟩
  · rw [same]
    exact ⟨fun _ _ fits => absurd fits mismatch, fun _ => rfl⟩
  · rw [left, Functions.Accepted, closed]
    exact ⟨fun _ impossible => (by cases impossible), fun _ => rfl⟩
  · rw [taken]
    exact ⟨fun _ _ _ => accepted, fun _ => rfl⟩
  · rw [nothing]
    exact ⟨fun impossible => (by cases impossible),
      fun holds => absurd (holds opened fits) rejected⟩

theorem registerContains_cases (available : Bool) :
    (¬(dispatcher.functions.handle.isSome ∧ available = true ∧ rc = .ok) ∧
      dispatcher.registerContains nativeUtf16 name available rc = dispatcher) ∨
    (dispatcher.functions.handle.isSome ∧ available = true ∧ rc = .ok ∧
      dispatcher.registerContains nativeUtf16 name available rc =
        dispatcher.acceptContains (containsKeys nativeUtf16 name)) := by
  unfold registerContains
  by_cases refused : dispatcher.functions.handle.isNone ∨ available = false ∨ rc ≠ .ok
  · refine Or.inl ⟨?_, if_pos refused⟩
    rintro ⟨opened, present, accepted⟩
    rcases refused with closed | absent | rejected
    · rw [Option.isNone_iff_eq_none.mp closed] at opened
      cases opened
    · rw [absent] at present
      cases present
    · exact rejected accepted
  · refine Or.inr ⟨?_, ?_, ?_, if_neg refused⟩
    · exact Option.isSome_iff_ne_none.mpr fun closed =>
        refused (Or.inl (Option.isNone_iff_eq_none.mpr closed))
    · exact Bool.eq_true_of_not_eq_false fun absent => refused (Or.inr (Or.inl absent))
    · exact Classical.byContradiction fun rejected => refused (Or.inr (Or.inr rejected))

end Steps

theorem kept_not_destroyed {dispatcher : Dispatcher} (table : List (FunctionKey × HolderId))
    (key : FunctionKey) (holder : HolderId) (member : (key, holder) ∈ table)
    (whole : holder ∉ dispatcher.functions.destroyed) :
    holder ∉ dispatcher.dropped table ++ dispatcher.functions.destroyed := by
  intro destroyed
  rcases List.mem_append.mp destroyed with now | before
  · have absent := (List.mem_filter.mp now).2
    rw [decide_eq_true_eq] at absent
    exact absent (List.mem_map.mpr ⟨(key, holder), member, rfl⟩)
  · exact whole before

section Soundness
variable {dispatcher : Dispatcher} (sound : Sound dispatcher)
include sound

theorem lt_of_known (key : FunctionKey) (holder : HolderId)
    (member : (key, holder) ∈ dispatcher.functions.table) :
    holder < dispatcher.functions.holders := by
  obtain ⟨_, callable, found, _⟩ := sound.known key holder member
  rw [← sound.allocated]
  exact (List.getElem?_eq_some_iff.mp found).1

theorem lt_of_dropped (table : List (FunctionKey × HolderId)) (holder : HolderId)
    (member : holder ∈ dispatcher.dropped table) : holder < dispatcher.functions.holders := by
  have registered := (Functions.mem_registered _ _).mp (List.mem_of_mem_filter member)
  obtain ⟨⟨key, found⟩, entry, same⟩ := List.mem_map.mp registered
  cases same
  exact lt_of_known sound key found entry

theorem callables_old (callable : Callable) (key : FunctionKey) (holder : HolderId)
    (member : (key, holder) ∈ dispatcher.functions.table) :
    (dispatcher.callables ++ [callable])[holder]? = dispatcher.callables[holder]? := by
  apply List.getElem?_append_left
  rw [sound.allocated]
  exact lt_of_known sound key holder member

theorem callables_new (callable : Callable) :
    (dispatcher.callables ++ [callable])[dispatcher.functions.holders]? = some callable := by
  rw [← sound.allocated]
  exact List.getElem?_concat_length ..

theorem abandon_sound (callable : Callable) : Sound (dispatcher.abandon callable) := by
  refine ⟨?_, ?_, ?_, sound.natives, sound.closed⟩
  · simp [abandon, sound.allocated]
  · intro key holder member
    obtain ⟨whole, found, at_holder, arity⟩ := sound.known key holder member
    have bound := lt_of_known sound key holder member
    refine ⟨?_, found, (callables_old sound callable key holder member).trans at_holder, arity⟩
    exact List.not_mem_cons_of_ne_of_not_mem (Nat.ne_of_lt bound) whole
  · intro holder member
    rcases List.mem_cons.mp member with rfl | before
    · exact Nat.lt_succ_self _
    · exact Nat.lt_succ_of_lt (sound.gone holder before)

theorem accept_sound (keys : List FunctionKey) (callable : Callable)
    (arity : ∀ key ∈ keys, key.arity = callable.parameters.length)
    (opened : dispatcher.functions.handle.isSome) : Sound (dispatcher.accept keys callable) := by
  refine ⟨?_, ?_, ?_, ?_, ?_⟩
  · simp [accept, sound.allocated]
  · intro key holder member
    rcases List.mem_append.mp member with new | old
    · obtain ⟨assigned, fresh, same⟩ := List.mem_map.mp new
      cases same
      refine ⟨kept_not_destroyed _ _ _ member ?_, callable,
        callables_new sound callable, (arity key fresh).symm⟩
      exact fun destroyed => Nat.lt_irrefl _ (sound.gone _ destroyed)
    · have before := List.mem_of_mem_filter old
      obtain ⟨whole, found, at_holder, fits⟩ := sound.known key holder before
      exact ⟨kept_not_destroyed _ key holder member whole, found,
        (callables_old sound callable key holder before).trans at_holder, fits⟩
  · intro holder member
    rcases List.mem_append.mp member with now | before
    · exact Nat.lt_succ_of_lt (lt_of_dropped sound _ holder now)
    · exact Nat.lt_succ_of_lt (sound.gone holder before)
  · intro key member
    exact sound.natives key (List.mem_of_mem_filter member)
  · intro closed
    change dispatcher.functions.handle = none at closed
    rw [closed] at opened
    cases opened

theorem acceptContains_sound (keys : List FunctionKey) (arity : ∀ key ∈ keys, key.arity = 3)
    (opened : dispatcher.functions.handle.isSome) :
    Sound (dispatcher.acceptContains keys) := by
  refine ⟨sound.allocated, ?_, ?_, ?_, ?_⟩
  · intro key holder member
    obtain ⟨whole, found⟩ := sound.known key holder (List.mem_of_mem_filter member)
    exact ⟨kept_not_destroyed _ key holder member whole, found⟩
  · intro holder member
    rcases List.mem_append.mp member with now | before
    · exact lt_of_dropped sound _ holder now
    · exact sound.gone holder before
  · intro key member
    rcases List.mem_append.mp member with new | old
    · exact arity key new
    · exact sound.natives key (List.mem_of_mem_filter old)
  · intro closed
    change dispatcher.functions.handle = none at closed
    rw [closed] at opened
    cases opened

/-! ### What is seen -/

theorem accept_functionAt (keys : List FunctionKey) (callable : Callable) (key : FunctionKey) :
    (dispatcher.accept keys callable).functionAt key =
      Registry.assign keys (.callable callable) (fun key => dispatcher.functionAt key) key := by
  have table : Recency.lookup key (dispatcher.accept keys callable).functions.table =
      if key ∈ keys then some dispatcher.functions.holders
      else Recency.lookup key dispatcher.functions.table := by
    refine (Recency.lookup_assign keys dispatcher.functions.holders key _).trans ?_
    by_cases assigned : key ∈ keys
    · rw [if_pos assigned, if_pos assigned]
    · rw [if_neg assigned, if_neg assigned, Recency.lookup_filter, if_neg assigned]
  simp only [functionAt, find, table, Registry.assign]
  by_cases assigned : key ∈ keys
  · simp only [if_pos assigned]
    exact congrArg (Option.map SqlFunction.callable) (callables_new sound callable)
  · simp only [if_neg assigned]
    cases known : Recency.lookup key dispatcher.functions.table with
    | some holder =>
        have member := Recency.mem_of_lookup key holder _ known
        exact congrArg (Option.map SqlFunction.callable)
          (callables_old sound callable key holder member)
    | none =>
        have kept : key ∈ (dispatcher.accept keys callable).natives ↔
            key ∈ dispatcher.natives := by
          simp [accept, assigned]
        by_cases native : key ∈ dispatcher.natives
        · simp only [if_pos native, if_pos (kept.mpr native)]
        · simp only [if_neg native, if_neg (mt kept.mp native)]

omit sound in
theorem acceptContains_functionAt (keys : List FunctionKey) (key : FunctionKey) :
    (dispatcher.acceptContains keys).functionAt key =
      Registry.assign keys .contains (fun key => dispatcher.functionAt key) key := by
  have table : Recency.lookup key (dispatcher.acceptContains keys).functions.table =
      if key ∈ keys then none else Recency.lookup key dispatcher.functions.table :=
    Recency.lookup_filter keys key _
  have native : key ∈ (dispatcher.acceptContains keys).natives ↔
      key ∈ keys ∨ key ∈ dispatcher.natives := by
    simp only [acceptContains, List.mem_append, List.mem_filter, decide_eq_true_eq]
    by_cases assigned : key ∈ keys <;> simp [assigned]
  simp only [functionAt, find, table, Registry.assign]
  by_cases assigned : key ∈ keys
  · simp only [if_pos assigned, if_pos (native.mpr (Or.inl assigned))]
  · simp only [if_neg assigned]
    cases known : Recency.lookup key dispatcher.functions.table with
    | some holder => rfl
    | none =>
        have kept := native.trans (or_iff_right assigned)
        by_cases before : key ∈ dispatcher.natives
        · simp only [if_pos before, if_pos (kept.mpr before)]
        · simp only [if_neg before, if_neg (mt kept.mp before)]

end Soundness

/-! ### Runs -/

section Runs
variable (nativeUtf16 : Nat)

theorem view_of_open {dispatcher : Dispatcher} {db : DbHandle}
    (opened : dispatcher.functions.handle = some db) :
    dispatcher.view = some fun key => dispatcher.functionAt key := by
  rw [view, opened]
  rfl

theorem view_of_closed {dispatcher : Dispatcher}
    (closed : dispatcher.functions.handle = none) : dispatcher.view = none := by
  rw [view, closed]
  rfl

theorem create_step (name : Text) (options : FunctionOptions) (callable : Callable)
    (rc : ResultCode) (dispatcher : Dispatcher) (sound : Sound dispatcher) :
    (∀ next, dispatcher.create nativeUtf16 name options callable rc = some next → Sound next) ∧
      (dispatcher.create nativeUtf16 name options callable rc).map view =
        Registry.register nativeUtf16 dispatcher.view (.create name options callable rc) := by
  rcases create_cases nativeUtf16 name options callable rc dispatcher with
    ⟨mismatch, same⟩ | ⟨fits, closed, left⟩ | ⟨fits, opened, accepted, taken⟩ |
    ⟨fits, opened, rejected, nothing⟩
  · rw [same]
    refine ⟨fun next stepped => Option.some.inj stepped ▸ sound, ?_⟩
    cases handle : dispatcher.functions.handle with
    | none => rw [Option.map_some, view_of_closed handle, Registry.register]
    | some db => rw [Option.map_some, view_of_open handle, Registry.register, if_pos mismatch]
  · rw [left]
    refine ⟨fun next stepped => Option.some.inj stepped ▸ abandon_sound sound callable, ?_⟩
    have after : (dispatcher.abandon callable).functions.handle = none := closed
    rw [Option.map_some, view_of_closed after, view_of_closed closed, Registry.register]
  · rw [taken]
    have kept := accept_sound sound (createKeys nativeUtf16 name options callable) callable
      (functionKeys_arity nativeUtf16 name _ _) opened
    refine ⟨fun next stepped => Option.some.inj stepped ▸ kept, ?_⟩
    obtain ⟨db, handle⟩ := Option.isSome_iff_exists.mp opened
    have after : (dispatcher.accept (createKeys nativeUtf16 name options callable)
        callable).functions.handle = some db := handle
    rw [Option.map_some, view_of_open after, view_of_open handle, Registry.register,
      if_neg (not_not.mpr fits), if_pos accepted]
    exact congrArg (fun functions => some (some functions))
      (funext (accept_functionAt sound _ callable))
  · rw [nothing]
    refine ⟨nofun, ?_⟩
    obtain ⟨db, handle⟩ := Option.isSome_iff_exists.mp opened
    rw [Option.map_none, view_of_open handle, Registry.register, if_neg (not_not.mpr fits),
      if_neg rejected]

theorem registerContains_step (name : Text) (available : Bool) (rc : ResultCode)
    (dispatcher : Dispatcher) (sound : Sound dispatcher) :
    Sound (dispatcher.registerContains nativeUtf16 name available rc) ∧
      some (dispatcher.registerContains nativeUtf16 name available rc).view =
        Registry.register nativeUtf16 dispatcher.view (.registerContains name available rc) := by
  rcases registerContains_cases nativeUtf16 name rc dispatcher available with
    ⟨refused, same⟩ | ⟨opened, present, accepted, taken⟩
  · rw [same]
    refine ⟨sound, ?_⟩
    cases handle : dispatcher.functions.handle with
    | none => rw [view_of_closed handle, Registry.register]
    | some db =>
        rw [view_of_open handle, Registry.register,
          if_neg fun both => refused ⟨by rw [handle]; rfl, both⟩]
  · rw [taken]
    refine ⟨acceptContains_sound sound _ (functionKeys_arity nativeUtf16 name _ _) opened, ?_⟩
    obtain ⟨db, handle⟩ := Option.isSome_iff_exists.mp opened
    have kept : (dispatcher.acceptContains (containsKeys nativeUtf16 name)).functions.handle =
        some db := handle
    rw [view_of_open kept, view_of_open handle, Registry.register, if_pos ⟨present, accepted⟩]
    exact congrArg (fun functions => some (some functions)) (funext (acceptContains_functionAt _))

theorem close_step (err : ResultCode) (dispatcher : Dispatcher) (sound : Sound dispatcher) :
    Sound (dispatcher.close err) ∧
      some (dispatcher.close err).view =
        Registry.register nativeUtf16 dispatcher.view (.close err) := by
  obtain ⟨⟨handle, table, holders, destroyed⟩, callables, natives⟩ := dispatcher
  cases handle with
  | none => exact ⟨sound, rfl⟩
  | some db =>
      by_cases done : err = .ok
      · subst done
        refine ⟨⟨sound.allocated, ?_, ?_, ?_, fun _ => ⟨rfl, rfl⟩⟩, rfl⟩
        · intro key holder member
          cases member
        · intro holder member
          rcases List.mem_append.mp member with now | before
          · obtain ⟨⟨key, found⟩, entry, same⟩ :=
              List.mem_map.mp ((Functions.mem_registered _ _).mp now)
            cases same
            exact lt_of_known sound key found entry
          · exact sound.gone holder before
        · intro key member
          cases member
      · have same : close err ⟨⟨some db, table, holders, destroyed⟩, callables, natives⟩ =
            ⟨⟨some db, table, holders, destroyed⟩, callables, natives⟩ := by
          simp [close, Functions.close, done]
        rw [same]
        refine ⟨sound, ?_⟩
        exact congrArg some (if_neg done).symm

/-- Under the invariant a call does what the function under the key is meant to do. -/
theorem call_eq (conversions : Conversions) (emptyNull : Bool)
    (contains : Value → Value → Value → FunctionResult) (dispatcher : Dispatcher)
    (sound : Sound dispatcher) (key : FunctionKey) (argv : List Value)
    (fits : argv.length = key.arity) :
    dispatcher.call conversions emptyNull contains key argv =
      Registry.call conversions emptyNull contains key argv dispatcher.view := by
  have seen : Registry.find key dispatcher.view = dispatcher.functionAt key := by
    cases handle : dispatcher.functions.handle with
    | some db =>
        rw [view_of_open handle]
        rfl
    | none =>
        obtain ⟨table, natives⟩ := sound.closed handle
        rw [view_of_closed handle, functionAt, find, table, natives]
        rfl
  rw [call, Registry.call, seen, functionAt]
  cases found : dispatcher.find key with
  | none => rfl
  | some implementation =>
      unfold find at found
      split at found
      · rename_i holder known
        cases found
        obtain ⟨whole, callable, at_holder, arity⟩ :=
          sound.known key holder (Recency.mem_of_lookup key holder _ known)
        simp only [if_neg whole, at_holder, Option.map_some]
        rw [functionEntry_eq_outcome conversions emptyNull callable argv (fits.trans arity.symm)]
      · split at found
        · rename_i native
          cases found
          have three : argv.length = 3 := fits.trans (sound.natives key native)
          match argv, three with
          | [json, path, value], _ => rfl
        · cases found

theorem dispatch_step (action : DispatchAction) (dispatcher : Dispatcher)
    (sound : Sound dispatcher) :
    (∀ next, dispatcher.step nativeUtf16 action = some next → Sound next) ∧
      (dispatcher.step nativeUtf16 action).map view =
        Registry.register nativeUtf16 dispatcher.view action := by
  cases action with
  | create name options callable rc =>
      exact create_step nativeUtf16 name options callable rc dispatcher sound
  | registerContains name available rc =>
      obtain ⟨kept, seen⟩ := registerContains_step nativeUtf16 name available rc dispatcher sound
      exact ⟨fun next stepped => Option.some.inj stepped ▸ kept, seen⟩
  | close err =>
      obtain ⟨kept, seen⟩ := close_step nativeUtf16 err dispatcher sound
      exact ⟨fun next stepped => Option.some.inj stepped ▸ kept, seen⟩

theorem run_registers (db : DbHandle) (actions : List DispatchAction) :
    (exec (step nativeUtf16) actions (opened db)).map view = Registry.after nativeUtf16 actions ∧
      ∀ dispatcher, exec (step nativeUtf16) actions (opened db) = some dispatcher →
        Sound dispatcher := by
  have kept : ∀ dispatcher action next, Sound dispatcher →
      dispatcher.step nativeUtf16 action = some next → Sound next :=
    fun dispatcher action next sound => (dispatch_step nativeUtf16 action dispatcher sound).1 next
  refine ⟨?_, fun dispatcher run =>
    exec_preserves (step nativeUtf16) Sound kept actions _ dispatcher (sound_opened db) run⟩
  have refined := exec_refines (step nativeUtf16) (Registry.register nativeUtf16) some view Sound
    (fun _ _ => True) (fun dispatcher action next sound _ => kept dispatcher action next sound)
    (fun dispatcher action seen sound same =>
      Option.some.inj same ▸ (dispatch_step nativeUtf16 action dispatcher sound).2)
    (fun _ _ _ impossible => by cases impossible) actions (opened db) (sound_opened db)
    (everyStep_of_forall _ _ (fun _ _ => trivial) actions _)
  rw [List.filterMap_some] at refined
  exact refined

/-- Whatever is registered, replaced, refused for its arity and closed on a connection, as long as
SQLite rejects no `create_function`, a call with as many arguments as SQLite looks for does what
the last registration under its name says: it calls the callable on the converted arguments,
unless one that must not be is NULL, and reports what the callable returns or throws.  No entry is
ever without its metadata, called with another number of arguments, or given a holder that is
destroyed. -/
theorem calls_reach_last_registration (conversions : Conversions) (emptyNull : Bool)
    (contains : Value → Value → Value → FunctionResult) (db : DbHandle)
    (actions : List DispatchAction) (registry : Registry)
    (registered : Registry.after nativeUtf16 actions = some registry) :
    ∃ dispatcher, exec (step nativeUtf16) actions (opened db) = some dispatcher ∧
      ∀ (key : FunctionKey) (argv : List Value), argv.length = key.arity →
        dispatcher.call conversions emptyNull contains key argv =
          Registry.call conversions emptyNull contains key argv registry := by
  obtain ⟨refined, sound⟩ := run_registers nativeUtf16 db actions
  rw [registered] at refined
  obtain ⟨dispatcher, run, rfl⟩ := Option.map_eq_some_iff.mp refined
  exact ⟨dispatcher, run, fun key argv fits =>
    call_eq conversions emptyNull contains dispatcher (sound dispatcher run) key argv fits⟩

def keepBool : Callable :=
  ⟨[.converted (.base .bool)], .written (.base .bool), fun arguments => .ok arguments.1⟩

def flipBool : Callable :=
  ⟨[.converted (.base .bool)], .written (.base .bool), fun arguments => .ok (Bool.not arguments.1)⟩

/-- A function is replaced; a function of three arguments, a wrong arity and a close that SQLite
refuses leave it as it is. -/
def replacing : List DispatchAction :=
  [.create (ascii "f") {} keepBool .ok, .create (ascii "F") {} flipBool .ok,
    .registerContains (ascii "f") true .ok, .create (ascii "f") { arity := 2 } keepBool .ok,
    .close (.error 5)]

theorem calls_reach_last_registration_replaced :
    ∃ dispatcher, exec (step 2) replacing (opened 0) = some dispatcher ∧
      dispatcher.call ⟨fun _ => 0, fun _ => []⟩ true (fun _ _ _ => .value .null)
        ⟨foldCase (ascii "f"), 1, 1⟩ [.integer 0] = .returned (.value (.integer 1)) := by
  obtain ⟨dispatcher, run, calls⟩ := calls_reach_last_registration 2 ⟨fun _ => 0, fun _ => []⟩
    true (fun _ _ _ => .value .null) 0 replacing _ rfl
  exact ⟨dispatcher, run, calls ⟨foldCase (ascii "f"), 1, 1⟩ [.integer 0] rfl⟩

end Runs
end Dispatcher
end VSQLite
