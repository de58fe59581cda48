import VSQLite.Lib.Custody

/-!
# Keepers that own what they keep

Objects come and go, and each owns some resources.  A resource is handed from one owner to
another, and is released by a call when its owner gives it up.  The calls are recorded, the
latest one first.
-/

set_option autoImplicit false

namespace VSQLite.Lib

/-- The owners there have been, and how many resources were allocated for them. -/
structure Estate (Keeper Call : Type) where
  keepers : List Keeper
  allocated : Nat
  calls : List Call

section Keepers
variable {Keeper Call : Type} (holds : Keeper → List Nat) (uses releases : Call → Option Nat)

theorem perm_flatMap_set {keepers : List Keeper} {place : Nat} {old : Keeper}
    (there : keepers[place]? = some old) (new : Keeper) :
    ((keepers.set place new).flatMap holds ++ holds old).Perm
      (keepers.flatMap holds ++ holds new) := by
  induction keepers generalizing place with
  | nil => cases there
  | cons keeper rest ih =>
      cases place with
      | zero =>
          cases there
          simp only [List.set_cons_zero, List.flatMap_cons]
          rw [List.perm_iff_count]
          intro resource
          simp only [List.count_append]
          omega
      | succ place =>
          have later := ih there
          simp only [List.set_cons_succ, List.flatMap_cons, List.append_assoc]
          exact later.append_left _

/-- No call uses what an earlier one has released. -/
def UsedBeforeRelease (calls : List Call) : Prop :=
  calls.Pairwise fun later earlier =>
    ∀ resource, uses later = some resource → releases earlier ≠ some resource

/-- Calls that release nothing and use only these resources. -/
def Quiet (allowed : List Nat) (calls : List Call) : Prop :=
  ∀ call ∈ calls, releases call = none ∧
    ∀ resource, uses call = some resource → resource ∈ allowed

/-- The call that releases a resource. -/
def Frees (free : Nat → Call) : Prop :=
  ∀ resource, uses (free resource) = some resource ∧ releases (free resource) = some resource

namespace Estate

def held (estate : Estate Keeper Call) : List Nat := estate.keepers.flatMap holds

def released (estate : Estate Keeper Call) : List Nat := estate.calls.filterMap releases

/-- Every resource has one owner and was not released, or has none and was released once; and
none was used after that. -/
structure InCustody (estate : Estate Keeper Call) : Prop where
  settled : Settled estate.allocated (estate.held holds) (estate.released releases)
  used : UsedBeforeRelease uses releases estate.calls

/-- What can happen to an estate, and which resources are released. -/
inductive Change (estate : Estate Keeper Call) : Estate Keeper Call → List Nat → Prop
  | use (allowed : List Nat) (calls : List Call)
      (owned : ∀ resource ∈ allowed, resource ∈ estate.held holds)
      (quiet : Quiet uses releases allowed calls) :
      Change estate ⟨estate.keepers, estate.allocated, calls ++ estate.calls⟩ []
  | empty (new : Keeper) (nothing : holds new = []) :
      Change estate ⟨estate.keepers ++ [new], estate.allocated, estate.calls⟩ []
  | allocate (new : Keeper) (calls : List Call) (owns : holds new = [estate.allocated])
      (quiet : Quiet uses releases [estate.allocated] calls) :
      Change estate ⟨estate.keepers ++ [new], estate.allocated + 1, calls ++ estate.calls⟩ []
  | discard (place : Nat) (old new : Keeper) (free : Nat → Call)
      (there : estate.keepers[place]? = some old) (nothing : holds new = [])
      (frees : Frees uses releases free) :
      Change estate ⟨estate.keepers.set place new, estate.allocated,
        (holds old).map free ++ estate.calls⟩ (holds old)
  | construct (place : Nat) (old left new : Keeper)
      (there : estate.keepers[place]? = some old) (nothing : holds left = [])
      (takes : holds new = holds old) :
      Change estate ⟨estate.keepers.set place left ++ [new], estate.allocated, estate.calls⟩ []
  | assign (target source : Nat) (this other taker left : Keeper) (free : Nat → Call)
      (different : target ≠ source) (there : estate.keepers[target]? = some this)
      (here : estate.keepers[source]? = some other) (takes : holds taker = holds other)
      (nothing : holds left = []) (frees : Frees uses releases free) :
      Change estate ⟨(estate.keepers.set target taker).set source left, estate.allocated,
        (holds this).map free ++ estate.calls⟩ (holds this)

end Estate

variable {holds uses releases}

/-! ## Logs -/

theorem Quiet.nil (allowed : List Nat) : Quiet uses releases allowed [] :=
  fun _ impossible => (by cases impossible)

theorem Quiet.cons {allowed : List Nat} {call : Call} {calls : List Call}
    (quiet : Quiet uses releases allowed calls) (keeps : releases call = none)
    (known : ∀ resource, uses call = some resource → resource ∈ allowed) :
    Quiet uses releases allowed (call :: calls) :=
  List.forall_mem_cons.mpr ⟨⟨keeps, known⟩, quiet⟩

theorem Quiet.released {allowed : List Nat} {calls : List Call}
    (quiet : Quiet uses releases allowed calls) (earlier : List Call) :
    (calls ++ earlier).filterMap releases = earlier.filterMap releases := by
  have nothing : calls.filterMap releases = [] :=
    List.filterMap_eq_nil_iff.mpr fun call member => (quiet call member).1
  rw [List.filterMap_append, nothing, List.nil_append]

theorem Frees.released {free : Nat → Call} (frees : Frees uses releases free) (gone : List Nat)
    (earlier : List Call) :
    (gone.map free ++ earlier).filterMap releases = gone ++ earlier.filterMap releases := by
  induction gone with
  | nil => rfl
  | cons resource rest ih =>
      rw [List.map_cons, List.cons_append, List.filterMap_cons, (frees resource).2, ih]
      rfl

theorem not_mem_released {calls : List Call} {resource : Nat}
    (fresh : resource ∉ calls.filterMap releases) (call : Call) (member : call ∈ calls) :
    releases call ≠ some resource := by
  intro gone
  exact fresh (List.mem_filterMap.mpr ⟨call, member, gone⟩)

theorem UsedBeforeRelease.quiet {earlier calls : List Call} {allowed : List Nat}
    (used : UsedBeforeRelease uses releases earlier)
    (quiet : Quiet uses releases allowed calls)
    (fresh : ∀ resource ∈ allowed, resource ∉ earlier.filterMap releases) :
    UsedBeforeRelease uses releases (calls ++ earlier) := by
  refine List.pairwise_append.mpr ⟨?_, used, ?_⟩
  · refine List.pairwise_of_forall_mem_list ?_
    intro later _ before member resource _ gone
    rw [(quiet before member).1] at gone
    cases gone
  · intro later member before old resource uses
    exact not_mem_released (fresh resource ((quiet later member).2 resource uses)) before old

theorem UsedBeforeRelease.free {earlier : List Call} {gone : List Nat} {free : Nat → Call}
    (used : UsedBeforeRelease uses releases earlier) (frees : Frees uses releases free)
    (distinct : gone.Nodup) (fresh : ∀ resource ∈ gone, resource ∉ earlier.filterMap releases) :
    UsedBeforeRelease uses releases (gone.map free ++ earlier) := by
  refine List.pairwise_append.mpr ⟨?_, used, ?_⟩
  · refine List.pairwise_map.mpr (distinct.imp ?_)
    intro later before different resource uses gone
    have same := (frees later).1.symm.trans uses
    have also := (frees before).2.symm.trans gone
    exact different (Option.some.inj (same.trans also.symm))
  · intro later member before old resource uses
    obtain ⟨owned, inGone, rfl⟩ := List.mem_map.mp member
    have same : owned = resource := Option.some.inj ((frees owned).1.symm.trans uses)
    subst same
    exact not_mem_released (fresh owned inGone) before old

/-! ## Custody is kept -/

namespace Estate
variable {before after : Estate Keeper Call} {gone : List Nat}

theorem held_append (keepers : List Keeper) (new : Keeper) :
    (keepers ++ [new]).flatMap holds = keepers.flatMap holds ++ holds new := by
  simp [List.flatMap_append]

theorem InCustody.distinct (custody : InCustody holds uses releases before) {rest : List Nat}
    (parts : (before.held holds).Perm (gone ++ rest)) : gone.Nodup := by
  have once : (before.held holds).Nodup := by
    rw [List.nodup_iff_count]
    intro resource
    have total := custody.settled resource
    split at total <;> omega
  exact (List.nodup_append.mp (parts.nodup_iff.mp once)).1

theorem InCustody.release (custody : InCustody holds uses releases before) {free : Nat → Call}
    (frees : Frees uses releases free) (keepers : List Keeper)
    (parts : (before.held holds).Perm (gone ++ keepers.flatMap holds)) :
    InCustody holds uses releases
      ⟨keepers, before.allocated, gone.map free ++ before.calls⟩ := by
  have settled := custody.settled.release gone _ parts
  refine ⟨?_, custody.used.free frees (custody.distinct parts) ?_⟩
  · rw [released, frees.released]
    exact settled
  · intro resource member
    exact custody.settled.not_released (parts.mem_iff.mpr (List.mem_append_left _ member))

theorem Change.custody (change : Change holds uses releases before after gone)
    (custody : InCustody holds uses releases before) :
    InCustody holds uses releases after ∧
      after.released releases = gone ++ before.released releases := by
  cases change with
  | use allowed calls owned quiet =>
      refine ⟨⟨?_, custody.used.quiet quiet ?_⟩, quiet.released before.calls⟩
      · rw [released, quiet.released]
        exact custody.settled
      · exact fun resource member => custody.settled.not_released (owned resource member)
  | empty new nothing =>
      refine ⟨⟨?_, custody.used⟩, rfl⟩
      rw [held, held_append, nothing, List.append_nil]
      exact custody.settled
  | allocate new calls owns quiet =>
      have owned := (custody.settled.allocate_iff 1 0).mpr rfl
      refine ⟨⟨?_, custody.used.quiet quiet ?_⟩, quiet.released before.calls⟩
      · rw [released, quiet.released, held, held_append, owns]
        exact owned.perm List.perm_append_comm
      · intro resource new
        rw [List.mem_singleton.mp new]
        exact fun member => Nat.lt_irrefl _ (custody.settled.lt_of_released member)
  | discard place old new free there nothing frees =>
      have parts := perm_flatMap_set holds there new
      rw [nothing, List.append_nil] at parts
      exact ⟨custody.release frees _ (parts.symm.trans List.perm_append_comm),
        frees.released (holds old) before.calls⟩
  | construct place old left new there nothing takes =>
      have parts := perm_flatMap_set holds there left
      rw [nothing, List.append_nil] at parts
      refine ⟨⟨custody.settled.perm ?_, custody.used⟩, rfl⟩
      rw [held, held_append, takes]
      exact parts
  | assign target source this other taker left free different there here takes nothing frees =>
      have taken := perm_flatMap_set holds there taker
      have unmoved : (before.keepers.set target taker)[source]? = some other := by
        rw [List.getElem?_set_ne different]
        exact here
      have emptied := perm_flatMap_set holds unmoved left
      rw [nothing, List.append_nil] at emptied
      rw [takes] at taken
      -- in between the other's resources have two owners
      have parts : (before.held holds).Perm
          (holds this ++ ((before.keepers.set target taker).set source left).flatMap holds) := by
        rw [List.perm_iff_count]
        intro resource
        have first := taken.count_eq resource
        have second := emptied.count_eq resource
        simp only [List.count_append, held] at first second ⊢
        omega
      exact ⟨custody.release frees _ parts, frees.released (holds this) before.calls⟩

theorem InCustody.count_released (custody : InCustody holds uses releases before)
    (none : before.held holds = []) {resource : Nat} (bound : resource < before.allocated) :
    (before.released releases).count resource = 1 := by
  refine custody.settled.count_released bound ?_
  rw [none]
  exact List.not_mem_nil

end Estate
end Keepers
end VSQLite.Lib
