import Mathlib.Data.List.Induction
import VSQLite.Open.Validation

/-!
# What an opening is sure of before it removes or opens

The exchanges of `connection::open(db, open_mode)` one by one: which check each answer
belongs to and when that check fails, and what was answered before the adapter is asked
to remove a file and before SQLite is asked to open one.
-/

set_option autoImplicit false

namespace VSQLite
open Lib

/-- The exchanges of one opening, the first one first. -/
abbrev Exchanges : Type := List (Program.Exchange OsRequest.Answer)

def OpenMode.requiresExisting (mode : OpenMode) : Bool :=
  mode = .openExisting || mode = .openReadonly

def OsRequest.isPresence : OsRequest → Bool
  | .isPresent _ => true
  | _ => false

def OsRequest.isRemoval : OsRequest → Bool
  | .remove _ => true
  | _ => false

def AskedPresence (past : Exchanges) : Prop := ∃ exchange ∈ past, exchange.1.isPresence = true

def AskedRemoval (past : Exchanges) : Prop := ∃ exchange ∈ past, exchange.1.isRemoval = true

section Exchanges
variable (db : Text) (mode : OpenMode)

def noteStatus (last : Option Entry) : Program.Exchange OsRequest.Answer → Option Entry
  | ⟨.status target, entry⟩ => if target = db then some entry else last
  | _ => last

/-- The most recent status answer for the path. -/
def lastStatus (past : Exchanges) : Option Entry := past.foldl (noteStatus db) none

/-- There is no directory to check, or it was reported as a directory, and no symlink. -/
def ParentReported (past : Exchanges) : Prop :=
  parentPath db = [] ∨
    (⟨.status (parentPath db), ⟨.directory, none⟩⟩ : Program.Exchange OsRequest.Answer) ∈ past

/-- The database was last reported as a regular file or as missing. -/
def PathReported (past : Exchanges) : Prop :=
  ∃ entry, lastStatus db past = some entry ∧ (entry.type = .notFound ∨ entry.type = .regular)

/-- The check that an answer is for fails: the first status is that of the directory, if
there is one, the next that of the database, and one after `exists` that of the file to
remove. -/
def CheckFails (past : Exchanges) : Program.Exchange OsRequest.Answer → Prop
  | ⟨.status _, entry⟩ =>
      (past = [] ∧ parentPath db ≠ [] ∧ entry.noDirectory) ∨
        (¬(past = [] ∧ parentPath db ≠ []) ∧ ¬AskedPresence past ∧
          entry.noDatabase mode.requiresExisting) ∨
        (AskedPresence past ∧ (entry.error.isSome ∨ entry.type ≠ .regular))
  | ⟨.isPresent _, found⟩ =>
      found.2.isSome ∨ (found.1 = false ∧ mode.requiresExisting = true)
  | ⟨.remove _, removed⟩ => removed.1 = false ∨ removed.2.isSome
  | ⟨.openV2 _ _, _⟩ => False

/-- No check has failed. -/
def Clear (past : Exchanges) : Prop :=
  ∀ before exchange after, past = before ++ exchange :: after → ¬CheckFails db mode before exchange

/-- What holds when the adapter is asked to remove a file. -/
structure RemovesSafely (past : Exchanges) (target : Text) : Prop where
  creating : mode = .alwaysCreate
  target_db : target = db
  ordinary : isSpecialDatabase db = false
  first : ¬AskedRemoval past
  regular : lastStatus db past = some ⟨.regular, none⟩
  parent : ParentReported db past

/-- What holds when SQLite is asked to open a file. -/
structure OpensSafely (past : Exchanges) (target : Text) (flags : OpenFlags) : Prop where
  target_db : target = db
  reported : isSpecialDatabase db = false → ParentReported db past ∧ PathReported db past
  create : flags.create = true → mode ≠ .openExisting ∧ mode ≠ .openReadonly
  readwrite : flags.readwrite = true → mode ≠ .openReadonly

def Safe (past : Exchanges) : OsRequest → Prop
  | .remove target => RemovesSafely db mode past target
  | .openV2 target flags => OpensSafely db mode past target flags
  | _ => True

def MayAsk (past : Exchanges) (request : OsRequest) : Prop :=
  Clear db mode past ∧ Safe db mode past request

/-- A program keeps to the rules from what was answered so far. -/
abbrev KeepsSafe {Result : Type} (good : Exchanges → Result → Prop) (program : Os Result)
    (past : Exchanges) : Prop :=
  program.Follows Program.recorded (MayAsk db mode) good past

end Exchanges

section Records
variable (db : Text) (mode : OpenMode) (past : Exchanges)
  (exchange : Program.Exchange OsRequest.Answer)

theorem clear_nil : Clear db mode [] := by
  intro before exchange after split
  exact absurd split (by simp)

theorem clear_snoc (clear : Clear db mode past) (passes : ¬CheckFails db mode past exchange) :
    Clear db mode (past ++ [exchange]) := by
  intro before other after split
  rcases List.eq_nil_or_concat after with rfl | ⟨rest, last, rfl⟩
  · obtain ⟨same, heads⟩ := List.append_inj' split rfl
    cases heads
    rw [← same]
    exact passes
  · have shifted : past ++ [exchange] = (before ++ other :: rest) ++ [last] := by
      simpa using split
    exact clear before other rest (List.append_inj' shifted rfl).1

@[simp] theorem lastStatus_snoc :
    lastStatus db (past ++ [exchange]) = noteStatus db (lastStatus db past) exchange := by
  simp [lastStatus]

theorem lastStatus_status (entry : Entry) :
    lastStatus db (past ++ [⟨.status db, entry⟩]) = some entry := by
  rw [lastStatus_snoc]
  exact if_pos rfl

theorem parentReported_snoc (reported : ParentReported db past) :
    ParentReported db (past ++ [exchange]) :=
  reported.imp id fun seen => List.mem_append_left _ seen

@[simp] theorem askedPresence_snoc :
    AskedPresence (past ++ [exchange]) ↔ AskedPresence past ∨ exchange.1.isPresence = true := by
  simp [AskedPresence, or_and_right, exists_or]

@[simp] theorem askedRemoval_snoc :
    AskedRemoval (past ++ [exchange]) ↔ AskedRemoval past ∨ exchange.1.isRemoval = true := by
  simp [AskedRemoval, or_and_right, exists_or]

end Records

section Follows
variable (db : Text) (mode : OpenMode)

/-- The directory has been checked, and nothing else yet. -/
structure AfterParent (past : Exchanges) : Prop where
  clear : Clear db mode past
  parent : ParentReported db past
  onlyParent : past = [] → parentPath db = []
  noPresence : ¬AskedPresence past
  noRemoval : ¬AskedRemoval past

structure AfterPath (past : Exchanges) : Prop where
  clear : Clear db mode past
  parent : ParentReported db past
  path : PathReported db past
  noRemoval : ¬AskedRemoval past

/-- All that `open_with_flags` is called after. -/
structure BeforeOpen (past : Exchanges) : Prop where
  clear : Clear db mode past
  parent : ParentReported db past
  path : PathReported db past

theorem mayAsk_unharmful {past : Exchanges} {request : OsRequest} (clear : Clear db mode past)
    (harmless : request.isRemoval = false)
    (closed : ∀ target flags, request ≠ .openV2 target flags) : MayAsk db mode past request := by
  refine ⟨clear, ?_⟩
  cases request with
  | status _ => trivial
  | isPresent _ => trivial
  | remove _ => exact absurd harmless (by simp [OsRequest.isRemoval])
  | openV2 target flags => exact absurd rfl (closed target flags)

theorem safe_directory {entry : Entry} (safe : ¬entry.noDirectory) :
    entry = ⟨.directory, none⟩ := by
  obtain ⟨answered, directory⟩ := not_or.mp safe
  cases entry with
  | mk type error =>
      have type_eq : type = .directory := not_not.mp directory
      have error_eq : error = none := Option.not_isSome_iff_eq_none.mp answered
      rw [type_eq, error_eq]

theorem safe_database {required : Bool} {entry : Entry} (safe : ¬entry.noDatabase required) :
    entry.type = .notFound ∨ entry.type = .regular := by
  by_contra other
  exact safe (Or.inr (Or.inr (not_or.mp other)))

theorem ensureParentDirectorySafe_keepsSafe :
    KeepsSafe db mode (fun past (_ : Unit) => AfterParent db mode past)
      (ensureParentDirectorySafe db db) [] := by
  by_cases named : parentPath db = []
  · unfold ensureParentDirectorySafe
    dsimp only
    rw [named]
    exact ⟨clear_nil db mode, Or.inl named, fun _ => named, by simp [AskedPresence],
      by simp [AskedRemoval]⟩
  · obtain ⟨next, shape, passes, throws⟩ := ensureParentDirectorySafe_asks_once db db named
    rw [shape]
    refine ⟨mayAsk_unharmful db mode (clear_nil db mode) rfl (by simp), fun entry => ?_⟩
    by_cases bad : Entry.noDirectory entry
    · obtain ⟨failure, thrown⟩ := throws entry bad
      rw [thrown]
      exact trivial
    · rw [passes entry bad]
      have checked : ¬CheckFails db mode [] ⟨.status (parentPath db), entry⟩ := by
        simp [CheckFails, named, bad, AskedPresence]
      refine ⟨clear_snoc db mode [] _ (clear_nil db mode) checked, Or.inr ?_, ?_, ?_, ?_⟩
      · rw [safe_directory bad]
        exact List.mem_singleton_self _
      · intro empty
        exact absurd empty (by simp [Program.recorded])
      · simp [Program.recorded, AskedPresence, OsRequest.isPresence]
      · simp [Program.recorded, AskedRemoval, OsRequest.isRemoval]

theorem validateEntry_keepsSafe (entry : Entry) (past : Exchanges)
    (before : AfterParent db mode past) :
    KeepsSafe db mode (fun past (_ : Unit) => AfterPath db mode past)
      (validateEntry db mode.requiresExisting entry) (past ++ [⟨.status db, entry⟩]) := by
  by_cases bad : entry.noDatabase mode.requiresExisting
  · obtain ⟨failure, thrown⟩ := validateEntry_refuses db _ entry bad
    rw [thrown]
    exact trivial
  · rw [validateEntry_passes db _ entry bad]
    have checked : ¬CheckFails db mode past ⟨.status db, entry⟩ := by
      rintro (⟨empty, named, -⟩ | ⟨-, -, refused⟩ | ⟨asked, -⟩)
      · exact named (before.onlyParent empty)
      · exact bad refused
      · exact before.noPresence asked
    refine ⟨clear_snoc db mode past _ before.clear checked,
      parentReported_snoc db past _ before.parent,
      ⟨entry, lastStatus_status db past entry, safe_database bad⟩, ?_⟩
    simpa [OsRequest.isRemoval] using before.noRemoval

theorem validateDbPath_keepsSafe (ordinary : isSpecialDatabase db = false) :
    KeepsSafe db mode (fun past (_ : Unit) => AfterPath db mode past)
      (validateDbPath db mode.requiresExisting) [] := by
  unfold validateDbPath
  rw [ordinary, if_neg Bool.false_ne_true]
  split
  · trivial
  · apply Program.follows_bind _ _ (fun past _ => AfterParent db mode past)
    · exact ensureParentDirectorySafe_keepsSafe db mode
    · intro past _ before
      refine ⟨mayAsk_unharmful db mode before.clear rfl (by simp), fun entry => ?_⟩
      exact validateEntry_keepsSafe db mode entry past before

/-- What the mode may ask SQLite for. -/
def ModeAllows (flags : OpenFlags) : Prop :=
  (flags.create = true → mode ≠ .openExisting ∧ mode ≠ .openReadonly) ∧
    (flags.readwrite = true → mode ≠ .openReadonly)

theorem openWithFlags_keepsSafe (flags : OpenFlags) (allowed : ModeAllows mode flags)
    (past : Exchanges) (clear : Clear db mode past)
    (reported : isSpecialDatabase db = false → ParentReported db past ∧ PathReported db past) :
    KeepsSafe db mode (fun past (_ : Option Nat) => Clear db mode past)
      (openWithFlags db flags) past := by
  refine ⟨⟨clear, rfl, reported, allowed.1, allowed.2⟩, fun opened => ?_⟩
  cases opened with
  | ok file => exact clear_snoc db mode past _ clear id
  | error code => trivial

theorem removeExisting_keepsSafe (creating : mode = .alwaysCreate)
    (ordinary : isSpecialDatabase db = false) (past : Exchanges) (before : AfterPath db mode past)
    (asked : AskedPresence past) :
    KeepsSafe db mode (fun past (_ : Unit) => BeforeOpen db mode past)
      (removeExisting db) past := by
  refine ⟨mayAsk_unharmful db mode before.clear rfl (by simp), fun entry => ?_⟩
  simp only [Program.bind]
  split
  · trivial
  · rename_i answered
    split
    · trivial
    · split
      · trivial
      · rename_i plain
        have regular : entry = ⟨.regular, none⟩ := by
          cases entry with
          | mk type error =>
              rw [show type = .regular from not_not.mp plain,
                show error = none from Option.not_isSome_iff_eq_none.mp answered]
        have checked : ¬CheckFails db mode past ⟨.status db, entry⟩ := by
          rintro (⟨empty, -, -⟩ | ⟨-, unasked, -⟩ | ⟨-, failed | other⟩)
          · exact absurd asked (by simp [empty, AskedPresence])
          · exact unasked asked
          · exact answered failed
          · exact plain other
        have rechecked := clear_snoc db mode past _ before.clear checked
        have parent := parentReported_snoc db past ⟨.status db, entry⟩ before.parent
        have last := lastStatus_status db past entry
        refine ⟨⟨rechecked, creating, rfl, ordinary, ?_, ?_, parent⟩, fun removed => ?_⟩
        · simpa [Program.recorded, OsRequest.isRemoval] using before.noRemoval
        · rw [← regular]
          exact last
        · simp only [Program.bind]
          split
          · trivial
          · rename_i succeeded
            have done : ¬CheckFails db mode (past ++ [⟨.status db, entry⟩])
                ⟨.remove db, removed⟩ := by
              simpa [CheckFails] using succeeded
            refine ⟨clear_snoc db mode _ _ rechecked done, parentReported_snoc db _ _ parent,
              entry, ?_, Or.inr (by rw [regular])⟩
            rw [Program.recorded, lastStatus_snoc]
            exact last

theorem openInMode_keepsSafe (followSymlinks present : Bool) (past : Exchanges)
    (ordinary : isSpecialDatabase db = false) (before : AfterPath db mode past)
    (asked : AskedPresence past) :
    KeepsSafe db mode (fun past (_ : Option Nat) => Clear db mode past)
      (openInMode followSymlinks db false present mode) past := by
  have reported : isSpecialDatabase db = false → ParentReported db past ∧ PathReported db past :=
    fun _ => ⟨before.parent, before.path⟩
  cases mode with
  | openReadonly =>
      simp only [openInMode]
      split
      · trivial
      · exact openWithFlags_keepsSafe db _ _ (by simp [ModeAllows, makeOpenFlags]) past
          before.clear reported
  | openExisting =>
      simp only [openInMode]
      split
      · trivial
      · exact openWithFlags_keepsSafe db _ _ (by simp [ModeAllows, makeOpenFlags]) past
          before.clear reported
  | openOrCreate =>
      exact openWithFlags_keepsSafe db _ _ (by simp [ModeAllows]) past before.clear reported
  | alwaysCreate =>
      simp only [openInMode]
      split
      · apply Program.follows_bind _ _ (fun past _ => BeforeOpen db _ past)
        · exact removeExisting_keepsSafe db _ rfl ordinary past before asked
        · intro later _ removed
          exact openWithFlags_keepsSafe db _ _ (by simp [ModeAllows]) later removed.clear
            fun _ => ⟨removed.parent, removed.path⟩
      · exact openWithFlags_keepsSafe db _ _ (by simp [ModeAllows]) past before.clear reported

theorem openInMode_missing (followSymlinks : Bool) (required : mode.requiresExisting = true) :
    ∃ failure, openInMode followSymlinks db false false mode = .throws failure := by
  cases mode with
  | openReadonly => exact ⟨_, rfl⟩
  | openExisting => exact ⟨_, rfl⟩
  | openOrCreate => exact absurd required (by decide)
  | alwaysCreate => exact absurd required (by decide)

theorem openChecked_keepsSafe (followSymlinks : Bool) (found : Bool × Option ErrorCode)
    (past : Exchanges) (ordinary : isSpecialDatabase db = false) (before : AfterPath db mode past) :
    KeepsSafe db mode (fun past (_ : Option Nat) => Clear db mode past)
      (openChecked followSymlinks db mode found) (past ++ [⟨.isPresent db, found⟩]) := by
  unfold openChecked
  split
  · trivial
  · rename_i answered
    by_cases missing : found.1 = false ∧ mode.requiresExisting = true
    · obtain ⟨failure, thrown⟩ := openInMode_missing db mode followSymlinks missing.2
      rw [missing.1, thrown]
      trivial
    · have checked : ¬CheckFails db mode past ⟨.isPresent db, found⟩ :=
        not_or.mpr ⟨answered, missing⟩
      apply openInMode_keepsSafe db mode followSymlinks found.1 _ ordinary
      · refine ⟨clear_snoc db mode past _ before.clear checked,
          parentReported_snoc db past _ before.parent, ?_, ?_⟩
        · obtain ⟨entry, last, plain⟩ := before.path
          exact ⟨entry, by rw [lastStatus_snoc]; exact last, plain⟩
        · simpa [OsRequest.isRemoval] using before.noRemoval
      · simp [OsRequest.isPresence]

theorem openInMode_special (followSymlinks : Bool) (special : isSpecialDatabase db = true) :
    KeepsSafe db mode (fun past (_ : Option Nat) => Clear db mode past)
      (openInMode followSymlinks db true false mode) [] := by
  have unchecked : isSpecialDatabase db = false → ParentReported db [] ∧ PathReported db [] :=
    fun ordinary => absurd (special.symm.trans ordinary) (by decide)
  cases mode with
  | openReadonly =>
      exact openWithFlags_keepsSafe db _ _ (by simp [ModeAllows, makeOpenFlags]) []
        (clear_nil db _) unchecked
  | openExisting =>
      exact openWithFlags_keepsSafe db _ _ (by simp [ModeAllows, makeOpenFlags]) []
        (clear_nil db _) unchecked
  | openOrCreate =>
      exact openWithFlags_keepsSafe db _ _ (by simp [ModeAllows]) [] (clear_nil db _) unchecked
  | alwaysCreate =>
      exact openWithFlags_keepsSafe db _ _ (by simp [ModeAllows]) [] (clear_nil db _) unchecked

theorem connectionOpen_keepsSafe (followSymlinks : Bool) :
    KeepsSafe db mode (fun past (_ : Option Nat) => Clear db mode past)
      (connectionOpen followSymlinks db mode) [] := by
  cases ordinary : isSpecialDatabase db with
  | true =>
      rw [connectionOpen_special followSymlinks db mode ordinary]
      exact openInMode_special db mode followSymlinks ordinary
  | false =>
      rw [connectionOpen_ordinary followSymlinks db mode ordinary]
      apply Program.follows_bind _ _ (fun past _ => AfterPath db mode past)
      · exact validateDbPath_keepsSafe db mode ordinary
      · intro past _ before
        refine ⟨mayAsk_unharmful db mode before.clear rfl (by simp), fun found => ?_⟩
        exact openChecked_keepsSafe db mode followSymlinks found past ordinary before

end Follows

section Runs
variable (followSymlinks : Bool) (oracle : Environment) (db : Text) (mode : OpenMode)

/-- The exchanges of an opening with such answers. -/
def openingTrace : Exchanges := ((connectionOpen followSymlinks db mode).exec oracle []).2

def OpeningFails : Prop :=
  ∃ failure, ((connectionOpen followSymlinks db mode).exec oracle []).1 = .error failure

theorem opening_mayAsk (before after : Exchanges) (exchange : Program.Exchange OsRequest.Answer)
    (happens : openingTrace followSymlinks oracle db mode = before ++ exchange :: after) :
    MayAsk db mode before exchange.1 :=
  Program.exec_recorded_may oracle _ _ _ []
    (connectionOpen_keepsSafe db mode followSymlinks) before after exchange
    (List.nil_prefix) happens

theorem opening_failed_check (before after : Exchanges)
    (exchange : Program.Exchange OsRequest.Answer)
    (happens : openingTrace followSymlinks oracle db mode = before ++ exchange :: after)
    (fails : CheckFails db mode before exchange) :
    after = [] ∧ OpeningFails followSymlinks oracle db mode := by
  constructor
  · cases after with
    | nil => rfl
    | cons next rest =>
        have clear := (opening_mayAsk followSymlinks oracle db mode (before ++ [exchange]) rest next
          (by rw [happens, List.append_assoc]; rfl)).1
        exact absurd fails (clear before exchange [] rfl)
  · cases outcome : ((connectionOpen followSymlinks db mode).exec oracle []).1 with
    | error failure => exact ⟨failure, outcome⟩
    | ok file =>
        have clear := Program.exec_recorded_good oracle _ _ _ []
          (connectionOpen_keepsSafe db mode followSymlinks) file outcome
        exact absurd fails (clear before exchange after happens)

theorem opening_without_name :
    openingTrace followSymlinks oracle [] mode = [] ∧
      OpeningFails followSymlinks oracle [] mode := by
  have refused : (connectionOpen followSymlinks [] mode) =
      .throws (.databaseException (ascii "Database path must not be empty.")) := by
    rw [connectionOpen_ordinary followSymlinks [] mode (by decide)]
    rfl
  unfold openingTrace OpeningFails
  rw [refused]
  exact ⟨rfl, _, rfl⟩

theorem countP_le_one {Item : Type} (counts : Item → Bool) (items : List Item)
    (first : ∀ before item after, items = before ++ item :: after → counts item = true →
      ∀ earlier ∈ before, counts earlier = false) : items.countP counts ≤ 1 := by
  induction items using List.reverseRecOn with
  | nil => exact Nat.zero_le 1
  | append_singleton before item ih =>
      rw [List.countP_append, List.countP_singleton]
      cases counted : counts item with
      | true =>
          have none_before : before.countP counts = 0 :=
            List.countP_eq_zero.mpr fun earlier found => by
              simp [first before item [] rfl counted earlier found]
          rw [none_before]
          decide
      | false =>
          apply ih
          intro earlier other rest split
          exact first earlier other (rest ++ [item]) (by rw [split, List.append_assoc]; rfl)

/-- Whatever the answers, an opening removes at most one file, the database itself, once it
was seen to be regular and its directory safe; it opens no other path than one so checked,
with no more rights than the mode has; and it ends with the first check that fails. -/
theorem connectionOpen_is_safe :
    (db = [] → openingTrace followSymlinks oracle db mode = [] ∧
      OpeningFails followSymlinks oracle db mode) ∧
    (openingTrace followSymlinks oracle db mode).countP
      (fun exchange => exchange.1.isRemoval) ≤ 1 ∧
    ∀ before exchange after, openingTrace followSymlinks oracle db mode =
        before ++ exchange :: after →
      Safe db mode before exchange.1 ∧
        (CheckFails db mode before exchange →
          after = [] ∧ OpeningFails followSymlinks oracle db mode) := by
  refine ⟨?_, countP_le_one _ _ ?_, fun before exchange after happens => ⟨?_, ?_⟩⟩
  · rintro rfl
    exact opening_without_name followSymlinks oracle mode
  · intro before exchange after happens removes earlier found
    obtain ⟨request, answer⟩ := exchange
    have safe := (opening_mayAsk followSymlinks oracle db mode before after _ happens).2
    cases request with
    | remove target =>
        have first := (show RemovesSafely db mode before target from safe).first
        exact Bool.eq_false_iff.mpr fun removed => first ⟨earlier, found, removed⟩
    | status _ => exact absurd removes (by simp [OsRequest.isRemoval])
    | isPresent _ => exact absurd removes (by simp [OsRequest.isRemoval])
    | openV2 _ _ => exact absurd removes (by simp [OsRequest.isRemoval])
  · exact (opening_mayAsk followSymlinks oracle db mode before after exchange happens).2
  · exact opening_failed_check followSymlinks oracle db mode before after exchange happens

end Runs
end VSQLite
