import VSQLite.Command.Model
import VSQLite.Lib.Calls

/-!
# The file system and what a connection asks of it

A node is what a path names, and a regular file is known by its number, which is never
used again.  A request is answered in one piece, and any of them may be refused.
-/

set_option autoImplicit false

namespace VSQLite
open Lib

inductive Node where
  | absent
  | regular (file : Nat)
  | directory
  | symlink (target : Text)
  | other
deriving DecidableEq, Repr

/-- A node whose file, if it is one, has a number up to `fresh`. -/
def Node.upTo (fresh : Nat) : Node → Bool
  | .regular file => file ≤ fresh
  | _ => true

structure FileSystem where
  node : Text → Node
  fresh : Nat
  numbered : ∀ path file, node path = .regular file → file < fresh

def enoent : Nat := 2

def eloop : Nat := 40

/-- The value of a `std::error_code` that is set. -/
abbrev ErrorCode := { code : Nat // code ≠ 0 }

/-- Why a call is refused that would have worked: never because the file is missing. -/
abbrev Refusal := { code : Nat // code ≠ 0 ∧ code ≠ enoent }

def Refusal.error (refusal : Refusal) : ErrorCode := ⟨refusal.1, refusal.2.1⟩

inductive FileType where
  | none
  | notFound
  | regular
  | directory
  | symlink
  | other
deriving DecidableEq, Repr

def Node.fileType : Node → FileType
  | .absent => .notFound
  | .regular _ => .regular
  | .directory => .directory
  | .symlink _ => .symlink
  | .other => .other

/-- `filesystem_entry`. -/
structure Entry where
  type : FileType
  error : Option ErrorCode
deriving DecidableEq, Repr

/-- `std::error_code::value`. -/
def errorValue : Option ErrorCode → Nat
  | none => 0
  | some error => error

structure OpenFlags where
  fullMutex : Bool
  noFollow : Bool
  readonly : Bool
  readwrite : Bool
  create : Bool
deriving DecidableEq, Repr

/-- The two functions of `filesystem_adapter`, `std::filesystem::exists`, and
`sqlite3_open_v2`. -/
inductive OsRequest where
  | status (target : Text)
  | isPresent (target : Text)
  | remove (target : Text)
  | openV2 (db : Text) (flags : OpenFlags)
deriving DecidableEq, Repr

/-- A database that is opened is a file, or private to the connection. -/
def OsRequest.Answer : OsRequest → Type
  | .status _ => Entry
  | .isPresent _ => Bool × Option ErrorCode
  | .remove _ => Bool × Option ErrorCode
  | .openV2 _ _ => Except ResultCode (Option Nat)

namespace FileSystem

def place (path : Text) (node : Node) (files : FileSystem) (known : node.upTo files.fresh = true) :
    FileSystem where
  node := fun other => if other = path then node else files.node other
  fresh := files.fresh + 1
  numbered := by
    intro other file found
    split at found
    · subst found
      simp only [Node.upTo, decide_eq_true_eq] at known
      omega
    · exact Nat.lt_succ_of_lt (files.numbered other file found)

def createFile (path : Text) (files : FileSystem) : FileSystem :=
  files.place path (.regular files.fresh) (by simp [Node.upTo])

def unlink (path : Text) (files : FileSystem) : FileSystem := files.place path .absent rfl

/-- Where a path leads through at most so many symbolic links. -/
def follow (files : FileSystem) : Nat → Text → Option Text
  | 0, _ => none
  | links + 1, path =>
      match files.node path with
      | .symlink target => files.follow links target
      | _ => some path

/-- `symlink_status`: that the file is missing is an error as well as a type. -/
def status (target : Text) (refused : Option Refusal) (files : FileSystem) : Entry :=
  match refused with
  | some refusal => ⟨.none, some refusal.error⟩
  | none =>
      if files.node target = .absent then ⟨.notFound, some ⟨enoent, by decide⟩⟩
      else ⟨(files.node target).fileType, none⟩

/-- `std::filesystem::exists`, which follows symbolic links. -/
def isPresent (target : Text) (refused : Option Refusal) (files : FileSystem) :
    Bool × Option ErrorCode :=
  match refused with
  | some refusal => (false, some refusal.error)
  | none =>
      match files.follow 40 target with
      | none => (false, some ⟨eloop, by decide⟩)
      | some path => (files.node path ≠ .absent, none)

/-- `std::filesystem::remove`. -/
def remove (target : Text) (refused : Option Refusal) (files : FileSystem) :
    FileSystem × (Bool × Option ErrorCode) :=
  match refused with
  | some refusal => (files, false, some refusal.error)
  | none =>
      if files.node target = .absent then (files, false, none)
      else (files.unlink target, true, none)

def cantOpen : ResultCode := .error 14

/-- The file at the end of a path, made if need be. -/
def openFile (path : Text) (flags : OpenFlags) (files : FileSystem) :
    FileSystem × Except ResultCode (Option Nat) :=
  match files.node path with
  | .regular file => (files, .ok (some file))
  | .absent =>
      if flags.create then (files.createFile path, .ok (some files.fresh))
      else (files, .error cantOpen)
  | _ => (files, .error cantOpen)

/-- `sqlite3_open_v2`, which opens the file at once. -/
def openV2 (db : Text) (flags : OpenFlags) (refused : Option Refusal) (files : FileSystem) :
    FileSystem × Except ResultCode (Option Nat) :=
  match refused with
  | some refusal => (files, .error (.error refusal.1))
  | none =>
      if db = ascii ":memory:" then (files, .ok none)
      else if flags.noFollow then files.openFile db flags
      else
        match files.follow 40 db with
        | none => (files, .error cantOpen)
        | some path => files.openFile path flags

def perform (request : OsRequest) (refused : Option Refusal) (files : FileSystem) :
    FileSystem × request.Answer :=
  match request with
  | .status target => (files, files.status target refused)
  | .isPresent target => (files, files.isPresent target refused)
  | .remove target => files.remove target refused
  | .openV2 db flags => files.openV2 db flags refused

end FileSystem
end VSQLite
