import VSQLite.Sqlite.Lexer
import VSQLite.Transaction.Savepoints

/-!
# The names of savepoints

A savepoint object puts its name into its three statements as it is.  SQLite reads the
tokens of a text up to the first semicolon, and takes a word that is not reserved, a quoted
identifier or a string literal for a name; two names that differ only in case are one.
-/

set_option autoImplicit false

namespace VSQLite
open Lib

section Names
variable (reserved : Text → Bool)

/-- The name that the token is, folded to one case. -/
def Token.savepointName : Token → Option Text
  | .word text => if reserved (foldCase text) then none else some (foldCase text)
  | .identifier name => some (foldCase name)
  | .literal value => some (foldCase value)
  | _ => none

def soleName : List Token → Option Text
  | [token] => token.savepointName reserved
  | _ => none

/-- The name in what stands at the end of a statement. -/
def readSavepointName (name : Text) : Option Text :=
  soleName reserved (statementTokens (32 :: name))

/-! ## The statements as SQLite reads them -/

def dropKeywords : List Text → List Token → Option (List Token)
  | [], tokens => some tokens
  | keyword :: keywords, .word text :: tokens =>
      if foldCase text = keyword then dropKeywords keywords tokens else none
  | _ :: _, _ => none

/-- The statements about savepoints, with all their keywords. -/
def parseSavepointSql (sql : Text) : Option TransactionSql :=
  match dropKeywords [ascii "ROLLBACK", ascii "TRANSACTION", ascii "TO", ascii "SAVEPOINT"]
        (statementTokens sql),
      dropKeywords [ascii "RELEASE", ascii "SAVEPOINT"] (statementTokens sql),
      dropKeywords [ascii "SAVEPOINT"] (statementTokens sql) with
  | some rest, _, _ => (soleName reserved rest).map .rollbackTo
  | none, some rest, _ => (soleName reserved rest).map .release
  | none, none, some rest => (soleName reserved rest).map .savepoint
  | none, none, none => none

end Names

theorem statementTokens_word (word rest : Text) (plain : isWord word = true) :
    statementTokens (word ++ 32 :: rest) = .word word :: statementTokens (32 :: rest) := by
  have kept : cString (32 :: rest) = 32 :: cString rest := rfl
  unfold statementTokens
  rw [cString_append word _ (isWord_clean word plain), kept,
    tokens_word word _ plain fun byte head => by cases head; rfl,
    List.takeWhile_cons_of_pos (by simp)]

theorem statementTokens_space (rest : Text) (solid : rest.head?.any isSpace = false) :
    statementTokens (32 :: rest) = statementTokens rest := by
  have kept : cString (32 :: rest) = 32 :: cString rest := rfl
  unfold statementTokens
  rw [kept, tokens_space]
  intro byte head
  rw [cString_head rest byte head] at solid
  exact solid

theorem statementTokens_keyword (word rest : Text) (plain : isWord word = true)
    (solid : rest.head?.any isSpace = false) :
    statementTokens (word ++ 32 :: rest) = .word word :: statementTokens rest := by
  rw [statementTokens_word word rest plain, statementTokens_space rest solid]

section Statements
variable (reserved : Text → Bool)

theorem parse_savepoint (name : Text) :
    parseSavepointSql reserved (ascii "SAVEPOINT " ++ name) =
      (readSavepointName reserved name).map .savepoint := by
  have read : statementTokens (ascii "SAVEPOINT " ++ name) =
      .word (ascii "SAVEPOINT") :: statementTokens (32 :: name) :=
    statementTokens_word (ascii "SAVEPOINT") name rfl
  unfold parseSavepointSql
  rw [read]
  rfl

theorem parse_release (name : Text) :
    parseSavepointSql reserved (ascii "RELEASE SAVEPOINT " ++ name) =
      (readSavepointName reserved name).map .release := by
  have read : statementTokens (ascii "RELEASE SAVEPOINT " ++ name) =
      .word (ascii "RELEASE") :: .word (ascii "SAVEPOINT") :: statementTokens (32 :: name) := by
    rw [← statementTokens_word (ascii "SAVEPOINT") name rfl]
    exact statementTokens_keyword (ascii "RELEASE") _ rfl rfl
  unfold parseSavepointSql
  rw [read]
  rfl

theorem parse_rollbackTo (name : Text) :
    parseSavepointSql reserved (ascii "ROLLBACK TRANSACTION TO SAVEPOINT " ++ name) =
      (readSavepointName reserved name).map .rollbackTo := by
  have read : statementTokens (ascii "ROLLBACK TRANSACTION TO SAVEPOINT " ++ name) =
      .word (ascii "ROLLBACK") :: .word (ascii "TRANSACTION") :: .word (ascii "TO") ::
        .word (ascii "SAVEPOINT") :: statementTokens (32 :: name) := by
    rw [← statementTokens_word (ascii "SAVEPOINT") name rfl,
      ← statementTokens_keyword (ascii "TO") _ rfl rfl,
      ← statementTokens_keyword (ascii "TRANSACTION") _ rfl rfl]
    exact statementTokens_keyword (ascii "ROLLBACK") _ rfl rfl
  unfold parseSavepointSql
  rw [read]
  rfl

end Statements

/-! ## A name is read as it is only if it is a word -/

section Lengths
variable (reserved : Text → Bool)

/-- The value of a name is shorter than the text it is read from, which has the quotes as well,
unless the text is one word. -/
theorem scan_name (byte : UInt8) (rest value : Text) (token : Token)
    (scanned : (scan byte rest).1 = some token)
    (named : token.savepointName reserved = some value) :
    value.length < (byte :: rest).length ∨
      isWord (byte :: rest) = true ∧ value = foldCase (byte :: rest) := by
  rcases scan_token_cases byte rest token scanned with
    rfl | ⟨symbol, rfl⟩ | ⟨inner, after, read, either⟩ | rfl | ⟨starts, unmarked, rfl⟩
  · cases named
  · cases named
  · have shorter := unquote_length read
    have same : value = foldCase inner := by
      rcases either with rfl | rfl
      · cases named
        rfl
      · cases named
        rfl
    rw [same, foldCase, List.length_map, List.length_cons]
    omega
  · cases named
    have shorter : (rest.takeWhile (· != 93)).length ≤ rest.length :=
      (List.takeWhile_prefix _).length_le
    rw [foldCase, List.length_map, List.length_cons]
    omega
  · have within := List.takeWhile_prefix (l := rest) isIdChar
    have same : value = foldCase (byte :: rest.takeWhile isIdChar) :=
      (Option.some.inj (Option.ite_none_left_eq_some.mp named).2).symm
    rcases Nat.lt_or_eq_of_le within.length_le with shorter | whole
    · left
      rw [same, foldCase, List.length_map, List.length_cons, List.length_cons]
      omega
    · right
      have all := within.eq_of_length whole
      have inside : rest.all isIdChar = true := by
        rw [← all]
        exact List.all_takeWhile
      have mark : (byte == 239 && [187, 191].isPrefixOf rest) = false := by
        rw [Bool.eq_false_iff, ne_eq, Bool.and_eq_true, beq_iff_eq]
        exact unmarked
      rw [all] at same
      refine ⟨?_, same⟩
      rw [isWord, starts, inside, mark]
      rfl

theorem tokens_name (text value : Text) (token : Token) (member : token ∈ tokens text)
    (named : token.savepointName reserved = some value) :
    value.length < text.length ∨ isWord text = true ∧ value = foldCase text := by
  induction length : text.length using Nat.strongRecOn generalizing text with
  | ind size ih =>
      cases text with
      | nil => cases member
      | cons byte rest =>
          rw [tokens_cons, List.mem_append, Option.mem_toList] at member
          rcases member with first | later
          · rw [← length]
            exact scan_name reserved byte rest value token first named
          · have shorter := scan_length byte rest
            rw [List.length_cons] at length
            rcases ih _ (by omega) (scan byte rest).2 later rfl with less | ⟨_, same⟩
            · exact Or.inl (by omega)
            · left
              rw [same, foldCase, List.length_map]
              omega

theorem soleName_eq_some (list : List Token) (value : Text)
    (read : soleName reserved list = some value) :
    ∃ token, list = [token] ∧ token.savepointName reserved = some value := by
  unfold soleName at read
  split at read
  · exact ⟨_, rfl, read⟩
  · cases read

theorem isWord_solid (word : Text) (plain : isWord word = true) :
    word.head?.any isSpace = false := by
  cases word with
  | nil => cases plain
  | cons byte word =>
      simp only [isWord, Bool.and_eq_true] at plain
      have starts := plain.1.1
      rw [List.head?_cons, Option.any_some, Bool.eq_false_iff]
      intro space
      simp only [startsWord, isAlpha, isSpace, Bool.or_eq_true, Bool.and_eq_true,
        decide_eq_true_eq, beq_iff_eq, UInt8.le_iff_toNat_le, ← UInt8.toNat_inj,
        UInt8.reduceToNat] at starts space
      omega

theorem readSavepointName_word (name : Text) (plain : isWord name = true) :
    readSavepointName reserved name =
      if reserved (foldCase name) then none else some (foldCase name) := by
  have sole : tokens (cString name) = [.word name] := by
    have clean : cString (name ++ []) = name ++ [] :=
      cString_append name [] (isWord_clean name plain)
    have read := tokens_word name [] plain fun byte head => by cases head
    rwa [← clean, List.append_nil] at read
  unfold readSavepointName
  rw [statementTokens_space name (isWord_solid name plain), statementTokens, sole,
    List.takeWhile_cons_of_pos (by simp)]
  rfl

theorem readSavepointName_itself (name : Text)
    (read : readSavepointName reserved name = some (foldCase name)) : isWord name = true := by
  obtain ⟨token, sole, named⟩ := soleName_eq_some reserved _ _ read
  have skipped : tokens (cString (32 :: name)) = tokens ((cString name).dropWhile isSpace) :=
    tokens_cons 32 (cString name)
  have member : token ∈ tokens ((cString name).dropWhile isSpace) := by
    rw [← skipped]
    have taken : token ∈ statementTokens (32 :: name) := sole ▸ List.mem_cons_self
    exact (List.takeWhile_prefix _).subset taken
  have dropped := List.dropWhile_suffix (l := cString name) isSpace
  have cut : cString name <+: name := List.takeWhile_prefix _
  have dropped_length := dropped.length_le
  have cut_length := cut.length_le
  have size : (foldCase name).length = name.length := List.length_map _
  rcases tokens_name reserved _ _ token member named with shorter | ⟨plain, same⟩
  · omega
  · have whole : ((cString name).dropWhile isSpace).length = name.length := by
      rw [← size, same, foldCase, List.length_map]
    rwa [dropped.eq_of_length (by omega), cut.eq_of_length (by omega)] at plain

end Lengths

/-! ## What an object's statements name -/

section Objects
variable (reserved : Text → Bool)

/-- The last statement issued from the one state to the other is this one. -/
def Issues {Data : Type} (statement : TransactionSql) (before after : Database Data) : Prop :=
  ∃ sql, after.issued = sql :: before.issued ∧ parseSavepointSql reserved sql = some statement

/-- The constructor throws, or opens a savepoint with the name of the object, and what the
object issues then is about savepoints of that name. -/
def NamesItself (name : Text) : Prop :=
  ∀ (Data : Type) (verdict : Verdict) (db after : Database Data) (savepoint : Savepoint),
    Savepoint.construct (readSavepointName reserved) name verdict db = (after, .ok savepoint) →
    savepoint.name = name ∧
    Issues reserved (.savepoint (foldCase name)) db after ∧
    (∃ mark, after.marks = mark :: db.marks ∧ mark.name = foldCase name) ∧
    ∀ (verdict : Verdict) (later : Database Data),
      Issues reserved (.release (foldCase name)) later
        (savepoint.release (readSavepointName reserved) verdict later).1 ∧
      Issues reserved (.rollbackTo (foldCase name)) later
        (savepoint.rollback (readSavepointName reserved) verdict later).1

/-- The two names can both be given to a savepoint, and it is the same for SQLite. -/
def SameSavepoint (name other : Text) : Prop :=
  ∃ folded, readSavepointName reserved name = some folded ∧
    readSavepointName reserved other = some folded

/-- SQLite accepts the name for what it is, or refuses it. -/
def PlainOrRefused (name : Text) : Prop :=
  isWord name = true ∨ readSavepointName reserved name = none

theorem PlainOrRefused.folded {name folded : Text} (plain : PlainOrRefused reserved name)
    (found : readSavepointName reserved name = some folded) : folded = foldCase name := by
  rcases plain with word | refused
  · rw [readSavepointName_word reserved name word] at found
    exact (Option.some.inj (Option.ite_none_left_eq_some.mp found).2).symm
  · cases found.symm.trans refused

theorem construct_fst_issued {Data : Type} (readName : Text → Option Text) (name : Text)
    (verdict : Verdict) (db : Database Data) :
    (Savepoint.construct readName name verdict db).1.issued =
      (ascii "SAVEPOINT " ++ name) :: db.issued := by
  have issued := executeSql_issued readName verdict (ascii "SAVEPOINT " ++ name) db
  unfold Savepoint.construct
  split
  · rename_i after thrown result
    rwa [result] at issued
  · rename_i after result
    rwa [result] at issued

theorem release_fst_issued {Data : Type} (readName : Text → Option Text) (verdict : Verdict)
    (db : Database Data) (savepoint : Savepoint) :
    (savepoint.release readName verdict db).1.issued =
      (ascii "RELEASE SAVEPOINT " ++ savepoint.name) :: db.issued := by
  have issued := executeSql_issued readName verdict
    (ascii "RELEASE SAVEPOINT " ++ savepoint.name) db
  unfold Savepoint.release
  split
  · rename_i after thrown result
    rwa [result] at issued
  · rename_i after result
    rwa [result] at issued

theorem namesItself_iff (name : Text) :
    NamesItself reserved name ↔ PlainOrRefused reserved name := by
  constructor
  · intro itself
    cases read : readSavepointName reserved name with
    | none => exact Or.inr read
    | some folded =>
        left
        let db : Database Unit := ⟨(), none, []⟩
        rcases Savepoint.construct_cases (readSavepointName reserved) name .proceeds db with
          ⟨opened, after, found, _, made, _, _, pushed⟩ | ⟨thrown, after, refused, _⟩
        · obtain ⟨_, _, ⟨mark, marks, named⟩, _⟩ := itself Unit .proceeds db after _ made
          cases pushed.symm.trans marks
          have same : opened = foldCase name := named
          rw [same] at found
          exact readSavepointName_itself reserved name found
        · cases read.symm.trans (refused rfl)
  · intro plain Data verdict db after savepoint made
    rcases Savepoint.construct_cases (readSavepointName reserved) name verdict db with
      ⟨folded, entered, found, _, result, _, _, pushed⟩ | ⟨thrown, entered, _, _, result⟩
    · cases result.symm.trans made
      have same := plain.folded reserved found
      subst same
      refine ⟨rfl, ⟨ascii "SAVEPOINT " ++ name, ?_, ?_⟩, ⟨_, pushed, rfl⟩,
        fun again later => ⟨?_, ?_⟩⟩
      · have issued := construct_fst_issued (readSavepointName reserved) name verdict db
        rwa [result] at issued
      · rw [parse_savepoint, found]
        rfl
      · refine ⟨ascii "RELEASE SAVEPOINT " ++ name, ?_, ?_⟩
        · exact release_fst_issued (readSavepointName reserved) again later ⟨name, true⟩
        · rw [parse_release, found]
          rfl
      · refine ⟨ascii "ROLLBACK TRANSACTION TO SAVEPOINT " ++ name, ?_, ?_⟩
        · exact executeSql_issued (readSavepointName reserved) again _ later
        · rw [parse_rollbackTo, found]
          rfl
    · cases result.symm.trans made

/-- Two names that both name what they say, and name the same savepoint only if they differ in
nothing but case: each is one plain word, or SQLite refuses it. -/
theorem savepoints_named_iff (name other : Text) :
    (NamesItself reserved name ∧ NamesItself reserved other ∧
      (SameSavepoint reserved name other → foldCase name = foldCase other)) ↔
      PlainOrRefused reserved name ∧ PlainOrRefused reserved other := by
  rw [namesItself_iff, namesItself_iff]
  refine ⟨fun ⟨first, second, _⟩ => ⟨first, second⟩, fun ⟨first, second⟩ => ⟨first, second, ?_⟩⟩
  rintro ⟨folded, read, readOther⟩
  exact (first.folded reserved read).symm.trans (second.folded reserved readOther)

end Objects

/-- `savepoint(con, "a;b")` opens the savepoint `a`, which `savepoint(con, "a")` opens as well. -/
theorem semicolon_ends_savepoint_name :
    ¬(NamesItself (fun _ => false) (ascii "a;b") ∧ NamesItself (fun _ => false) (ascii "a") ∧
      (SameSavepoint (fun _ => false) (ascii "a;b") (ascii "a") →
        foldCase (ascii "a;b") = foldCase (ascii "a"))) := by
  rintro ⟨_, _, apart⟩
  have same := apart ⟨ascii "A", by decide, by decide⟩
  revert same
  decide

end VSQLite
