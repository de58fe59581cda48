import VSQLite.Open.Model
import VSQLite.Sqlite.Lexer

/-!
# Names in statements

The statements in which the wrapper quotes a name: `ATTACH`, `DETACH`, `CREATE VIEW` and
`DROP VIEW`.  SQLite reads each name as it was given.  At a NUL its text ends, and with it
the name, which is then not closed.
-/

set_option autoImplicit false

namespace VSQLite
open Lib

/-- `quote_identifier`, the same in `connection.cpp` and in `view.cpp`. -/
def quoteIdentifier (identifier : Text) : Text := 34 :: double 34 identifier ++ [34]

def schemaPrefix (database : Text) : Text :=
  if database.isEmpty then [] else quoteIdentifier database ++ ascii "."

def attachSql (aliasName : Text) : Text :=
  ascii "ATTACH DATABASE ? AS " ++ (quoteIdentifier aliasName ++ ascii ";")

def detachSql (aliasName : Text) : Text :=
  ascii "DETACH DATABASE " ++ (quoteIdentifier aliasName ++ ascii ";")

def createViewSql (temporary : Bool) (qualifier aliasName sqlQuery : Text) : Text :=
  ascii "CREATE " ++ ((if temporary then ascii "TEMPORARY " else []) ++ (ascii "VIEW " ++
    (qualifier ++ (quoteIdentifier aliasName ++ (ascii " AS " ++ (sqlQuery ++ ascii ";"))))))

def dropViewSql (qualifier aliasName : Text) : Text :=
  ascii "DROP VIEW " ++ (qualifier ++ (quoteIdentifier aliasName ++ ascii ";"))

/-- The calls; a view is named with its database or without one. -/
inductive IdentifierCall where
  | attach (db aliasName : Text)
  | detach (aliasName : Text)
  | createView (temporary : Bool) (database : Option Text) (aliasName sqlQuery : Text)
  | dropView (database : Option Text) (aliasName : Text)
deriving DecidableEq, Repr

namespace IdentifierCall

def requireAlias (aliasName sql : Text) : Os Text :=
  if aliasName.isEmpty then .throws (.databaseException (ascii "View alias must not be empty."))
  else .returns sql

/-- What the call has SQLite compile on an open connection, if it does not throw before. -/
def handed : IdentifierCall → Os Text
  | .attach db aliasName =>
      if aliasName.isEmpty then
        .throws (.databaseException (ascii "Database alias must not be empty."))
      else do
        validateDbPath db false
        .returns (attachSql aliasName)
  | .detach aliasName =>
      if aliasName.isEmpty then
        .throws (.databaseException (ascii "Database alias must not be empty."))
      else .returns (detachSql aliasName)
  | .createView temporary (some database) aliasName sqlQuery =>
      if database.isEmpty then
        .throws (.databaseException
          (ascii "Database name must not be empty when creating a qualified view."))
      else
        requireAlias aliasName (createViewSql temporary (schemaPrefix database) aliasName sqlQuery)
  | .createView temporary none aliasName sqlQuery =>
      requireAlias aliasName (createViewSql temporary [] aliasName sqlQuery)
  | .dropView (some database) aliasName =>
      if database.isEmpty then
        .throws (.databaseException
          (ascii "Database name must not be empty when dropping a qualified view."))
      else requireAlias aliasName (dropViewSql (schemaPrefix database) aliasName)
  | .dropView none aliasName => requireAlias aliasName (dropViewSql [] aliasName)

/-- What else the call looks at first. -/
def checks : IdentifierCall → Os Unit
  | .attach db _ => validateDbPath db false
  | _ => .returns ()

def qualifier (database : Option Text) : Text := (database.map schemaPrefix).getD []

def text : IdentifierCall → Text
  | .attach _ aliasName => attachSql aliasName
  | .detach aliasName => detachSql aliasName
  | .createView temporary database aliasName sqlQuery =>
      createViewSql temporary (qualifier database) aliasName sqlQuery
  | .dropView database aliasName => dropViewSql (qualifier database) aliasName

def names : IdentifierCall → List Text
  | .attach _ aliasName => [aliasName]
  | .detach aliasName => [aliasName]
  | .createView _ database aliasName _ => database.toList ++ [aliasName]
  | .dropView database aliasName => database.toList ++ [aliasName]

def qualified (database : Option Text) (aliasName : Text) : List Token :=
  (database.toList.flatMap fun name => [.identifier name, .symbol 46]) ++ [.identifier aliasName]

def intended : IdentifierCall → List Token
  | .attach _ aliasName =>
      [.word (ascii "ATTACH"), .word (ascii "DATABASE"), .symbol 63, .word (ascii "AS"),
        .identifier aliasName, .symbol 59]
  | .detach aliasName =>
      [.word (ascii "DETACH"), .word (ascii "DATABASE"), .identifier aliasName, .symbol 59]
  | .createView temporary database aliasName _ =>
      .word (ascii "CREATE") :: (if temporary then [.word (ascii "TEMPORARY")] else []) ++
        .word (ascii "VIEW") :: qualified database aliasName ++ [.word (ascii "AS")]
  | .dropView database aliasName =>
      .word (ascii "DROP") :: .word (ascii "VIEW") :: qualified database aliasName ++ [.symbol 59]

def rest : IdentifierCall → Text
  | .createView _ _ _ sqlQuery => ascii " " ++ (sqlQuery ++ ascii ";")
  | _ => []

end IdentifierCall

/-! ## Token after token -/

/-- Up to the rest the text has these tokens, unless a NUL in a name cuts the text off: then
those before a name with one, and an identifier that does not end. -/
structure Lexes (text : Text) (expected : List Token) (rest : Text) : Prop where
  clean : (∀ name, .identifier name ∈ expected → 0 ∉ name) →
    tokens (cString text) = expected ++ tokens (cString rest)
  cut : ∀ name, .identifier name ∈ expected → 0 ∈ name →
    ∃ before cutName after, expected = before ++ .identifier cutName :: after ∧ 0 ∈ cutName ∧
      tokens (cString text) = before ++ [.illegal]

namespace Lexes
variable {text rest : Text} {expected : List Token}

theorem done (rest : Text) : Lexes rest [] rest :=
  ⟨fun _ => rfl, fun _ member => by cases member⟩

theorem before (token : Token) (front : Text) (whole : ∀ name, token = .identifier name → 0 ∉ name)
    (first : tokens (cString (front ++ text)) = token :: tokens (cString text))
    (lexed : Lexes text expected rest) : Lexes (front ++ text) (token :: expected) rest := by
  constructor
  · intro names
    rw [first, lexed.clean fun name member => names name (List.mem_cons_of_mem _ member)]
    rfl
  · intro name member nul
    have later := (List.mem_cons.mp member).resolve_left fun same => whole name same.symm nul
    obtain ⟨earlier, cutName, after, split, cutNul, read⟩ := lexed.cut name later nul
    exact ⟨token :: earlier, cutName, after, by rw [split]; rfl, cutNul, by rw [first, read]; rfl⟩

theorem space (solid : text.head?.any isSpace = false) (lexed : Lexes text expected rest) :
    Lexes (ascii " " ++ text) expected rest := by
  have same : tokens (cString (ascii " " ++ text)) = tokens (cString text) := by
    refine tokens_space _ fun byte head => ?_
    rw [cString_head text byte head] at solid
    exact solid
  exact ⟨same.symm ▸ lexed.clean, same.symm ▸ lexed.cut⟩

theorem word (word : Text) (plain : isWord word = true)
    (ends : text.head?.any isIdChar = false) (lexed : Lexes text expected rest) :
    Lexes (word ++ text) (.word word :: expected) rest := by
  refine before (.word word) word (fun _ same => by cases same) ?_ lexed
  rw [cString_append word _ (isWord_clean word plain)]
  refine tokens_word word _ plain fun byte head => ?_
  rw [cString_head text byte head] at ends
  exact ends

theorem keyword (word : Text) (plain : isWord word = true)
    (solid : text.head?.any isSpace = false) (lexed : Lexes text expected rest) :
    Lexes (word ++ (ascii " " ++ text)) (.word word :: expected) rest :=
  (lexed.space solid).word word plain rfl

theorem symbol (byte : UInt8) (nonzero : byte ≠ 0)
    (itself : ∀ rest, scan byte rest = (some (.symbol byte), rest))
    (lexed : Lexes text expected rest) :
    Lexes ([byte] ++ text) (.symbol byte :: expected) rest := by
  refine before (.symbol byte) [byte] (fun _ same => by cases same) ?_ lexed
  rw [cString_append [byte] text (by simpa using nonzero.symm)]
  exact tokens_symbol byte _ (itself _)

theorem name (name : Text) (closed : text.head? ≠ some 34) (lexed : Lexes text expected rest) :
    Lexes (quoteIdentifier name ++ text) (.identifier name :: expected) rest := by
  have quoted : quoteIdentifier name ++ text = (34 :: double 34 name) ++ ([34] ++ text) := by
    simp [quoteIdentifier]
  by_cases nul : 0 ∈ name
  · have opened : cString (34 :: double 34 name) = 34 :: double 34 (cString name) :=
      congrArg (34 :: ·) (takeWhile_double (· ≠ 0) rfl name)
    have cutOff : tokens (cString (quoteIdentifier name ++ text)) = [.illegal] := by
      rw [quoted, cString_append_nul _ _ (List.mem_cons_of_mem _ (mem_double_iff.mpr nul)), opened,
        tokens_unterminated]
    refine ⟨fun names => absurd nul (names name List.mem_cons_self), fun _ _ _ => ?_⟩
    exact ⟨[], name, expected, rfl, nul, cutOff⟩
  · refine before (.identifier name) (quoteIdentifier name) ?_ ?_ lexed
    · rintro _ ⟨⟩
      exact nul
    · have clean : 0 ∉ 34 :: double 34 name := by simp [mem_double_iff, nul]
      rw [quoted, cString_append _ _ clean, cString_append [34] text (by simp)]
      exact tokens_quoted name _ fun head => closed (cString_head text 34 head)

theorem qualified (database : Option Text) (aliasName : Text)
    (named : ∀ name, database = some name → name ≠ []) (closed : text.head? ≠ some 34)
    (lexed : Lexes text expected rest) :
    Lexes (IdentifierCall.qualifier database ++ (quoteIdentifier aliasName ++ text))
      (IdentifierCall.qualified database aliasName ++ expected) rest := by
  have unqualified := lexed.name aliasName closed
  cases database with
  | none => exact unqualified
  | some database =>
      have written : IdentifierCall.qualifier (some database) =
          quoteIdentifier database ++ ascii "." :=
        if_neg (by simpa using named database rfl)
      have dotted := unqualified.symbol 46 (by decide) fun _ => rfl
      rw [written, List.append_assoc]
      exact dotted.name database fun same => by cases same

end Lexes

namespace IdentifierCall

theorem qualifier_head (database : Option Text) (aliasName rest : Text) :
    (qualifier database ++ (quoteIdentifier aliasName ++ rest)).head? = some 34 := by
  cases database with
  | none => rfl
  | some database =>
      unfold qualifier
      rw [Option.map_some, Option.getD_some, schemaPrefix]
      split <;> rfl

theorem lexes (call : IdentifierCall) (named : ∀ name ∈ call.names, name ≠ []) :
    Lexes call.text call.intended call.rest := by
  have semicolon : Lexes (ascii ";") [.symbol 59] [] :=
    (Lexes.done []).symbol 59 (by decide) fun _ => rfl
  cases call with
  | attach db aliasName =>
      have asName := (semicolon.name aliasName (by decide)).keyword (ascii "AS") rfl rfl
      have parameter := (asName.space rfl).symbol 63 (by decide) fun _ => rfl
      exact (parameter.keyword (ascii "DATABASE") rfl rfl).keyword (ascii "ATTACH") rfl rfl
  | detach aliasName =>
      have database := (semicolon.name aliasName (by decide)).keyword (ascii "DATABASE") rfl rfl
      exact database.keyword (ascii "DETACH") rfl rfl
  | createView temporary database aliasName sqlQuery =>
      have definition := (Lexes.done (ascii " " ++ (sqlQuery ++ ascii ";"))).word (ascii "AS") rfl
        rfl
      have view := ((definition.space rfl).qualified database aliasName
        (fun name given => named name (by simp [names, given]))
        (fun same => by cases same)).keyword (ascii "VIEW") rfl (by rw [qualifier_head]; rfl)
      cases temporary with
      | false => exact view.keyword (ascii "CREATE") rfl rfl
      | true => exact (view.keyword (ascii "TEMPORARY") rfl rfl).keyword (ascii "CREATE") rfl rfl
  | dropView database aliasName =>
      have view := (semicolon.qualified database aliasName
        (fun name given => named name (by simp [names, given]))
        (by decide)).keyword (ascii "VIEW") rfl (by rw [qualifier_head]; rfl)
      exact view.keyword (ascii "DROP") rfl rfl

theorem mem_names_iff (call : IdentifierCall) (name : Text) :
    .identifier name ∈ call.intended ↔ name ∈ call.names := by
  cases call with
  | attach db aliasName => simp [intended, names]
  | detach aliasName => simp [intended, names]
  | createView temporary database aliasName sqlQuery =>
      cases temporary <;> cases database <;> simp [intended, names, qualified]
  | dropView database aliasName =>
      cases database <;> simp [intended, names, qualified]

theorem handed_eq (call : IdentifierCall) (named : ∀ name ∈ call.names, name ≠ []) :
    call.handed = call.checks >>= fun _ => .returns call.text := by
  have filled (name : Text) (given : name ∈ call.names) : ¬name.isEmpty = true := by
    simpa using named name given
  cases call with
  | attach db aliasName => exact if_neg (filled aliasName (by simp [names]))
  | detach aliasName => exact if_neg (filled aliasName (by simp [names]))
  | createView temporary database aliasName sqlQuery =>
      have hasAlias := filled aliasName (by simp [names])
      cases database with
      | none => exact if_neg hasAlias
      | some database =>
          have qualifies := filled database (by simp [names])
          exact (if_neg qualifies).trans (if_neg hasAlias)
  | dropView database aliasName =>
      have hasAlias := filled aliasName (by simp [names])
      cases database with
      | none => exact if_neg hasAlias
      | some database =>
          have qualifies := filled database (by simp [names])
          exact (if_neg qualifies).trans (if_neg hasAlias)

/-- An empty name keeps the call from handing anything over. -/
theorem handed_of_empty (call : IdentifierCall) (empty : [] ∈ call.names) :
    ∃ what, call.handed = .throws (.databaseException what) := by
  cases call with
  | attach db aliasName =>
      obtain rfl : [] = aliasName := by simpa [names] using empty
      exact ⟨_, rfl⟩
  | detach aliasName =>
      obtain rfl : [] = aliasName := by simpa [names] using empty
      exact ⟨_, rfl⟩
  | createView temporary database aliasName sqlQuery =>
      cases database with
      | none =>
          obtain rfl : [] = aliasName := by simpa [names] using empty
          exact ⟨_, rfl⟩
      | some database =>
          cases database with
          | nil => exact ⟨_, rfl⟩
          | cons byte database =>
              obtain rfl : [] = aliasName := by simpa [names] using empty
              exact ⟨_, rfl⟩
  | dropView database aliasName =>
      cases database with
      | none =>
          obtain rfl : [] = aliasName := by simpa [names] using empty
          exact ⟨_, rfl⟩
      | some database =>
          cases database with
          | nil => exact ⟨_, rfl⟩
          | cons byte database =>
              obtain rfl : [] = aliasName := by simpa [names] using empty
              exact ⟨_, rfl⟩

theorem text_changes_schema (call : IdentifierCall) :
    isSchemaChangingStatement call.text = true := by
  cases call with
  | attach db aliasName => rfl
  | detach aliasName => rfl
  | createView temporary database aliasName sqlQuery => rfl
  | dropView database aliasName => rfl

def firstNames : List Token → List Text
  | [] => []
  | .identifier database :: .symbol 46 :: .identifier name :: _ => [database, name]
  | .identifier name :: _ => [name]
  | _ :: rest => firstNames rest

theorem firstNames_intended (call : IdentifierCall) (later : List Token) :
    firstNames (call.intended ++ later) = call.names := by
  cases call with
  | attach db aliasName => rfl
  | detach aliasName => rfl
  | createView temporary database aliasName sqlQuery =>
      cases temporary <;> cases database <;> rfl
  | dropView database aliasName =>
      cases database <;> rfl

/-- What is compiled for names that are not empty is what is meant, with the names as they were
given, or breaks off within a name that has a NUL.  Calls on names without one that compile
to the same tokens were given the same names. -/
theorem quoted_names_read_back (call other : IdentifierCall)
    (named : ∀ name ∈ call.names, name ≠ []) (otherNamed : ∀ name ∈ other.names, name ≠ []) :
    (call.handed = call.checks >>= fun _ => .returns call.text) ∧
    isSchemaChangingStatement call.text = true ∧
    ((∀ name ∈ call.names, 0 ∉ name) →
      tokens (cString call.text) = call.intended ++ tokens (cString call.rest)) ∧
    (∀ name ∈ call.names, 0 ∈ name → ∃ before cutName after,
      call.intended = before ++ .identifier cutName :: after ∧ 0 ∈ cutName ∧
        tokens (cString call.text) = before ++ [.illegal]) ∧
    ((∀ name ∈ call.names ++ other.names, 0 ∉ name) →
      tokens (cString call.text) = tokens (cString other.text) → call.names = other.names) := by
  have lexed := call.lexes named
  have otherLexed := other.lexes otherNamed
  have reads (clean : ∀ name ∈ call.names, 0 ∉ name) :
      tokens (cString call.text) = call.intended ++ tokens (cString call.rest) :=
    lexed.clean fun name member => clean name ((call.mem_names_iff name).mp member)
  refine ⟨call.handed_eq named, call.text_changes_schema, reads, ?_, ?_⟩
  · intro name given nul
    exact lexed.cut name ((call.mem_names_iff name).mpr given) nul
  · intro clean same
    have otherReads : tokens (cString other.text) =
        other.intended ++ tokens (cString other.rest) :=
      otherLexed.clean fun name member =>
        clean name (List.mem_append_right _ ((other.mem_names_iff name).mp member))
    rw [reads fun name given => clean name (List.mem_append_left _ given), otherReads] at same
    have names := congrArg firstNames same
    rwa [firstNames_intended, firstNames_intended] at names

/-- The alias of the repository's own test, with a quote, a space and a semicolon in it. -/
theorem quoted_names_read_back_alias :
    tokens (cString (detachSql (ascii "alias name\";DROP"))) =
      [.word (ascii "DETACH"), .word (ascii "DATABASE"),
        .identifier (ascii "alias name\";DROP"), .symbol 59] :=
  (quoted_names_read_back (.detach (ascii "alias name\";DROP")) (.detach (ascii "a"))
    (by decide) (by decide)).2.2.1 (by decide)

end IdentifierCall

end VSQLite
