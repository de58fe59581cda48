import VSQLite.Sqlite.Lexer

/-!
# The first keyword of a text

`is_schema_changing_statement` reads the first token of a text by itself.  Here it is compared
with the first token SQLite's lexer makes of the text.
-/

set_option autoImplicit false

namespace VSQLite

/-- What `trim_left` skips. -/
def isBlank (byte : UInt8) : Bool := byte == 32 || byte == 9 || byte == 13 || byte == 10

/-- The first token that is no semicolon; white space and comments are no tokens. -/
def firstToken (sql : Text) : Option Token := (tokens (cString sql)).find? (· ≠ .symbol 59)

/-- It is `ATTACH`, `DETACH`, `CREATE`, `DROP` or `ALTER` in any case. -/
def startsWithSchemaKeyword (sql : Text) : Bool :=
  match firstToken sql with
  | some (.word word) => schemaKeywords.contains (foldCase word)
  | _ => false

/-- Nothing but spaces, tabs and line ends stands before a schema keyword, and white space, `;`,
`(` or nothing after it. -/
def PlainSchemaKeyword (sql : Text) : Prop :=
  ∃ lead word rest, sql = lead ++ (word ++ rest) ∧ (∀ byte ∈ lead, isBlank byte = true) ∧
    foldCase word ∈ schemaKeywords ∧ ∀ byte, rest.head? = some byte → endsToken byte = true

/-! ## Keywords -/

theorem schemaKeywords_letters :
    ∀ keyword ∈ schemaKeywords, keyword ≠ [] ∧ ∀ byte ∈ keyword, 65 ≤ byte ∧ byte ≤ 90 := by
  have checked : (schemaKeywords.all fun keyword =>
      !keyword.isEmpty && keyword.all fun byte => 65 ≤ byte && byte ≤ 90) = true := rfl
  intro keyword member
  have letters := List.all_eq_true.mp checked keyword member
  simpa [List.isEmpty_iff] using letters

theorem isAlpha_of_toUpper (byte : UInt8) (letter : 65 ≤ toUpper byte ∧ toUpper byte ≤ 90) :
    isAlpha byte = true := by
  unfold toUpper at letter
  split at letter
  · rename_i lower
    simp [isAlpha, lower]
  · simp [isAlpha, letter]

section Keyword
variable {word : Text} (keyword : foldCase word ∈ schemaKeywords)
include keyword

theorem keyword_ne_nil : word ≠ [] := by
  rintro rfl
  exact (schemaKeywords_letters _ keyword).1 rfl

theorem keyword_isAlpha (byte : UInt8) (member : byte ∈ word) : isAlpha byte = true :=
  isAlpha_of_toUpper byte
    ((schemaKeywords_letters _ keyword).2 (toUpper byte) (List.mem_map_of_mem member))

theorem keyword_isWord : isWord word = true := by
  cases bytes : word with
  | nil => exact absurd bytes (keyword_ne_nil keyword)
  | cons first rest =>
      have letters : ∀ byte ∈ first :: rest, isAlpha byte = true :=
        fun byte member => keyword_isAlpha keyword byte (bytes ▸ member)
      have head := letters first (List.mem_cons_self ..)
      have noMark : first ≠ 239 := by
        rintro rfl
        cases head
      simp only [isWord, startsWord, head, Bool.true_or, Bool.true_and, Bool.and_eq_true,
        List.all_eq_true, beq_eq_false_iff_ne.mpr noMark, Bool.false_and, Bool.not_false,
        and_true]
      intro byte member
      simp [isIdChar, isAlnum, letters byte (List.mem_cons_of_mem _ member)]

end Keyword

theorem isSpace_of_isBlank (byte : UInt8) (blank : isBlank byte = true) : isSpace byte = true := by
  simp only [isBlank, Bool.or_eq_true, beq_iff_eq] at blank
  rcases blank with ((rfl | rfl) | rfl) | rfl <;> rfl

theorem startsSpace_of_isBlank (byte : UInt8) (blank : isBlank byte = true) :
    startsSpace byte = true := by
  simp only [isBlank, Bool.or_eq_true, beq_iff_eq] at blank
  rcases blank with ((rfl | rfl) | rfl) | rfl <;> rfl

theorem not_endsToken_of_isAlpha (byte : UInt8) (letter : isAlpha byte = true) :
    endsToken byte = false := by
  rw [Bool.eq_false_iff]
  intro ends
  simp only [endsToken, isSpace, isAlpha, Bool.or_eq_true, Bool.and_eq_true, decide_eq_true_eq,
    beq_iff_eq, UInt8.le_iff_toNat_le, ← UInt8.toNat_inj, UInt8.reduceToNat] at letter ends
  omega

theorem not_isIdChar_of_endsToken (byte : UInt8) (ends : endsToken byte = true) :
    isIdChar byte = false := by
  rw [Bool.eq_false_iff]
  intro inside
  simp only [endsToken, isSpace, isIdChar, isAlnum, isDigit, isAlpha, Bool.or_eq_true,
    Bool.and_eq_true, decide_eq_true_eq, beq_iff_eq, UInt8.le_iff_toNat_le, ← UInt8.toNat_inj,
    UInt8.reduceToNat] at inside ends
  omega

theorem not_isSpace_of_isAlpha (byte : UInt8) (letter : isAlpha byte = true) :
    isSpace byte = false := by
  have solid := not_endsToken_of_isAlpha byte letter
  simp only [endsToken, Bool.or_eq_false_iff] at solid
  exact solid.1.1

/-! ## The scanner of the wrapper -/

theorem isSchemaChangingStatement_eq (sql : Text) :
    isSchemaChangingStatement sql = schemaKeywords.contains (firstTokenUpper sql) := by
  unfold isSchemaChangingStatement
  cases token : firstTokenUpper sql with
  | nil => rfl
  | cons byte rest => rfl

theorem trimLeft_lead (lead text : Text) (blank : ∀ byte ∈ lead, isBlank byte = true)
    (solid : text.head?.any isSpace = false) : trimLeft (lead ++ text) = text := by
  have same : trimLeft (lead ++ text) = (lead ++ text).dropWhile isBlank := rfl
  rw [same, List.dropWhile_append_of_pos blank]
  cases text with
  | nil => rfl
  | cons byte rest =>
      have seen : isBlank byte = false := by
        rw [Bool.eq_false_iff]
        intro also
        have space := isSpace_of_isBlank byte also
        simp only [List.head?_cons, Option.any_some] at solid
        rw [solid] at space
        cases space
      exact List.dropWhile_cons_of_neg (by simp [seen])

theorem keyword_solid {word : Text} (rest : Text) (keyword : foldCase word ∈ schemaKeywords) :
    (word ++ rest).head?.any isSpace = false := by
  cases bytes : word with
  | nil => exact absurd bytes (keyword_ne_nil keyword)
  | cons first later =>
      have letter := keyword_isAlpha keyword first (bytes ▸ List.mem_cons_self ..)
      exact not_isSpace_of_isAlpha first letter

theorem isSchemaChangingStatement_iff (sql : Text) :
    isSchemaChangingStatement sql = true ↔ PlainSchemaKeyword sql := by
  rw [isSchemaChangingStatement_eq, List.contains_iff_mem]
  constructor
  · intro keyword
    refine ⟨sql.takeWhile isBlank, (trimLeft sql).takeWhile fun byte => !endsToken byte,
      (trimLeft sql).dropWhile fun byte => !endsToken byte, ?_, ?_, keyword, ?_⟩
    · rw [List.takeWhile_append_dropWhile]
      exact List.takeWhile_append_dropWhile.symm
    · exact List.all_eq_true.mp List.all_takeWhile
    · intro byte head
      have stops := List.head?_dropWhile_not (fun byte => !endsToken byte) (trimLeft sql)
      rw [head] at stops
      simpa using stops
  · rintro ⟨lead, word, rest, rfl, blank, keyword, ends⟩
    have trimmed := trimLeft_lead lead (word ++ rest) blank (keyword_solid rest keyword)
    have inside : ∀ byte ∈ word, (!endsToken byte) = true := by
      intro byte member
      rw [not_endsToken_of_isAlpha byte (keyword_isAlpha keyword byte member)]
      rfl
    have stops : rest.takeWhile (fun byte => !endsToken byte) = [] := by
      cases rest with
      | nil => rfl
      | cons byte rest => exact List.takeWhile_cons_of_neg (by simp [ends byte rfl])
    rw [firstTokenUpper, trimmed, List.takeWhile_append_of_pos inside, stops, List.append_nil]
    exact keyword

/-! ## SQLite's lexer -/

theorem tokens_lead (lead text : Text) (blank : ∀ byte ∈ lead, isBlank byte = true)
    (solid : text.head?.any isSpace = false) : tokens (lead ++ text) = tokens text := by
  cases lead with
  | nil => rfl
  | cons byte lead =>
      have skipped : scan byte (lead ++ text) = (none, (lead ++ text).dropWhile isSpace) := by
        unfold scan
        rw [if_pos (startsSpace_of_isBlank byte (blank byte (List.mem_cons_self ..)))]
      have spaces : ∀ other ∈ lead, isSpace other = true := fun other member =>
        isSpace_of_isBlank other (blank other (List.mem_cons_of_mem _ member))
      rw [List.cons_append, tokens_cons, skipped, List.dropWhile_append_of_pos spaces]
      cases text with
      | nil => rfl
      | cons first rest =>
          simp only [List.head?_cons, Option.any_some] at solid
          rw [List.dropWhile_cons_of_neg (by simp [solid])]
          rfl

theorem startsWithSchemaKeyword_of_plain (sql : Text) (plain : PlainSchemaKeyword sql) :
    startsWithSchemaKeyword sql = true := by
  obtain ⟨lead, word, rest, rfl, blank, keyword, ends⟩ := plain
  have clean : 0 ∉ lead := fun nul => by cases blank 0 nul
  have isOneWord := keyword_isWord keyword
  have stops : ∀ byte, (cString rest).head? = some byte → isIdChar byte = false := fun byte head =>
    not_isIdChar_of_endsToken byte (ends byte (cString_head rest byte head))
  have read : tokens (cString (lead ++ (word ++ rest))) = .word word :: tokens (cString rest) := by
    rw [cString_append lead _ clean, cString_append word rest (isWord_clean word isOneWord),
      tokens_lead lead _ blank (keyword_solid _ keyword), tokens_word word _ isOneWord stops]
  have first : firstToken (lead ++ (word ++ rest)) = some (.word word) := by
    rw [firstToken, read]
    exact List.find?_cons_of_pos (by simp)
  simp only [startsWithSchemaKeyword, first]
  exact List.contains_iff_mem.mpr keyword

/-- The wrapper and SQLite agree on a text exactly when the schema keyword it starts with, if it
does, is a plain one. -/
theorem schema_keyword_recognised_iff (sql : Text) :
    (isSchemaChangingStatement sql = true ↔ startsWithSchemaKeyword sql = true) ↔
      (startsWithSchemaKeyword sql = true → PlainSchemaKeyword sql) := by
  rw [isSchemaChangingStatement_iff]
  constructor
  · exact fun agree starts => agree.mpr starts
  · exact fun plain => ⟨startsWithSchemaKeyword_of_plain sql, plain⟩

/-- A comment before the keyword, and one after it. -/
theorem commented_keyword_missed :
    startsWithSchemaKeyword (ascii "/* v2 */ DROP TABLE t") = true ∧
      isSchemaChangingStatement (ascii "/* v2 */ DROP TABLE t") = false ∧
      startsWithSchemaKeyword (ascii "ALTER/* v2 */TABLE t ADD c") = true ∧
      isSchemaChangingStatement (ascii "ALTER/* v2 */TABLE t ADD c") = false ∧
      ¬(isSchemaChangingStatement (ascii "/* v2 */ DROP TABLE t") = true ↔
        startsWithSchemaKeyword (ascii "/* v2 */ DROP TABLE t") = true) := by
  decide

end VSQLite
