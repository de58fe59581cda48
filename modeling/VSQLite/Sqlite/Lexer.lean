import VSQLite.Command.Keyword
import VSQLite.Lib.Quoting

/-!
# The tokens of SQL

How SQLite cuts a text into tokens, as far as names go.  Keywords and plain identifiers are
words; a name may also stand between double quotes, back quotes or brackets.  Numbers, blobs
and variables are given as the symbols and words they consist of: none of them is a name.
-/

set_option autoImplicit false

namespace VSQLite
open Lib

inductive Token where
  | word (text : Text)
  | identifier (name : Text)
  | literal (value : Text)
  | symbol (byte : UInt8)
  | illegal
deriving DecidableEq, Repr

/-- The bytes that begin white space; a vertical tab is one only within it. -/
def startsSpace (byte : UInt8) : Bool :=
  byte == 32 || byte == 9 || byte == 10 || byte == 12 || byte == 13

def isIdChar (byte : UInt8) : Bool := isAlnum byte || byte == 95 || byte == 36 || 128 ≤ byte

def startsWord (byte : UInt8) : Bool := isAlpha byte || byte == 95 || 128 ≤ byte

/-- What stands after a comment; one that is not closed takes the rest. -/
def afterComment : Text → Text
  | [] => []
  | byte :: rest => if byte = 42 ∧ rest.head? = some 47 then rest.tail else afterComment rest

/-- The token a text begins with, none for white space and comments, and the text after it. -/
def scan (byte : UInt8) (rest : Text) : Option Token × Text :=
  if startsSpace byte then (none, rest.dropWhile isSpace)
  else if byte = 45 ∧ rest.head? = some 45 then (none, rest.dropWhile (· != 10))
  else if byte = 47 ∧ rest.head? = some 42 ∧ rest.tail ≠ [] then (none, afterComment rest.tail)
  else if byte = 39 ∨ byte = 34 ∨ byte = 96 then
    match unquote byte rest with
    | none => (some .illegal, [])
    | some (value, after) =>
        (some (if byte = 39 then .literal value else .identifier value), after)
  else if byte = 91 then
    match rest.dropWhile (· != 93) with
    | [] => (some .illegal, [])
    | _ :: after => (some (.identifier (rest.takeWhile (· != 93))), after)
  else if byte = 239 ∧ [187, 191].isPrefixOf rest then (none, rest.drop 2)
  else if startsWord byte then
    (some (.word (byte :: rest.takeWhile isIdChar)), rest.dropWhile isIdChar)
  else (some (.symbol byte), rest)

def lex : Nat → Text → List Token
  | _, [] => []
  | 0, _ :: _ => []
  | fuel + 1, byte :: rest => (scan byte rest).1.toList ++ lex fuel (scan byte rest).2

def tokens (text : Text) : List Token := lex text.length text

/-- The tokens of the only statement of a text that SQLite compiles. -/
def statementTokens (sql : Text) : List Token :=
  (tokens (cString sql)).takeWhile (· ≠ .symbol 59)

/-! ## Token after token -/

theorem afterComment_length (text : Text) : (afterComment text).length ≤ text.length := by
  induction text with
  | nil => exact Nat.le_refl _
  | cons byte rest ih =>
      unfold afterComment
      split
      · rw [List.length_tail, List.length_cons]
        omega
      · exact Nat.le_succ_of_le ih

theorem scan_length (byte : UInt8) (rest : Text) : (scan byte rest).2.length ≤ rest.length := by
  unfold scan
  split
  · exact (List.dropWhile_suffix _).length_le
  · split
    · exact (List.dropWhile_suffix _).length_le
    · split
      · have shorter := afterComment_length rest.tail
        rw [List.length_tail] at shorter
        exact Nat.le_trans shorter (Nat.sub_le _ _)
      · split
        · split
          · exact Nat.zero_le _
          · rename_i value after read
            have shorter := unquote_length read
            dsimp only
            omega
        · split
          · have shorter : (rest.dropWhile (· != 93)).length ≤ rest.length :=
              (List.dropWhile_suffix _).length_le
            split
            · exact Nat.zero_le _
            · rename_i closing after left
              rw [left, List.length_cons] at shorter
              exact Nat.le_of_succ_le shorter
          · split
            · exact List.length_drop ▸ Nat.sub_le _ _
            · split
              · exact (List.dropWhile_suffix _).length_le
              · exact Nat.le_refl _

/-- The tokens there are, each with what it is read from. -/
theorem scan_token_cases (byte : UInt8) (rest : Text) (token : Token)
    (scanned : (scan byte rest).1 = some token) :
    token = .illegal ∨ (∃ symbol, token = .symbol symbol) ∨
    (∃ value after, unquote byte rest = some (value, after) ∧
      (token = .literal value ∨ token = .identifier value)) ∨
    token = .identifier (rest.takeWhile (· != 93)) ∨
    (startsWord byte = true ∧ ¬(byte = 239 ∧ [187, 191].isPrefixOf rest = true) ∧
      token = .word (byte :: rest.takeWhile isIdChar)) := by
  unfold scan at scanned
  split at scanned
  · cases scanned
  · split at scanned
    · cases scanned
    · split at scanned
      · cases scanned
      · split at scanned
        · split at scanned
          · cases scanned
            exact Or.inl rfl
          · rename_i value after read
            cases scanned
            refine Or.inr (Or.inr (Or.inl ⟨value, after, read, ?_⟩))
            split
            · exact Or.inl rfl
            · exact Or.inr rfl
        · split at scanned
          · split at scanned
            · cases scanned
              exact Or.inl rfl
            · cases scanned
              exact Or.inr (Or.inr (Or.inr (Or.inl rfl)))
          · split at scanned
            · cases scanned
            · rename_i unmarked
              split at scanned
              · rename_i starts
                cases scanned
                exact Or.inr (Or.inr (Or.inr (Or.inr ⟨starts, unmarked, rfl⟩)))
              · cases scanned
                exact Or.inr (Or.inl ⟨byte, rfl⟩)

theorem lex_enough (fuel other : Nat) (text : Text) (enough : text.length ≤ fuel)
    (enough_too : text.length ≤ other) : lex fuel text = lex other text := by
  induction fuel generalizing other text with
  | zero =>
      cases text with
      | nil => cases other <;> rfl
      | cons byte rest => cases enough
  | succ fuel ih =>
      cases text with
      | nil => cases other <;> rfl
      | cons byte rest =>
          cases other with
          | zero => cases enough_too
          | succ other =>
              have shorter := scan_length byte rest
              rw [lex, lex, ih other (scan byte rest).2
                (Nat.le_trans shorter (Nat.le_of_succ_le_succ enough))
                (Nat.le_trans shorter (Nat.le_of_succ_le_succ enough_too))]

theorem tokens_cons (byte : UInt8) (rest : Text) :
    tokens (byte :: rest) = (scan byte rest).1.toList ++ tokens (scan byte rest).2 := by
  have one : tokens (byte :: rest) =
      (scan byte rest).1.toList ++ lex rest.length (scan byte rest).2 := rfl
  rw [one, lex_enough _ (scan byte rest).2.length _ (scan_length byte rest) (Nat.le_refl _)]
  rfl

theorem tokens_space (rest : Text)
    (some_ : ∀ byte, rest.head? = some byte → isSpace byte = false) :
    tokens (32 :: rest) = tokens rest := by
  have skipped : scan 32 rest = (none, rest.dropWhile isSpace) := rfl
  rw [tokens_cons, skipped]
  cases rest with
  | nil => rfl
  | cons byte rest =>
      rw [List.dropWhile_cons_of_neg (by simp [some_ byte rfl])]
      rfl

theorem tokens_symbol (byte : UInt8) (rest : Text)
    (itself : scan byte rest = (some (.symbol byte), rest)) :
    tokens (byte :: rest) = .symbol byte :: tokens rest := by
  rw [tokens_cons, itself]
  rfl

theorem scan_word (byte : UInt8) (rest : Text) (starts : startsWord byte = true)
    (unmarked : ¬(byte = 239 ∧ [187, 191].isPrefixOf rest = true)) :
    scan byte rest =
      (some (.word (byte :: rest.takeWhile isIdChar)), rest.dropWhile isIdChar) := by
  have other (special : UInt8) (plain : startsWord special = false) : byte ≠ special := by
    rintro rfl
    rw [starts] at plain
    cases plain
  have blank : startsSpace byte = false := by
    simp [startsSpace, other 32 rfl, other 9 rfl, other 10 rfl, other 12 rfl, other 13 rfl]
  unfold scan
  rw [if_neg (by simp [blank]), if_neg (by simp [other 45 rfl]), if_neg (by simp [other 47 rfl]),
    if_neg (by simp [other 39 rfl, other 34 rfl, other 96 rfl]), if_neg (other 91 rfl),
    if_neg unmarked, if_pos starts]

/-- A word that stands by itself: SQLite takes it for one token. -/
def isWord : Text → Bool
  | [] => false
  | byte :: rest =>
      startsWord byte && rest.all isIdChar && !(byte == 239 && [187, 191].isPrefixOf rest)

/-- The byte order mark does not go on beyond the end of a word. -/
theorem mark_within (word rest : Text)
    (ends : ∀ byte, rest.head? = some byte → isIdChar byte = false)
    (mark : [187, 191].isPrefixOf (word ++ rest) = true) : [187, 191].isPrefixOf word = true := by
  cases word with
  | nil =>
      cases rest with
      | nil => cases mark
      | cons byte rest =>
          simp only [List.nil_append, List.isPrefixOf_cons_cons, Bool.and_eq_true,
            beq_iff_eq] at mark
          have stop := ends byte rfl
          rw [← mark.1] at stop
          cases stop
  | cons first word =>
      cases word with
      | nil =>
          cases rest with
          | nil => simp [List.isPrefixOf] at mark
          | cons byte rest =>
              simp only [List.cons_append, List.nil_append, List.isPrefixOf_cons_cons,
                Bool.and_eq_true, beq_iff_eq] at mark
              have stop := ends byte rfl
              rw [← mark.2.1] at stop
              cases stop
      | cons second word =>
          simpa [List.isPrefixOf] using mark

theorem tokens_word (word rest : Text) (plain : isWord word = true)
    (ends : ∀ byte, rest.head? = some byte → isIdChar byte = false) :
    tokens (word ++ rest) = .word word :: tokens rest := by
  cases word with
  | nil => cases plain
  | cons byte word =>
      simp only [isWord, Bool.and_eq_true, Bool.not_eq_true', List.all_eq_true] at plain
      obtain ⟨⟨starts, inside⟩, unmarked⟩ := plain
      have stops : rest.takeWhile isIdChar = [] ∧ rest.dropWhile isIdChar = rest := by
        cases rest with
        | nil => exact ⟨rfl, rfl⟩
        | cons next rest =>
            have stop := ends next rfl
            exact ⟨List.takeWhile_cons_of_neg (by simp [stop]),
              List.dropWhile_cons_of_neg (by simp [stop])⟩
      have unmarked_too : ¬(byte = 239 ∧ [187, 191].isPrefixOf (word ++ rest) = true) := by
        rintro ⟨rfl, starts_mark⟩
        rw [mark_within word rest ends starts_mark] at unmarked
        cases unmarked
      rw [List.cons_append, tokens_cons, scan_word byte _ starts unmarked_too,
        List.takeWhile_append_of_pos inside, List.dropWhile_append_of_pos inside, stops.1, stops.2,
        List.append_nil]
      rfl

theorem tokens_quoted (name rest : Text) (closed : rest.head? ≠ some 34) :
    tokens (34 :: (double 34 name ++ 34 :: rest)) = .identifier name :: tokens rest := by
  have read : scan 34 (double 34 name ++ 34 :: rest) = (some (.identifier name), rest) := by
    have scanned : scan 34 (double 34 name ++ 34 :: rest) =
        match unquote 34 (double 34 name ++ 34 :: rest) with
        | none => (some .illegal, [])
        | some (value, after) => (some (.identifier value), after) := rfl
    rw [scanned, unquote_double closed]
  rw [tokens_cons, read]
  rfl

theorem tokens_unterminated (name : Text) : tokens (34 :: double 34 name) = [.illegal] := by
  have read : scan 34 (double 34 name) = (some .illegal, []) := by
    have scanned : scan 34 (double 34 name) =
        match unquote 34 (double 34 name) with
        | none => (some .illegal, [])
        | some (value, after) => (some (.identifier value), after) := rfl
    rw [scanned, unquote_double_open]
  rw [tokens_cons, read]
  rfl

/-! ## Up to the first NUL -/

theorem cString_append (text rest : Text) (clean : 0 ∉ text) :
    cString (text ++ rest) = text ++ cString rest :=
  List.takeWhile_append_of_pos fun _ member =>
    decide_eq_true fun nul => clean (nul ▸ member)

theorem cString_append_nul (text rest : Text) (nul : 0 ∈ text) :
    cString (text ++ rest) = cString text := by
  induction text with
  | nil => cases nul
  | cons byte text ih =>
      unfold cString at *
      by_cases zero : byte = 0
      · simp [zero]
      · have later := (List.mem_cons.mp nul).resolve_left fun same => zero same.symm
        rw [List.cons_append, List.takeWhile_cons_of_pos (by simpa using zero),
          List.takeWhile_cons_of_pos (by simpa using zero), ih later]

theorem cString_head (text : Text) (byte : UInt8) (head : (cString text).head? = some byte) :
    text.head? = some byte := by
  rw [cString, List.head?_takeWhile] at head
  exact (Option.filter_eq_some_iff.mp head).1

theorem isWord_clean (word : Text) (plain : isWord word = true) : 0 ∉ word := by
  cases word with
  | nil => exact List.not_mem_nil
  | cons byte word =>
      simp only [isWord, Bool.and_eq_true, List.all_eq_true] at plain
      rintro nul
      rcases List.mem_cons.mp nul with same | later
      · have starts := plain.1.1
        rw [← same] at starts
        cases starts
      · have inside := plain.1.2 0 later
        cases inside

end VSQLite
