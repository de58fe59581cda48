import VSQLite.Json.RoundTrip

/-!
# JSON paths in SQL

The expressions that carry a path as a string literal.  SQL ends a literal at the first
single quote that is not doubled, and the path is put between quotes as it is.
-/

set_option autoImplicit false

namespace VSQLite
open Lib

/-- `json::extract_expression`. -/
def extractExpression (jsonExpr : Text) (path : PathBuilder) : Text :=
  ascii "json_extract(" ++ jsonExpr ++ ascii ", '" ++ path.str ++ ascii "')"

/-- `json::contains_expression`. -/
def containsExpression (jsonExpr : Text) (path : PathBuilder) (valueExpr : Text) : Text :=
  ascii "json_extract(" ++ jsonExpr ++ ascii ", '" ++ path.str ++ ascii "') = " ++ valueExpr

/-- A string literal of SQL at the start of a text: its value, and what stands after it. -/
def readLiteral : Text → Option (Text × Text)
  | [] => none
  | byte :: rest => if byte = 39 then unquote 39 rest else none

/-- After the first argument there is one literal with this value, and then this. -/
def HasLiteral (expression jsonExpr value tail : Text) : Prop :=
  ∃ argument, expression = ascii "json_extract(" ++ jsonExpr ++ ascii ", " ++ argument ∧
    readLiteral argument = some (value, tail)

theorem hasLiteral_iff (jsonExpr value tail : Text) (closed : tail.head? ≠ some 39) :
    HasLiteral (ascii "json_extract(" ++ jsonExpr ++ ascii ", '" ++ value ++ 39 :: tail)
      jsonExpr value tail ↔ 39 ∉ value := by
  have argument : ascii "json_extract(" ++ jsonExpr ++ ascii ", '" ++ value ++ 39 :: tail =
      ascii "json_extract(" ++ jsonExpr ++ ascii ", " ++ (39 :: (value ++ 39 :: tail)) := by
    rw [show ascii ", '" = ascii ", " ++ [39] from rfl]
    simp
  have literal : readLiteral (39 :: (value ++ 39 :: tail)) = unquote 39 (value ++ 39 :: tail) := by
    rw [readLiteral, if_pos rfl]
  rw [← unquote_raw_iff closed, ← literal, argument]
  constructor
  · rintro ⟨other, same, read⟩
    rw [List.append_cancel_left same]
    exact read
  · intro read
    exact ⟨_, rfl, read⟩

theorem quote_mem_encode_iff (segment : Segment) :
    39 ∈ segment.encode ↔ ∃ key, segment = .key key ∧ 39 ∈ key := by
  cases segment with
  | index idx =>
      have absent : 39 ∉ decimal idx := fun quote =>
        absurd (decimal_isDigit idx 39 quote) (by decide)
      simp [Segment.encode, absent]
  | key key =>
      have written : 39 ∈ (Segment.key key).encode ↔ 39 ∈ key := by
        cases quoted : needsQuotedKey key with
        | true => simp [Segment.encode, quoted, quoteKey, mem_double_iff]
        | false => simp [Segment.encode, quoted]
      simp [written]

theorem quote_mem_str_iff (segments : List Segment) :
    39 ∈ (PathBuilder.build segments).str ↔
      ∃ key, Segment.key key ∈ segments ∧ 39 ∈ key := by
  rw [PathBuilder.str_build, List.mem_cons, encodeAll, List.mem_flatMap]
  constructor
  · rintro (root | ⟨segment, member, written⟩)
    · cases root
    · obtain ⟨key, rfl, quote⟩ := (quote_mem_encode_iff segment).mp written
      exact ⟨key, member, quote⟩
  · rintro ⟨key, member, quote⟩
    exact Or.inr ⟨_, member, (quote_mem_encode_iff _).mpr ⟨key, rfl, quote⟩⟩

theorem extractExpression_eq (jsonExpr : Text) (path : PathBuilder) :
    extractExpression jsonExpr path =
      ascii "json_extract(" ++ jsonExpr ++ ascii ", '" ++ path.str ++ 39 :: ascii ")" := rfl

theorem containsExpression_eq (jsonExpr : Text) (path : PathBuilder) (valueExpr : Text) :
    containsExpression jsonExpr path valueExpr =
      ascii "json_extract(" ++ jsonExpr ++ ascii ", '" ++ path.str ++
        39 :: (ascii ") = " ++ valueExpr) := by
  rw [containsExpression, List.append_assoc _ (ascii "') = ")]
  rfl

/-- Both expressions have the path as one string literal exactly when no key of the path has a
single quote. -/
theorem path_is_literal_iff (segments : List Segment) (jsonExpr valueExpr : Text) :
    (HasLiteral (extractExpression jsonExpr (PathBuilder.build segments)) jsonExpr
        (PathBuilder.build segments).str (ascii ")") ∧
      HasLiteral (containsExpression jsonExpr (PathBuilder.build segments) valueExpr) jsonExpr
        (PathBuilder.build segments).str (ascii ") = " ++ valueExpr)) ↔
      ∀ key, Segment.key key ∈ segments → 39 ∉ key := by
  rw [extractExpression_eq, containsExpression_eq,
    hasLiteral_iff jsonExpr (PathBuilder.build segments).str (ascii ")") (by decide),
    hasLiteral_iff jsonExpr (PathBuilder.build segments).str (ascii ") = " ++ valueExpr)
      (by simp [ascii]),
    and_self, quote_mem_str_iff]
  simp

/-- With the key `it's` the literal ends at the quote, and the key goes on as SQL. -/
theorem quote_ends_literal :
    ¬HasLiteral (extractExpression (ascii "payload") (PathBuilder.build [.key (ascii "it's")]))
      (ascii "payload") (PathBuilder.build [.key (ascii "it's")]).str (ascii ")") := by
  rw [extractExpression_eq, hasLiteral_iff _ _ _ (by decide), quote_mem_str_iff, not_not]
  exact ⟨ascii "it's", List.mem_cons_self, by decide⟩

end VSQLite
