import VSQLite.Json.Path

/-!
# Reading paths back

A path reads back as the calls that built it unless a key has a quote, which is doubled
where the parser wants a backslash, or a backslash, which is not escaped at all.
-/

set_option autoImplicit false

namespace VSQLite
open Lib

/-! ## Indices -/

theorem ofDecimal_reverse (digits : List Nat) (small : ∀ digit ∈ digits, digit < 10) :
    ofDecimal (digits.reverse.map fun digit => UInt8.ofNat (48 + digit)) =
      Nat.ofDigits 10 digits := by
  induction digits with
  | nil => rfl
  | cons digit rest ih =>
      have bound := small digit List.mem_cons_self
      have byte : (UInt8.ofNat (48 + digit)).toNat = 48 + digit := by
        rw [UInt8.toNat_ofNat']
        omega
      have inner := ih fun other member => small other (List.mem_cons_of_mem _ member)
      unfold ofDecimal at inner ⊢
      rw [List.reverse_cons, List.map_append, List.foldl_append, inner, Nat.ofDigits_cons]
      simp only [List.map_cons, List.map_nil, List.foldl_cons, List.foldl_nil, byte]
      omega

theorem ofDecimal_decimal (number : Nat) : ofDecimal (decimal number) = number := by
  unfold decimal
  split
  · rename_i zero
    rw [zero]
    rfl
  · rw [ofDecimal_reverse _ fun digit member => Nat.digits_lt_base (by decide) member,
      Nat.ofDigits_digits]

theorem isDigit_ofNat (digit : Nat) (small : digit < 10) :
    isDigit (UInt8.ofNat (48 + digit)) = true := by
  have all : (List.range 10).all (fun digit => isDigit (UInt8.ofNat (48 + digit))) = true := rfl
  exact List.all_eq_true.mp all digit (List.mem_range.mpr small)

theorem decimal_isDigit (number : Nat) : ∀ byte ∈ decimal number, isDigit byte = true := by
  intro byte member
  unfold decimal at member
  split at member
  · rw [List.mem_singleton.mp member]
    rfl
  · obtain ⟨digit, among, rfl⟩ := List.mem_map.mp member
    exact isDigit_ofNat digit (Nat.digits_lt_base (by decide) (List.mem_reverse.mp among))

theorem decimal_ne_nil (number : Nat) : decimal number ≠ [] := by
  unfold decimal
  split
  · exact List.cons_ne_nil _ _
  · rename_i some_
    rw [Ne, List.map_eq_nil_iff, List.reverse_eq_nil_iff, Nat.digits_eq_nil_iff_eq_zero]
    exact some_

theorem readIndex_decimal (idx : Nat) (rest : Text) :
    readIndex (decimal idx ++ 93 :: rest) = some (.index idx, rest) := by
  have digits := decimal_isDigit idx
  have stop : (93 :: rest : Text).takeWhile isDigit = [] := rfl
  have keep : (93 :: rest : Text).dropWhile isDigit = 93 :: rest := rfl
  unfold readIndex
  rw [List.takeWhile_append_of_pos digits, List.dropWhile_append_of_pos digits, stop, keep,
    List.append_nil]
  cases written : decimal idx with
  | nil => exact absurd written (decimal_ne_nil idx)
  | cons digit others =>
      have value := ofDecimal_decimal idx
      rw [written] at value
      simp only [value, if_true]

/-! ## Escapes -/

theorem hexDigit_ne_dot (byte : UInt8) (digit : Nat) (read : hexDigit byte = some digit) :
    byte ≠ 46 := by
  rintro rfl
  cases read

theorem hexDigits_consumed (count value : Nat) (text : Text) (read : Nat × Text)
    (digits : hexDigits count value text = some read) :
    ∃ consumed, text = consumed ++ read.2 ∧ consumed.length = count ∧ 46 ∉ consumed := by
  induction count generalizing value text with
  | zero =>
      cases digits
      exact ⟨[], rfl, rfl, List.not_mem_nil⟩
  | succ count ih =>
      cases text with
      | nil => cases digits
      | cons byte rest =>
          obtain ⟨digit, here, later⟩ := Option.bind_eq_some_iff.mp digits
          obtain ⟨consumed, rfl, length, dotless⟩ := ih _ rest later
          refine ⟨byte :: consumed, rfl, by rw [List.length_cons, length], ?_⟩
          rw [List.mem_cons, not_or]
          exact ⟨(hexDigit_ne_dot byte digit here).symm, dotless⟩

theorem utf8_length (code : Nat) : (utf8 code).length ≤ 4 := by
  unfold utf8
  split_ifs <;> simp

theorem lowSurrogate_consumed (text : Text) (read : Nat × Text)
    (low : lowSurrogate text = some read) :
    ∃ consumed, text = consumed ++ read.2 ∧ 46 ∉ consumed := by
  unfold lowSurrogate at low
  split at low
  · rename_i first second rest
    split at low
    · rename_i starts
      obtain ⟨digits, here, within⟩ := Option.bind_eq_some_iff.mp low
      obtain ⟨consumed, rfl, -, dotless⟩ := hexDigits_consumed 4 0 rest digits here
      split at within
      · cases within
        refine ⟨first :: second :: consumed, rfl, ?_⟩
        rw [starts.1, starts.2]
        simpa using dotless
      · cases within
    · cases low
  · cases low

/-- An escape takes up as many bytes as it stands for, besides the backslash. -/
theorem jsonEscape_consumed (text : Text) (read : Text × Text)
    (escape : jsonEscape text = some read) :
    ∃ consumed, text = consumed ++ read.2 ∧ 46 ∉ consumed ∧
      read.1.length ≤ consumed.length := by
  cases text with
  | nil => cases escape
  | cons byte rest =>
      rw [jsonEscape] at escape
      split at escape
      · rename_i unicode
        subst unicode
        obtain ⟨⟨code, after⟩, digits, rfl⟩ := Option.map_eq_some_iff.mp escape
        obtain ⟨four, rfl, length, dotless⟩ := hexDigits_consumed 4 0 rest _ digits
        dsimp only
        split
        · rename_i low later pair
          split at pair
          · obtain ⟨more, rfl, dotless_too⟩ := lowSurrogate_consumed after _ pair
            refine ⟨117 :: (four ++ more), by simp, by simp [dotless, dotless_too], ?_⟩
            have bound := utf8_length (0x10000 + (code - 0xD800) * 1024 + (low - 0xDC00))
            simp only [List.length_cons, List.length_append]
            omega
          · cases pair
        · refine ⟨117 :: four, rfl, by simp [dotless], ?_⟩
          have bound := utf8_length code
          simp only [List.length_cons]
          omega
      · obtain ⟨decoded, simple, rfl⟩ := Option.map_eq_some_iff.mp escape
        refine ⟨[byte], rfl, ?_, Nat.le_refl _⟩
        rintro found
        rw [← List.mem_singleton.mp found] at simple
        cases simple

theorem unescape_plain (fuel : Nat) (text : Text) (plain : 92 ∉ text)
    (enough : text.length ≤ fuel) : unescape fuel text = some text := by
  induction text generalizing fuel with
  | nil =>
      cases fuel <;> rfl
  | cons byte rest ih =>
      cases fuel with
      | zero => cases enough
      | succ fuel =>
          rw [List.mem_cons, not_or] at plain
          rw [unescape, if_neg (Ne.symm plain.1),
            ih fuel plain.2 (Nat.le_of_succ_le_succ enough)]
          rfl

theorem unescape_length (fuel : Nat) (text key : Text) (decoded : unescape fuel text = some key) :
    key.length ≤ text.length ∧ (92 ∈ text → key.length < text.length) := by
  induction fuel generalizing text key with
  | zero =>
      cases text with
      | nil =>
          cases decoded
          exact ⟨Nat.le_refl _, nofun⟩
      | cons byte rest => cases decoded
  | succ fuel ih =>
      cases text with
      | nil =>
          cases decoded
          exact ⟨Nat.le_refl _, nofun⟩
      | cons byte rest =>
          rw [unescape] at decoded
          split at decoded
          · obtain ⟨read, escape, tail⟩ := Option.bind_eq_some_iff.mp decoded
            obtain ⟨later, inner, rfl⟩ := Option.map_eq_some_iff.mp tail
            obtain ⟨consumed, rfl, -, shorter⟩ := jsonEscape_consumed rest read escape
            have bound := (ih read.2 later inner).1
            simp only [List.length_append, List.length_cons]
            omega
          · rename_i other
            obtain ⟨later, inner, rfl⟩ := Option.map_eq_some_iff.mp decoded
            obtain ⟨bound, strict⟩ := ih rest later inner
            refine ⟨Nat.succ_le_succ bound, fun escaped => Nat.succ_lt_succ (strict ?_)⟩
            exact (List.mem_cons.mp escaped).resolve_left (Ne.symm other)

theorem unescape_dot (fuel : Nat) (text key : Text)
    (decoded : unescape fuel (text ++ [46]) = some key) : ∃ start, key = start ++ [46] := by
  induction fuel generalizing text key with
  | zero =>
      cases text with
      | nil => cases decoded
      | cons byte rest => cases decoded
  | succ fuel ih =>
      cases text with
      | nil =>
          have single : unescape (fuel + 1) [46] = some [46] := by
            cases fuel <;> rfl
          rw [List.nil_append, single] at decoded
          cases decoded
          exact ⟨[], rfl⟩
      | cons byte rest =>
          rw [List.cons_append, unescape] at decoded
          split at decoded
          · obtain ⟨read, escape, tail⟩ := Option.bind_eq_some_iff.mp decoded
            obtain ⟨later, inner, rfl⟩ := Option.map_eq_some_iff.mp tail
            obtain ⟨consumed, split_, dotless, -⟩ := jsonEscape_consumed _ read escape
            rcases List.eq_nil_or_concat read.2 with empty | ⟨before, last, ends⟩
            · rw [empty, List.append_nil] at split_
              exact absurd (split_ ▸ List.mem_append_right rest (List.mem_singleton_self _)) dotless
            · rw [ends, List.concat_eq_append, ← List.append_assoc] at split_
              have last_dot := (List.append_inj' split_ rfl).2
              rw [ends, List.concat_eq_append, ← last_dot] at inner
              obtain ⟨start, rfl⟩ := ih before later inner
              exact ⟨read.1 ++ start, (List.append_assoc _ _ _).symm⟩
          · obtain ⟨later, inner, rfl⟩ := Option.map_eq_some_iff.mp decoded
            obtain ⟨start, rfl⟩ := ih rest later inner
            exact ⟨byte :: start, rfl⟩

/-! ## Labels in quotes -/

/-- How the reading of a key comes out whose quotes are doubled. -/
inductive Labelled (key rest label after : Text) : Prop where
  | whole (same : label = key) (ends : after = rest) (unquoted : 34 ∉ key)
  | pair (again : after.head? = some 34)
  | short (escaped : 92 ∈ label) (shorter : label.length ≤ key.length)
  | beyond (inner : Text) (last : key.getLast? = some 92) (same : label = key ++ 34 :: inner)
      (more : quotedLabel rest = some (inner, after))

theorem quotedLabel_other {byte : UInt8} {text : Text} (quote : byte ≠ 34) (escape : byte ≠ 92) :
    quotedLabel (byte :: text) =
      (quotedLabel text).map fun read => (byte :: read.1, read.2) := by
  rw [quotedLabel.eq_def]
  simp only [if_neg quote, if_neg escape]

theorem quotedLabel_escape (escaped : UInt8) (text : Text) :
    quotedLabel (92 :: escaped :: text) =
      (quotedLabel text).map fun read => (92 :: escaped :: read.1, read.2) := by
  rw [quotedLabel.eq_def]
  rfl

theorem quotedLabel_quote (text : Text) : quotedLabel (34 :: text) = some ([], text) := by
  rw [quotedLabel.eq_def]
  rfl

theorem Labelled.cons {byte : UInt8} {key rest label after : Text} (quote : byte ≠ 34)
    (labelled : Labelled key rest label after) :
    Labelled (byte :: key) rest (byte :: label) after := by
  cases labelled with
  | whole same ends unquoted =>
      refine .whole (by rw [same]) ends ?_
      rw [List.mem_cons, not_or]
      exact ⟨Ne.symm quote, unquoted⟩
  | pair again => exact .pair again
  | short escaped shorter =>
      exact .short (List.mem_cons_of_mem _ escaped) (Nat.succ_le_succ shorter)
  | beyond inner last same more =>
      refine .beyond inner ?_ (by rw [same]; rfl) more
      rw [List.getLast?_cons, last]
      rfl

theorem labelled_double (key rest label after : Text)
    (read : quotedLabel (double 34 key ++ 34 :: rest) = some (label, after)) :
    Labelled key rest label after := by
  induction key using List.twoStepInduction generalizing label with
  | nil =>
      rw [double_nil, List.nil_append, quotedLabel_quote] at read
      cases read
      exact .whole rfl rfl List.not_mem_nil
  | singleton byte =>
      by_cases quote : byte = 34
      · subst quote
        rw [double_quote, List.cons_append, quotedLabel_quote] at read
        cases read
        exact .pair rfl
      · rw [double_other quote, double_nil, List.cons_append, List.nil_append] at read
        by_cases escape : byte = 92
        · subst escape
          rw [quotedLabel_escape] at read
          obtain ⟨⟨inner, later⟩, more, same⟩ := Option.map_eq_some_iff.mp read
          cases same
          exact .beyond inner rfl rfl more
        · rw [quotedLabel_other quote escape, quotedLabel_quote] at read
          cases read
          exact .whole rfl rfl (by simpa using Ne.symm quote)
  | cons_cons byte next key two one =>
      by_cases quote : byte = 34
      · subst quote
        rw [double_quote, List.cons_append, quotedLabel_quote] at read
        cases read
        exact .pair rfl
      · rw [double_other quote, List.cons_append] at read
        by_cases escape : byte = 92
        · subst escape
          by_cases quoted : next = 34
          · subst quoted
            rw [double_quote, List.cons_append, List.cons_append, quotedLabel_escape,
              quotedLabel_quote] at read
            cases read
            exact .short (by simp) (by simp)
          · rw [double_other quoted, List.cons_append, quotedLabel_escape] at read
            obtain ⟨⟨inner, later⟩, tail, same⟩ := Option.map_eq_some_iff.mp read
            cases same
            exact ((two inner tail).cons quoted).cons quote
        · rw [quotedLabel_other quote escape] at read
          obtain ⟨⟨inner, later⟩, tail, same⟩ := Option.map_eq_some_iff.mp read
          cases same
          exact (one next inner tail).cons quote

theorem quotedLabel_append (text rest : Text) (quote : 34 ∉ text) (escape : 92 ∉ text) :
    quotedLabel (text ++ rest) =
      (quotedLabel rest).map fun read => (text ++ read.1, read.2) := by
  induction text with
  | nil => simp
  | cons byte text ih =>
      rw [List.mem_cons, not_or] at quote escape
      rw [List.cons_append, quotedLabel_other (Ne.symm quote.1) (Ne.symm escape.1),
        ih quote.2 escape.2, Option.map_map]
      rfl

theorem double_plain (key : Text) (quote : 34 ∉ key) : double 34 key = key := by
  induction key with
  | nil => rfl
  | cons byte key ih =>
      rw [List.mem_cons, not_or] at quote
      rw [double_other (Ne.symm quote.1), ih quote.2]

/-! ## Segments -/

/-- What a call adds to the path. -/
def Segment.encode : Segment → Text
  | .key segment => 46 :: if needsQuotedKey segment then quoteKey segment else segment
  | .index idx => 91 :: (decimal idx ++ [93])

def encodeAll (segments : List Segment) : Text := segments.flatMap Segment.encode

@[simp] theorem encodeAll_cons (segment : Segment) (rest : List Segment) :
    encodeAll (segment :: rest) = segment.encode ++ encodeAll rest := List.flatMap_cons

theorem PathBuilder.foldl_extend (segments : List Segment) (builder : PathBuilder) :
    (segments.foldl extend builder).path = builder.path ++ encodeAll segments := by
  induction segments generalizing builder with
  | nil => exact (List.append_nil _).symm
  | cons segment rest ih =>
      have one : (builder.extend segment).path = builder.path ++ segment.encode := by
        cases segment with
        | key segment => simp [extend, PathBuilder.key, Segment.encode]
        | index idx => simp [extend, PathBuilder.index, Segment.encode]
      rw [List.foldl_cons, ih, one, encodeAll_cons, List.append_assoc]

theorem PathBuilder.str_build (segments : List Segment) :
    (build segments).str = 36 :: encodeAll segments :=
  foldl_extend segments root

theorem unquoted_bytes (key : Text) (unquoted : needsQuotedKey key = false) :
    key ≠ [] ∧ 34 ∉ key ∧ 92 ∉ key ∧ ∀ byte ∈ key, isLabelByte byte = true := by
  unfold needsQuotedKey at unquoted
  split at unquoted
  · cases unquoted
  · rename_i some_
    have kept : ∀ byte ∈ key, (isAlnum byte || byte == 95) = true := by
      intro byte member
      have none := List.any_eq_false.mp unquoted byte member
      cases alnum : isAlnum byte with
      | true => rfl
      | false => simpa [alnum] using none
    refine ⟨by simpa using some_, fun quote => ?_, fun escape => ?_, fun byte member => ?_⟩
    · exact absurd (kept 34 quote) (by decide)
    · exact absurd (kept 92 escape) (by decide)
    · by_contra stops
      have special : byte = 46 ∨ byte = 91 := by
        by_contra other
        obtain ⟨dot, bracket⟩ := not_or.mp other
        exact stops (by simp [isLabelByte, dot, bracket])
      rcases special with rfl | rfl
      · exact absurd (kept 46 member) (by decide)
      · exact absurd (kept 91 member) (by decide)

theorem encode_head (segment : Segment) :
    ∃ byte rest, segment.encode = byte :: rest ∧ (byte = 46 ∨ byte = 91) := by
  cases segment with
  | key segment => exact ⟨46, _, rfl, Or.inl rfl⟩
  | index idx => exact ⟨91, _, rfl, Or.inr rfl⟩

theorem encodeAll_stops (segments : List Segment) :
    (encodeAll segments).takeWhile isLabelByte = [] ∧
      (encodeAll segments).dropWhile isLabelByte = encodeAll segments := by
  cases segments with
  | nil => exact ⟨rfl, rfl⟩
  | cons segment rest =>
      obtain ⟨byte, text, encoded, stops⟩ := encode_head segment
      have stop : isLabelByte byte = false := by
        rcases stops with rfl | rfl <;> rfl
      rw [encodeAll_cons, encoded, List.cons_append]
      exact ⟨List.takeWhile_cons_of_neg (by simp [stop]),
        List.dropWhile_cons_of_neg (by simp [stop])⟩

theorem decimal_plain (number : Nat) : 34 ∉ decimal number ∧ 92 ∉ decimal number :=
  ⟨fun quote => absurd (decimal_isDigit number 34 quote) (by decide),
    fun escape => absurd (decimal_isDigit number 92 escape) (by decide)⟩

theorem quotedLabel_encodeAll (segments : List Segment) (inner after : Text)
    (read : quotedLabel (encodeAll segments) = some (inner, after)) :
    ∃ start, inner = start ++ [46] := by
  induction segments generalizing inner with
  | nil => cases read
  | cons segment rest ih =>
      have plain : ∀ text : Text, segment.encode = text → 34 ∉ text → 92 ∉ text →
          ∃ start, inner = start ++ [46] := by
        intro text encoded quote escape
        rw [encodeAll_cons, encoded, quotedLabel_append _ _ quote escape] at read
        obtain ⟨⟨tail, later⟩, more, same⟩ := Option.map_eq_some_iff.mp read
        cases same
        obtain ⟨start, rfl⟩ := ih tail more
        exact ⟨text ++ start, (List.append_assoc _ _ _).symm⟩
      cases segment with
      | index idx =>
          obtain ⟨quote, escape⟩ := decimal_plain idx
          exact plain (91 :: (decimal idx ++ [93])) rfl (by simp [quote]) (by simp [escape])
      | key key =>
          cases quoted : needsQuotedKey key with
          | false =>
              obtain ⟨-, quote, escape, -⟩ := unquoted_bytes key quoted
              refine plain (46 :: key) (by simp [Segment.encode, quoted]) ?_ ?_
              · simpa using quote
              · simpa using escape
          | true =>
              have starts : encodeAll (.key key :: rest) =
                  46 :: 34 :: (double 34 key ++ [34] ++ encodeAll rest) := by
                simp [Segment.encode, quoted, quoteKey]
              rw [starts, quotedLabel_other (by decide) (by decide), quotedLabel_quote] at read
              cases read
              exact ⟨[], rfl⟩

/-! ## Paths -/

theorem readSegment_index (idx : Nat) (rest : Text) :
    readSegment ((Segment.index idx).encode ++ rest) = some (.index idx, rest) := by
  have split_ : (Segment.index idx).encode ++ rest = 91 :: (decimal idx ++ 93 :: rest) := by
    simp [Segment.encode]
  rw [split_, readSegment]
  exact readIndex_decimal idx rest

theorem readSegment_unquoted (key : Text) (unquoted : needsQuotedKey key = false)
    (segments : List Segment) :
    readSegment ((Segment.key key).encode ++ encodeAll segments) =
      some (.key key, encodeAll segments) := by
  obtain ⟨some_, quote, -, label⟩ := unquoted_bytes key unquoted
  obtain ⟨stops, stays⟩ := encodeAll_stops segments
  have split_ : (Segment.key key).encode ++ encodeAll segments =
      46 :: (key ++ encodeAll segments) := by
    simp [Segment.encode, unquoted]
  rw [split_, readSegment]
  cases key with
  | nil => exact absurd rfl some_
  | cons byte rest =>
      rw [List.mem_cons, not_or] at quote
      have others : ∀ other ∈ rest, isLabelByte other = true :=
        fun other member => label other (List.mem_cons_of_mem _ member)
      have first := label byte List.mem_cons_self
      simp only [List.cons_append, readLabel, if_true, if_neg (Ne.symm quote.1), first,
        List.takeWhile_append_of_pos others, List.dropWhile_append_of_pos others, stops, stays,
        List.append_nil]

theorem readSegment_quoted (key rest : Text) (quoted : needsQuotedKey key = true) :
    readSegment ((Segment.key key).encode ++ rest) =
      (quotedLabel (double 34 key ++ 34 :: rest)).bind fun read =>
        (unescape read.1.length read.1).map fun key => (.key key, read.2) := by
  have split_ : (Segment.key key).encode ++ rest =
      46 :: 34 :: (double 34 key ++ 34 :: rest) := by
    simp [Segment.encode, quoted, quoteKey]
  rw [split_, readSegment]
  rfl

/-- No quote and no backslash. -/
def PlainKey (key : Text) : Prop := 34 ∉ key ∧ 92 ∉ key

theorem readSegment_plain (key : Text) (plain : PlainKey key) (segments : List Segment) :
    readSegment ((Segment.key key).encode ++ encodeAll segments) =
      some (.key key, encodeAll segments) := by
  cases quoted : needsQuotedKey key with
  | false => exact readSegment_unquoted key quoted segments
  | true =>
      rw [readSegment_quoted key _ quoted, double_plain key plain.1,
        quotedLabel_append _ _ plain.1 plain.2, quotedLabel_quote]
      simp [unescape_plain _ _ plain.2 (Nat.le_refl _)]

theorem readSegments_quote (fuel : Nat) (text : Text) (quote : text.head? = some 34) :
    readSegments fuel text = none := by
  cases text with
  | nil => cases quote
  | cons byte rest =>
      cases quote
      cases fuel <;> rfl

/-- A key that reads back from between its quotes is a plain one, and nothing else of the
path was read. -/
theorem plain_of_read (key label after : Text) (segments : List Segment) (fuel : Nat)
    (read : quotedLabel (double 34 key ++ 34 :: encodeAll segments) = some (label, after))
    (decoded : unescape label.length label = some key)
    (goes : readSegments fuel after ≠ none) : PlainKey key ∧ after = encodeAll segments := by
  obtain ⟨bound, strict⟩ := unescape_length _ label key decoded
  cases labelled_double key _ label after read with
  | whole same ends unquoted =>
      refine ⟨⟨unquoted, fun escaped => ?_⟩, ends⟩
      have shorter := strict (same ▸ escaped)
      rw [same] at shorter
      exact absurd shorter (Nat.lt_irrefl _)
  | pair again => exact absurd (readSegments_quote fuel after again) goes
  | short escaped shorter => exact absurd (strict escaped) (Nat.not_lt.mpr shorter)
  | beyond inner last same more =>
      -- the label runs on to the dot before the next label in quotes
      obtain ⟨start, rfl⟩ := quotedLabel_encodeAll segments inner after more
      have dotted : label = (key ++ 34 :: start) ++ [46] := by rw [same]; simp
      rw [dotted] at decoded
      obtain ⟨before, rfl⟩ := unescape_dot _ _ key decoded
      rw [List.getLast?_concat] at last
      cases last

theorem readSegments_step (fuel : Nat) (segment : Segment) (rest : Text) :
    readSegments (fuel + 1) (segment.encode ++ rest) =
      (readSegment (segment.encode ++ rest)).bind fun read =>
        (readSegments fuel read.2).map (read.1 :: ·) := by
  obtain ⟨byte, text, encoded, -⟩ := encode_head segment
  rw [encoded, List.cons_append, readSegments]

theorem readSegments_encodeAll_iff (segments : List Segment) (fuel : Nat)
    (enough : (encodeAll segments).length ≤ fuel) :
    readSegments fuel (encodeAll segments) = some segments ↔
      ∀ key, Segment.key key ∈ segments → PlainKey key := by
  induction segments generalizing fuel with
  | nil =>
      refine iff_of_true ?_ nofun
      cases fuel <;> rfl
  | cons segment rest ih =>
      obtain ⟨byte, text, encoded, -⟩ := encode_head segment
      have longer : (encodeAll rest).length + 1 ≤ fuel := by
        rw [encodeAll_cons, encoded] at enough
        simp only [List.cons_append, List.length_cons, List.length_append] at enough
        omega
      obtain ⟨fuel, rfl⟩ : ∃ less, fuel = less + 1 := ⟨fuel - 1, by omega⟩
      have later := ih fuel (Nat.le_of_succ_le_succ longer)
      have goes_on (reads : readSegment (segment.encode ++ encodeAll rest) =
          some (segment, encodeAll rest)) :
          readSegments (fuel + 1) (encodeAll (segment :: rest)) = some (segment :: rest) ↔
            ∀ key, Segment.key key ∈ rest → PlainKey key := by
        rw [encodeAll_cons, readSegments_step, reads, Option.bind_some, ← later]
        simp
      cases segment with
      | index idx =>
          rw [goes_on (readSegment_index idx _)]
          simp
      | key key =>
          by_cases plain : PlainKey key
          · rw [goes_on (readSegment_plain key plain rest)]
            simp [plain]
          · refine iff_of_false (fun reads => plain ?_)
              fun all => plain (all key List.mem_cons_self)
            have quoted : needsQuotedKey key = true := by
              by_contra unquoted
              obtain ⟨-, quote, escape, -⟩ :=
                unquoted_bytes key (Bool.eq_false_iff.mpr unquoted)
              exact plain ⟨quote, escape⟩
            rw [encodeAll_cons, readSegments_step, readSegment_quoted key _ quoted] at reads
            obtain ⟨first, read, others⟩ := Option.bind_eq_some_iff.mp reads
            obtain ⟨⟨label, after⟩, labelled, known⟩ := Option.bind_eq_some_iff.mp read
            obtain ⟨decoded, unescaped, rfl⟩ := Option.map_eq_some_iff.mp known
            obtain ⟨tail, goes, same⟩ := Option.map_eq_some_iff.mp others
            cases same
            exact (plain_of_read key label after rest fuel labelled unescaped
              (by rw [goes]; simp)).1

/-! ## Different calls -/

theorem encodeAll_head (segments : List Segment) : (encodeAll segments).head? ≠ some 34 := by
  cases segments with
  | nil => exact nofun
  | cons segment rest =>
      obtain ⟨byte, text, encoded, stops⟩ := encode_head segment
      rw [encodeAll_cons, encoded]
      rcases stops with rfl | rfl <;> simp

theorem unquoted_ne_quoted (key other : Text) (unquoted : needsQuotedKey key = false)
    (quoted : needsQuotedKey other = true) (rest others : List Segment) :
    (Segment.key key).encode ++ encodeAll rest ≠
      (Segment.key other).encode ++ encodeAll others := by
  obtain ⟨some_, quote, -, -⟩ := unquoted_bytes key unquoted
  cases key with
  | nil => exact absurd rfl some_
  | cons byte key =>
      intro same
      simp only [Segment.encode, unquoted, quoted, quoteKey, if_true, Bool.false_eq_true, if_false,
        List.cons_append, List.cons.injEq, true_and] at same
      rw [same.1] at quote
      exact quote List.mem_cons_self

theorem encode_append_inj (first second : Segment) (rest others : List Segment)
    (same : first.encode ++ encodeAll rest = second.encode ++ encodeAll others) :
    first = second ∧ encodeAll rest = encodeAll others := by
  have by_reading (reads : readSegment (first.encode ++ encodeAll rest) =
        some (first, encodeAll rest))
      (reads_too : readSegment (second.encode ++ encodeAll others) =
        some (second, encodeAll others)) :
      first = second ∧ encodeAll rest = encodeAll others := by
    rw [same, reads_too] at reads
    exact Prod.ext_iff.mp (Option.some.inj reads).symm
  cases first with
  | index idx =>
      cases second with
      | index other => exact by_reading (readSegment_index _ _) (readSegment_index _ _)
      | key other => cases (List.cons.inj same).1
  | key key =>
      cases second with
      | index other => cases (List.cons.inj same).1
      | key other =>
          cases quoted : needsQuotedKey key with
          | false =>
              cases otherQuoted : needsQuotedKey other with
              | false =>
                  exact by_reading (readSegment_unquoted key quoted rest)
                    (readSegment_unquoted other otherQuoted others)
              | true =>
                  exact absurd same (unquoted_ne_quoted key other quoted otherQuoted rest others)
          | true =>
              cases otherQuoted : needsQuotedKey other with
              | false =>
                  exact absurd same.symm
                    (unquoted_ne_quoted other key otherQuoted quoted others rest)
              | true =>
                  have doubled : double 34 key ++ 34 :: encodeAll rest =
                      double 34 other ++ 34 :: encodeAll others := by
                    simpa [Segment.encode, quoted, otherQuoted, quoteKey] using same
                  have read := @unquote_double _ _ 34 key _ (encodeAll_head rest)
                  rw [doubled, unquote_double (encodeAll_head others)] at read
                  obtain ⟨keys, tails⟩ := Prod.ext_iff.mp (Option.some.inj read).symm
                  exact ⟨congrArg Segment.key keys, tails⟩

theorem encodeAll_injective : Function.Injective encodeAll := by
  intro first second same
  induction first generalizing second with
  | nil =>
      cases second with
      | nil => rfl
      | cons segment rest =>
          obtain ⟨byte, text, encoded, -⟩ := encode_head segment
          rw [encodeAll_cons, encoded] at same
          cases same
  | cons segment rest ih =>
      cases second with
      | nil =>
          obtain ⟨byte, text, encoded, -⟩ := encode_head segment
          rw [encodeAll_cons, encoded] at same
          cases same
      | cons other others =>
          rw [encodeAll_cons, encodeAll_cons] at same
          obtain ⟨rfl, tails⟩ := encode_append_inj segment other rest others same
          rw [ih tails]

/-- A path reads back as its own calls, and is that of no others, exactly when its keys have
neither quotes nor backslashes. -/
theorem path_reads_back_iff (segments : List Segment) :
    (parsePath (PathBuilder.build segments).str = some segments ∧
      ∀ other, (PathBuilder.build other).str = (PathBuilder.build segments).str →
        other = segments) ↔
      ∀ key, Segment.key key ∈ segments → 34 ∉ key ∧ 92 ∉ key := by
  have unique : ∀ other, (PathBuilder.build other).str = (PathBuilder.build segments).str →
      other = segments := by
    intro other same
    rw [PathBuilder.str_build, PathBuilder.str_build] at same
    exact encodeAll_injective (List.cons.inj same).2
  rw [and_iff_left unique, PathBuilder.str_build]
  exact readSegments_encodeAll_iff segments _ (Nat.le_refl _)

/-- The key `a"b` is doubled where it should be escaped, and its path is an error. -/
theorem path_with_quote_is_error :
    parsePath (PathBuilder.build [.key [97, 34, 98]]).str = none ∧
      ¬(parsePath (PathBuilder.build [.key [97, 34, 98]]).str = some [.key [97, 34, 98]]) :=
  ⟨rfl, nofun⟩

end VSQLite
