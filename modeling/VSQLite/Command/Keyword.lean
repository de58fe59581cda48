import VSQLite.Sqlite.Statement

/-!
# Which texts change the schema

The first token of a text, upper-cased, against the five keywords.  The character
classes are those of the "C" locale.
-/

set_option autoImplicit false

namespace VSQLite

def ascii (literal : String) : Text := literal.toList.map fun char => UInt8.ofNat char.toNat

/-- `std::isspace`: tab to carriage return, and space. -/
def isSpace (byte : UInt8) : Bool := (9 ≤ byte && byte ≤ 13) || byte == 32

def isDigit (byte : UInt8) : Bool := 48 ≤ byte && byte ≤ 57

def isAlpha (byte : UInt8) : Bool := (65 ≤ byte && byte ≤ 90) || (97 ≤ byte && byte ≤ 122)

def isAlnum (byte : UInt8) : Bool := isDigit byte || isAlpha byte

def toUpper (byte : UInt8) : UInt8 := if 97 ≤ byte && byte ≤ 122 then byte - 32 else byte

def foldCase (text : Text) : Text := text.map toUpper

/-- The text from its first character that is none of `" \t\r\n"`. -/
def trimLeft (sql : Text) : Text :=
  sql.dropWhile fun byte => byte == 32 || byte == 9 || byte == 13 || byte == 10

/-- A token ends at white space, `;` or `(`. -/
def endsToken (byte : UInt8) : Bool := isSpace byte || byte == 59 || byte == 40

def firstTokenUpper (sql : Text) : Text :=
  ((trimLeft sql).takeWhile fun byte => !endsToken byte).map toUpper

def schemaKeywords : List Text :=
  [ascii "ATTACH", ascii "DETACH", ascii "CREATE", ascii "DROP", ascii "ALTER"]

def isSchemaChangingStatement (sql : Text) : Bool :=
  let token := firstTokenUpper sql
  if token.isEmpty then false else schemaKeywords.contains token

end VSQLite
