import Mathlib.Data.Nat.Digits.Defs
import VSQLite.Command.Keyword
import VSQLite.Lib.Quoting

/-!
# JSON paths

What `path_builder` writes, and what the path parser of SQLite reads in it: a label in
quotes runs to the first quote that no backslash escapes, a doubled quote is nothing
special, and the backslash sequences in it are those of JSON.
-/

set_option autoImplicit false

namespace VSQLite
open Lib

def needsQuotedKey (key : Text) : Bool :=
  if key.isEmpty then true else key.any fun byte => !(isAlnum byte || byte == 95)

def quoteKey (key : Text) : Text := 34 :: double 34 key ++ [34]

/-- `std::to_string`. -/
def decimal (number : Nat) : Text :=
  if number = 0 then [48]
  else (Nat.digits 10 number).reverse.map fun digit => UInt8.ofNat (48 + digit)

/-- A step of a path: a call of `key` or of `index`. -/
inductive Segment where
  | key (segment : Text)
  | index (idx : Nat)
deriving DecidableEq, Repr

structure PathBuilder where
  path : Text
deriving DecidableEq, Repr

namespace PathBuilder

/-- The constructor. -/
def root : PathBuilder := ⟨[36]⟩

def key (segment : Text) (builder : PathBuilder) : PathBuilder :=
  ⟨builder.path ++ [46] ++ if needsQuotedKey segment then quoteKey segment else segment⟩

def index (idx : Nat) (builder : PathBuilder) : PathBuilder :=
  ⟨builder.path ++ [91] ++ decimal idx ++ [93]⟩

def str (builder : PathBuilder) : Text := builder.path

def extend (builder : PathBuilder) : Segment → PathBuilder
  | .key segment => builder.key segment
  | .index idx => builder.index idx

/-- The path after a sequence of calls. -/
def build (segments : List Segment) : PathBuilder := segments.foldl extend root

end PathBuilder

/-! ## The grammar of SQLite -/

def hexDigit (byte : UInt8) : Option Nat :=
  if 48 ≤ byte ∧ byte ≤ 57 then some (byte.toNat - 48)
  else if 65 ≤ byte ∧ byte ≤ 70 then some (byte.toNat - 55)
  else if 97 ≤ byte ∧ byte ≤ 102 then some (byte.toNat - 87)
  else none

/-- So many hexadecimal digits, and what stands after them. -/
def hexDigits : Nat → Nat → Text → Option (Nat × Text)
  | 0, value, text => some (value, text)
  | _ + 1, _, [] => none
  | count + 1, value, byte :: rest =>
      (hexDigit byte).bind fun digit => hexDigits count (16 * value + digit) rest

def utf8 (code : Nat) : Text :=
  if code < 0x80 then [UInt8.ofNat code]
  else if code < 0x800 then [UInt8.ofNat (0xC0 + code / 64), UInt8.ofNat (0x80 + code % 64)]
  else if code < 0x10000 then
    [UInt8.ofNat (0xE0 + code / 4096), UInt8.ofNat (0x80 + code / 64 % 64),
      UInt8.ofNat (0x80 + code % 64)]
  else
    [UInt8.ofNat (0xF0 + code / 262144), UInt8.ofNat (0x80 + code / 4096 % 64),
      UInt8.ofNat (0x80 + code / 64 % 64), UInt8.ofNat (0x80 + code % 64)]

/-- The second half of a surrogate pair. -/
def lowSurrogate : Text → Option (Nat × Text)
  | first :: second :: rest =>
      if first = 92 ∧ second = 117 then
        (hexDigits 4 0 rest).bind fun read =>
          if 0xDC00 ≤ read.1 ∧ read.1 < 0xE000 then some read else none
      else none
  | _ => none

/-- The four digits after `\u`, and those of a pair. -/
def unicodeEscape (text : Text) : Option (Text × Text) :=
  (hexDigits 4 0 text).map fun read =>
    match if 0xD800 ≤ read.1 ∧ read.1 < 0xDC00 then lowSurrogate read.2 else none with
    | some (low, later) => (utf8 (0x10000 + (read.1 - 0xD800) * 1024 + (low - 0xDC00)), later)
    | none => (utf8 read.1, read.2)

def simpleEscape (byte : UInt8) : Option UInt8 :=
  if byte = 34 ∨ byte = 92 ∨ byte = 47 then some byte
  else if byte = 98 then some 8
  else if byte = 102 then some 12
  else if byte = 110 then some 10
  else if byte = 114 then some 13
  else if byte = 116 then some 9
  else none

/-- What a backslash stands for together with what is after it. -/
def jsonEscape : Text → Option (Text × Text)
  | [] => none
  | byte :: rest =>
      if byte = 117 then unicodeEscape rest
      else (simpleEscape byte).map fun decoded => ([decoded], rest)

/-- A label without its escapes; `fuel` bounds its length. -/
def unescape : Nat → Text → Option Text
  | _, [] => some []
  | 0, _ :: _ => none
  | fuel + 1, byte :: rest =>
      if byte = 92 then
        (jsonEscape rest).bind fun read => (unescape fuel read.2).map (read.1 ++ ·)
      else (unescape fuel rest).map (byte :: ·)

/-- The label after an opening quote as it stands there, and what is after the quote that
ends it. -/
def quotedLabel : Text → Option (Text × Text)
  | [] => none
  | byte :: rest =>
      if byte = 34 then some ([], rest)
      else if byte = 92 then
        match rest with
        | [] => none
        | escaped :: later =>
            (quotedLabel later).map fun read => (92 :: escaped :: read.1, read.2)
      else (quotedLabel rest).map fun read => (byte :: read.1, read.2)

def isLabelByte (byte : UInt8) : Bool := byte != 46 && byte != 91

def readLabel : Text → Option (Segment × Text)
  | [] => none
  | byte :: rest =>
      if byte = 34 then
        (quotedLabel rest).bind fun read =>
          (unescape read.1.length read.1).map fun key => (.key key, read.2)
      else if isLabelByte byte then
        some (.key (byte :: rest.takeWhile isLabelByte), rest.dropWhile isLabelByte)
      else none

def ofDecimal (digits : Text) : Nat :=
  digits.foldl (fun value byte => 10 * value + (byte.toNat - 48)) 0

def readIndex (text : Text) : Option (Segment × Text) :=
  match text.takeWhile isDigit, text.dropWhile isDigit with
  | digit :: digits, closing :: later =>
      if closing = 93 then some (.index (ofDecimal (digit :: digits)), later) else none
  | _, _ => none

def readSegment : Text → Option (Segment × Text)
  | [] => none
  | byte :: rest =>
      if byte = 46 then readLabel rest else if byte = 91 then readIndex rest else none

def readSegments : Nat → Text → Option (List Segment)
  | _, [] => some []
  | 0, _ :: _ => none
  | fuel + 1, byte :: rest =>
      (readSegment (byte :: rest)).bind fun read =>
        (readSegments fuel read.2).map (read.1 :: ·)

/-- What SQLite's parser makes of a path; `none` is a path error. -/
def parsePath : Text → Option (List Segment)
  | [] => none
  | byte :: rest => if byte = 36 then readSegments rest.length rest else none

end VSQLite
