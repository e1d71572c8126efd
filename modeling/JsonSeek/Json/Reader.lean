import JsonSeek.Text.Numeral
import JsonSeek.Value.Basic

/-!
# Reading JSON text

`Json.read` accepts JSON with three extensions: the words `NaN`, `Infinity` and `-Infinity`. A
number with a fraction or an exponent is a double, any other number an unbounded integer. A
repeated key keeps its first position and its last value. Numbers may have any number of digits, and
values may be nested to any depth.

A failure names its reason and the place where it was noticed. While reading, that place is the
rest of the text; its offset is computed once, at the end.
-/

namespace JsonSeek.Json

/-- What is wrong with a text that is not JSON. -/
inductive Reason
  | byteOrderMark
  | value
  | propertyName
  | colon
  | comma
  | unterminatedString
  | controlCharacter
  | escape
  | unicodeEscape
  | extraData
deriving DecidableEq

/-- The wording of a reason. -/
def Reason.message : Reason → String
  | byteOrderMark => "Unexpected UTF-8 BOM (decode using utf-8-sig)"
  | value => "Expecting value"
  | propertyName => "Expecting property name enclosed in double quotes"
  | colon => "Expecting ':' delimiter"
  | comma => "Expecting ',' delimiter"
  | unterminatedString => "Unterminated string starting at"
  | controlCharacter => "Invalid control character at"
  | escape => "Invalid \\escape"
  | unicodeEscape => "Invalid \\uXXXX escape"
  | extraData => "Extra data"

/-- A reason with the line and the column, both from one, where it was noticed. -/
structure Failure where
  reason : Reason
  line : Nat
  column : Nat

/-- The wording of a failure. -/
def Failure.message (f : Failure) : String :=
  "Invalid JSON at line " ++ toString f.line ++ ", column " ++ toString f.column ++ ": " ++
    f.reason.message

/-- A reason with the rest of the text from the place where it was noticed. -/
structure Stop where
  reason : Reason
  rest : List Char

/-- Whether a character may separate the parts of a JSON text. -/
def isSeparatorBlank (c : Char) : Bool := c == ' ' || c == '\t' || c == '\n' || c == '\r'

def skipBlanks (s : List Char) : List Char := s.dropWhile isSeparatorBlank

/-- The value of a hexadecimal digit. -/
def hexValue? (c : Char) : Option Nat :=
  if c.isDigit then some (c.toNat - 48)
  else if 'a' ≤ c && c ≤ 'f' then some (c.toNat - 87)
  else if 'A' ≤ c && c ≤ 'F' then some (c.toNat - 55)
  else none

/-- The number that four hexadecimal digits write. -/
def hexQuad? (a b c d : Char) : Option Nat :=
  match hexValue? a, hexValue? b, hexValue? c, hexValue? d with
  | some a, some b, some c, some d => some (a * 4096 + b * 256 + c * 16 + d)
  | _, _, _, _ => none

/-- The character that stands for the escape letter. -/
def escapedChar? : Char → Option Char
  | '"' => some '"'
  | '\\' => some '\\'
  | '/' => some '/'
  | 'b' => some '\x08'
  | 'f' => some '\x0c'
  | 'n' => some '\n'
  | 'r' => some '\r'
  | 't' => some '\t'
  | _ => none

/-- The character of a code unit that is no part of a surrogate pair. A lone surrogate is no character
and is replaced by U+FFFD, so that texts which differ only in such surrogates are read alike. -/
def unitChar (n : Nat) : Char := if 0xd800 ≤ n && n < 0xe000 then '\ufffd' else Char.ofNat n

/-- The character of an escape with four hexadecimal digits, and the text behind it. `s` is the text
from the escape letter on. The escape may not be the end of the text. Two escapes that are a
surrogate pair are one character. -/
def readUnicodeEscape (s : List Char) : Except Stop (Char × List Char) :=
  match s with
  | _ :: a :: b :: c :: d :: next :: rest =>
    match hexQuad? a b c d with
    | none => .error ⟨.unicodeEscape, s⟩
    | some high =>
      if 0xd800 ≤ high && high < 0xdc00 then
        match next :: rest with
        | '\\' :: 'u' :: a :: b :: c :: d :: after :: more =>
          match hexQuad? a b c d with
          | none => .error ⟨.unicodeEscape, (next :: rest).drop 1⟩
          | some low =>
            if 0xdc00 ≤ low && low < 0xe000 then
              .ok (Char.ofNat (0x10000 + (high - 0xd800) * 0x400 + (low - 0xdc00)), after :: more)
            else .ok (unitChar high, next :: rest)
        | _ => .ok (unitChar high, next :: rest)
      else .ok (unitChar high, next :: rest)
  | _ => .error ⟨.unicodeEscape, s⟩

/-- The characters of a string up to its closing quote, and the text behind it. `start` is the text
from the opening quote on, `done` what has been read, reversed. -/
def readChars (start : List Char) : (fuel : Nat) → (done : List Char) → List Char →
    Except Stop (List Char × List Char)
  | 0, _, _ => .error ⟨.unterminatedString, start⟩
  | fuel + 1, done, s =>
    match s with
    | [] => .error ⟨.unterminatedString, start⟩
    | '"' :: rest => .ok (done.reverse, rest)
    | ['\\'] => .error ⟨.unterminatedString, start⟩
    | '\\' :: 'u' :: rest =>
      match readUnicodeEscape ('u' :: rest) with
      | .error stop => .error stop
      | .ok (c, rest) => readChars start fuel (c :: done) rest
    | '\\' :: c :: rest =>
      match escapedChar? c with
      | none => .error ⟨.escape, s⟩
      | some plain => readChars start fuel (plain :: done) rest
    | c :: rest =>
      if c.toNat < 0x20 then .error ⟨.controlCharacter, s⟩
      else readChars start fuel (c :: done) rest

/-- A string at the front of the text, from its opening quote on. -/
def readString (s : List Char) : Except Stop (String × List Char) :=
  match readChars s (s.length + 1) [] (s.drop 1) with
  | .error stop => .error stop
  | .ok (chars, rest) => .ok (String.ofList chars, rest)

/-- The exponent at the front of a text, if there is one, and what follows. -/
def readExponent (s : List Char) : Option (Int × List Char) :=
  match s with
  | mark :: rest =>
    if mark == 'e' || mark == 'E' then
      let (negative, rest) := Text.splitSign rest
      let (digits, rest) := Text.span Char.isDigit rest
      if digits.isEmpty then none
      else
        let n : Int := Text.decimalNat digits
        some (if negative then -n else n, rest)
    else none
  | [] => none

/-- The decimal places at the front of a text, if there are any, and what follows. -/
def readPlaces (s : List Char) : List Char × List Char :=
  match s with
  | '.' :: rest =>
    let (places, after) := Text.span Char.isDigit rest
    if places.isEmpty then ([], s) else (places, after)
  | _ => ([], s)

/-- The number that starts with the given digits before the point. -/
def readFraction (negative : Bool) (whole rest : List Char) : Value × List Char :=
  let (places, rest) := readPlaces rest
  let digits := Text.decimalNat (whole ++ places)
  match readExponent rest with
  | some (exponent, rest) =>
    (.float (Binary64.ofDecimal negative digits (exponent - places.length)), rest)
  | none =>
    if places.isEmpty then (.int (if negative then -(digits : Int) else digits), rest)
    else (.float (Binary64.ofDecimal negative digits (-(places.length : Int))), rest)

/-- A number at the front of the text. A leading zero stands alone before the point. -/
def readNumber (s : List Char) : Except Stop (Value × List Char) :=
  let (negative, body) := match s with
    | '-' :: rest => (true, rest)
    | _ => (false, s)
  match body with
  | '0' :: rest => .ok (readFraction negative ['0'] rest)
  | _ =>
    let (whole, rest) := Text.span Char.isDigit body
    if whole.isEmpty then .error ⟨.value, s⟩ else .ok (readFraction negative whole rest)

mutual

/-- The value at the front of the text, and what follows it. -/
def readValue : (fuel : Nat) → List Char → Except Stop (Value × List Char)
  | 0, s => .error ⟨.value, s⟩
  | fuel + 1, s =>
    match s with
    | '"' :: _ =>
      match readString s with
      | .error stop => .error stop
      | .ok (chars, rest) => .ok (.str chars, rest)
    | '\x7b' :: rest =>
      match skipBlanks rest with
      | '\x7d' :: rest => .ok (.obj [], rest)
      | rest => readFields fuel [] rest
    | '[' :: rest =>
      match skipBlanks rest with
      | ']' :: rest => .ok (.arr [], rest)
      | rest => readItems fuel [] rest
    | 'n' :: 'u' :: 'l' :: 'l' :: rest => .ok (.null, rest)
    | 't' :: 'r' :: 'u' :: 'e' :: rest => .ok (.bool true, rest)
    | 'f' :: 'a' :: 'l' :: 's' :: 'e' :: rest => .ok (.bool false, rest)
    | 'N' :: 'a' :: 'N' :: rest => .ok (.float .nan, rest)
    | 'I' :: 'n' :: 'f' :: 'i' :: 'n' :: 'i' :: 't' :: 'y' :: rest =>
      .ok (.float (.infinite false), rest)
    | '-' :: 'I' :: 'n' :: 'f' :: 'i' :: 'n' :: 'i' :: 't' :: 'y' :: rest =>
      .ok (.float (.infinite true), rest)
    | s => readNumber s

/-- The remaining elements of an array up to its closing bracket; `done` holds the earlier ones,
reversed. -/
def readItems : (fuel : Nat) → (done : List Value) → List Char → Except Stop (Value × List Char)
  | 0, _, s => .error ⟨.value, s⟩
  | fuel + 1, done, s =>
    match readValue fuel s with
    | .error stop => .error stop
    | .ok (v, rest) =>
      match skipBlanks rest with
      | ']' :: rest => .ok (.arr (v :: done).reverse, rest)
      | ',' :: rest => readItems fuel (v :: done) (skipBlanks rest)
      | rest => .error ⟨.comma, rest⟩

/-- The remaining fields of an object up to its closing brace; `done` holds the earlier ones. -/
def readFields : (fuel : Nat) → (done : List (String × Value)) → List Char →
    Except Stop (Value × List Char)
  | 0, _, s => .error ⟨.value, s⟩
  | fuel + 1, done, s =>
    match s with
    | '"' :: _ =>
      match readString s with
      | .error stop => .error stop
      | .ok (key, rest) =>
        match skipBlanks rest with
        | ':' :: rest =>
          match readValue fuel (skipBlanks rest) with
          | .error stop => .error stop
          | .ok (v, rest) =>
            let fields := Value.setField key v done
            match skipBlanks rest with
            | '\x7d' :: rest => .ok (.obj fields, rest)
            | ',' :: rest => readFields fuel fields (skipBlanks rest)
            | rest => .error ⟨.comma, rest⟩
        | rest => .error ⟨.colon, rest⟩
    | s => .error ⟨.propertyName, s⟩

end

/-- A whole text: one value with blanks around it. -/
def readText (s : List Char) : Except Stop Value :=
  match s with
  | '\ufeff' :: _ => .error ⟨.byteOrderMark, s⟩
  | _ =>
    match readValue (2 * s.length + 2) (skipBlanks s) with
    | .error stop => .error stop
    | .ok (v, rest) =>
      match skipBlanks rest with
      | [] => .ok v
      | rest => .error ⟨.extraData, rest⟩

/-- The failure of a text, located in it. -/
def Stop.locate (text : List Char) (stop : Stop) : Failure :=
  let passed := text.take (text.length - stop.rest.length)
  { reason := stop.reason
    line := passed.count '\n' + 1
    column := (passed.reverse.takeWhile (· ≠ '\n')).length + 1 }

/-- Reads a document. -/
def read (text : String) : Except Failure Value :=
  (readText text.toList).mapError (Stop.locate text.toList)

end JsonSeek.Json
