/-!
# Decoding UTF-8

A sequence of bytes is decoded from the front. It fails at the first place where no character can
be read, and says which byte begins there and why: the byte cannot begin a character, a byte that
should continue the character does not, or the bytes end too soon.
-/

namespace JsonSeek.Text

/-- Why no character can be read at some place. -/
inductive Utf8Cause
  | invalidStart
  | invalidContinuation
  | unexpectedEnd
deriving DecidableEq

/-- The bytes from `start` on, `width` of them, are no character. -/
structure Utf8Fault where
  cause : Utf8Cause
  start : Nat
  width : Nat
  byte : UInt8
deriving DecidableEq

/-- The least and the greatest second byte behind a first byte, and the number of bytes in all.
Bytes that only begin too long spellings, surrogates, or code points out of range are left out. -/
def sequenceOf? (first : UInt8) : Option (Nat × UInt8 × UInt8) :=
  if first < 0xc2 then none
  else if first < 0xe0 then some (2, 0x80, 0xbf)
  else if first = 0xe0 then some (3, 0xa0, 0xbf)
  else if first = 0xed then some (3, 0x80, 0x9f)
  else if first < 0xf0 then some (3, 0x80, 0xbf)
  else if first = 0xf0 then some (4, 0x90, 0xbf)
  else if first < 0xf4 then some (4, 0x80, 0xbf)
  else if first = 0xf4 then some (4, 0x80, 0x8f)
  else none

/-- Whether a byte continues a character. -/
def isContinuation (b : UInt8) : Bool := 0x80 ≤ b && b ≤ 0xbf

/-- The payload of a byte that continues a character. -/
def payload (b : UInt8) : Nat := b.toNat % 64

/-- The code point of the sequence that a first byte begins, with its number of bytes and the bytes
behind it, or the cause of the failure with the number of bytes that belong to it. -/
def decodeSequence (first : UInt8) (rest : List UInt8) :
    Except (Utf8Cause × Nat) (Nat × Nat × List UInt8) :=
  match sequenceOf? first with
  | none => .error (.invalidStart, 1)
  | some (length, low, high) =>
    match rest with
    | [] => .error (.unexpectedEnd, 1)
    | b :: rest =>
      if b < low || high < b then .error (.invalidContinuation, 1)
      else if length = 2 then .ok (first.toNat % 32 * 64 + payload b, 2, rest)
      else
        match rest with
        | [] => .error (.unexpectedEnd, 2)
        | c :: rest =>
          if !isContinuation c then .error (.invalidContinuation, 2)
          else if length = 3 then
            .ok (first.toNat % 16 * 4096 + payload b * 64 + payload c, 3, rest)
          else
            match rest with
            | [] => .error (.unexpectedEnd, 3)
            | d :: rest =>
              if !isContinuation d then .error (.invalidContinuation, 3)
              else
                .ok (first.toNat % 8 * 262144 + payload b * 4096 + payload c * 64 + payload d, 4,
                  rest)

/-- Decodes bytes whose first one has the given offset; the characters in front of them are given in
reverse. Every round uses up a byte. -/
def decodeFrom : (fuel offset : Nat) → (before : List Char) → List UInt8 →
    Except Utf8Fault (List Char)
  | 0, _, before, _ => .ok before.reverse
  | fuel + 1, offset, before, bytes =>
    match bytes with
    | [] => .ok before.reverse
    | first :: rest =>
      if first < 0x80 then decodeFrom fuel (offset + 1) (Char.ofNat first.toNat :: before) rest
      else
        match decodeSequence first rest with
        | .error (cause, width) => .error ⟨cause, offset, width, first⟩
        | .ok (codePoint, width, behind) =>
          decodeFrom fuel (offset + width) (Char.ofNat codePoint :: before) behind

/-- Decodes a sequence of bytes. -/
def decodeUtf8 (bytes : List UInt8) : Except Utf8Fault (List Char) :=
  decodeFrom bytes.length 0 [] bytes

end JsonSeek.Text
