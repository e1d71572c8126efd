import JsonSeek.Regex.CharTest

/-!
# Lexemes of a pattern text

A pattern text is read in lexemes: a character, or a backslash with the character that it escapes. A
backslash at the end escapes nothing.
-/

namespace JsonSeek.Regex

/-- What a pattern text is made of. -/
inductive Lexeme
  | plain (c : Char)
  | escaped (c : Char)
  | dangling
deriving DecidableEq

/-- The lexemes of a text. -/
def lexemes : List Char → List Lexeme
  | [] => []
  | ['\\'] => [.dangling]
  | '\\' :: c :: rest => .escaped c :: lexemes rest
  | c :: rest => .plain c :: lexemes rest

/-- The text of a lexeme. -/
def Lexeme.text : Lexeme → List Char
  | plain c => [c]
  | escaped c => ['\\', c]
  | dangling => ['\\']

/-- Why a text is no pattern. -/
inductive Fault
  | malformed
  | repetitionTooLarge
  | codePointTooLarge
  | conflictingFlags
deriving DecidableEq

/-- The longest run of at most `limit` plain characters of a class, and the lexemes behind it. -/
def takePlain (inside : Char → Bool) : (limit : Nat) → List Lexeme → List Char × List Lexeme
  | limit + 1, .plain c :: rest =>
    if inside c then
      let (run, rest) := takePlain inside limit rest
      (c :: run, rest)
    else ([], .plain c :: rest)
  | _, rest => ([], rest)

/-- The text up to a terminator, which must be there, and the lexemes behind it. The text may not be
empty. -/
def takeUntil (terminator : Char) : List Lexeme → Except Fault (List Char × List Lexeme)
  | lexemes =>
    match go lexemes with
    | some (first :: text, rest) => .ok (first :: text, rest)
    | _ => .error .malformed
where
  /-- The text up to the terminator, if that is there. -/
  go : List Lexeme → Option (List Char × List Lexeme)
    | [] => none
    | lexeme :: rest =>
      if lexeme = .plain terminator then some ([], rest)
      else (go rest).map fun (text, rest) => (lexeme.text ++ text, rest)

/-- The value of a digit in base sixteen. -/
def hexDigit (c : Char) : Nat :=
  if c.isDigit then c.toNat - 48 else if 'a' ≤ c then c.toNat - 87 else c.toNat - 55

/-- The number that digits write in a base of at most sixteen. -/
def numberIn (base : Nat) (digits : List Char) : Nat :=
  digits.foldl (fun n c => base * n + hexDigit c) 0

def isHexDigit (c : Char) : Bool :=
  c.isDigit || ('a' ≤ c && c ≤ 'f') || ('A' ≤ c && c ≤ 'F')

def isOctalDigit (c : Char) : Bool := '0' ≤ c && c ≤ '7'

/-- The code point of an escape with exactly the given number of hexadecimal digits. -/
def readHex (digits : Nat) (rest : List Lexeme) : Except Fault (Nat × List Lexeme) :=
  let (run, rest) := takePlain isHexDigit digits rest
  if run.length = digits then .ok (numberIn 16 run, rest) else .error .malformed

/-- The code point of an escape with eight hexadecimal digits. Beyond Unicode there is none, and
numbers beyond 31 bits are refused for their size. -/
def readLongHex (rest : List Lexeme) : Except Fault (Nat × List Lexeme) :=
  match readHex 8 rest with
  | .error fault => .error fault
  | .ok (n, rest) =>
    if 0x7fffffff < n then .error .codePointTooLarge
    else if 0x10ffff < n then .error .malformed
    else .ok (n, rest)

/-- The control character of an escape letter. -/
def controlEscape? : Char → Option Nat
  | 'a' => some 7
  | 'f' => some 12
  | 'n' => some 10
  | 'r' => some 13
  | 't' => some 9
  | 'v' => some 11
  | _ => none

/-- The class of an escape letter, and whether it is negated. -/
def classEscape? : Char → Option (Bool × CharClass)
  | 'd' => some (false, .digit)
  | 'D' => some (true, .digit)
  | 's' => some (false, .space)
  | 'S' => some (true, .space)
  | 'w' => some (false, .word)
  | 'W' => some (true, .word)
  | _ => none

/-- The code point of an escape that means the same inside and outside of sets, if it is one. An
escaped letter without a meaning is refused; any other character stands for itself. Escapes that
give the name of a character, as in `\N{DIGIT ONE}`, are left out, so that `N` has no meaning. -/
def readLiteralEscape (c : Char) (rest : List Lexeme) : Except Fault (Nat × List Lexeme) :=
  match controlEscape? c with
  | some n => .ok (n, rest)
  | none =>
    match c with
    | 'x' => readHex 2 rest
    | 'u' => readHex 4 rest
    | 'U' => readLongHex rest
    | _ => if c.isAlphanum then .error .malformed else .ok (c.toNat, rest)

/-- The member of a set that an escape means. -/
def readSetEscape (asciiOnly : Bool) (c : Char) (rest : List Lexeme) :
    Except Fault (SetItem × List Lexeme) :=
  match classEscape? c with
  | some (negated, kind) => .ok (.named negated asciiOnly kind, rest)
  | none =>
    if c = 'b' then .ok (.literal 8, rest)
    else if isOctalDigit c then
      let (more, rest) := takePlain isOctalDigit 2 rest
      let n := numberIn 8 (c :: more)
      if 0o377 < n then .error .malformed else .ok (.literal n, rest)
    else
      match readLiteralEscape c rest with
      | .error fault => .error fault
      | .ok (n, rest) => .ok (.literal n, rest)

/-- The member of a set at the front of the lexemes, a range apart. -/
def readSetMember (asciiOnly : Bool) : List Lexeme → Except Fault (SetItem × List Lexeme)
  | .plain c :: rest => .ok (.literal c.toNat, rest)
  | .escaped c :: rest => readSetEscape asciiOnly c rest
  | .dangling :: _ | [] => .error .malformed

/-- The members of a set up to its closing bracket; `done` holds the earlier ones, reversed. A
closing bracket in the first place is a member. -/
def readSetItems (asciiOnly : Bool) : (fuel : Nat) → (done : List SetItem) → List Lexeme →
    Except Fault (List SetItem × List Lexeme)
  | 0, _, _ => .error .malformed
  | fuel + 1, done, lexemes =>
    match done, lexemes with
    | _ :: _, .plain ']' :: rest => .ok (done.reverse, rest)
    | _, _ =>
      match readSetMember asciiOnly lexemes with
      | .error fault => .error fault
      | .ok (item, .plain '-' :: .plain ']' :: rest) =>
        .ok ((.literal '-'.toNat :: item :: done).reverse, rest)
      | .ok (item, .plain '-' :: rest) =>
        match item, readSetMember asciiOnly rest with
        | .literal first, .ok (.literal last, rest) =>
          if last < first then .error .malformed
          else readSetItems asciiOnly fuel (.range first last :: done) rest
        | _, .error fault => .error fault
        | _, .ok _ => .error .malformed
      | .ok (item, rest) => readSetItems asciiOnly fuel (item :: done) rest

/-- A set behind its opening bracket. A set of one literal is that literal. -/
def readSet (folding : Folding) (asciiOnly : Bool) (lexemes : List Lexeme) :
    Except Fault (CharTest × List Lexeme) :=
  let (negated, body) := match lexemes with
    | .plain '^' :: rest => (true, rest)
    | _ => (false, lexemes)
  match readSetItems asciiOnly (body.length + 1) [] body with
  | .error fault => .error fault
  | .ok (items, rest) =>
    match items.eraseDups with
    | [.literal n] => .ok (.literal folding negated n, rest)
    | items => .ok (.ofSet folding negated items, rest)

end JsonSeek.Regex
