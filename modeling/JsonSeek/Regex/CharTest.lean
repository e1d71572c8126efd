import JsonSeek.Text.Alphanumeric
import JsonSeek.Text.Blank
import JsonSeek.Text.CaseClass
import JsonSeek.Text.Digit

/-!
# Tests on single characters

The smallest parts of a pattern accept or reject one character: a literal, the dot, or a set of
literals, ranges and classes. When case is ignored, a test is made on the lower case of the
character, against the lower case of what the pattern names; sets in which nothing has case are
tested as they are. Code points are naturals, so that a pattern can name one that no text holds.
-/

namespace JsonSeek.Regex

/-- How case is treated: it counts, it is ignored for ASCII letters, or it is ignored. -/
inductive Folding
  | exact
  | ascii
  | unicode
deriving DecidableEq

/-- The classes of characters that have a name of one letter. -/
inductive CharClass
  | digit
  | space
  | word
deriving DecidableEq

/-- Whether a code point belongs to a class, among all characters or among ASCII alone. -/
def CharClass.holds (asciiOnly : Bool) (kind : CharClass) (n : Nat) : Bool :=
  let c := Char.ofNat n
  match kind with
  | digit => if asciiOnly then c.isDigit else Text.isDecimal c
  | space => if asciiOnly then Text.isPlainBlank c else Text.isBlank c
  | word => if asciiOnly then c.isAlphanum || c == '_' else Text.isWordChar c

/-- A member of a set of characters. -/
inductive SetItem
  | literal (n : Nat)
  | range (first last : Nat)
  | named (negated asciiOnly : Bool) (kind : CharClass)
deriving DecidableEq

/-- The lower case under a folding. -/
def Folding.lower : Folding → Nat → Nat
  | exact, n => n
  | ascii, n => Text.lowerAscii n
  | unicode, n => Text.lowerCode n

/-- Whether a folding relates a code point to another one. -/
def Folding.hasCase : Folding → Nat → Bool
  | exact, _ => false
  | ascii, n => Text.lowerAscii n != n || Text.upperAscii n != n
  | unicode, n => Text.hasCase n

/-- The other lower case code points that count as equal to a lower case one. -/
def Folding.fellows : Folding → Nat → List Nat
  | unicode, n => Text.caseFellows n
  | exact, _ | ascii, _ => []

/-- The code points with a given lower case. -/
def Folding.origins : Folding → Nat → List Nat
  | exact, n => [n]
  | ascii, n => if 97 ≤ n && n ≤ 122 then [n, n - 32] else [n]
  | unicode, n => Text.lowerOrigins n

/-- The first code point beyond the basic plane. -/
def basicEnd : Nat := 0x10000

/-- Whether one of the `count` code points from `first` on has case. -/
def anyCased (folding : Folding) (first : Nat) : (count : Nat) → Bool
  | 0 => false
  | count + 1 => folding.hasCase (first + count) || anyCased folding first count

/-- Whether a set with this member is tested on lower case: the member has case, or lies beyond the
basic plane. -/
def SetItem.needsLower (folding : Folding) : SetItem → Bool
  | literal n => folding != .exact && (basicEnd ≤ folding.lower n || folding.hasCase n)
  | range first last =>
    folding != .exact && (basicEnd ≤ last || anyCased folding first (last + 1 - first))
  | named .. => false

/-- Whether a member names the code point itself. -/
def SetItem.holds (n : Nat) : SetItem → Bool
  | literal m => n == m
  | range first last => first ≤ n && n ≤ last
  | named negated asciiOnly kind => kind.holds asciiOnly n != negated

/-- Whether a member names a code point with the given lower case. Beyond the basic plane a
literal is compared as it stands, and a range also with the upper case. -/
def SetItem.holdsLower (folding : Folding) (lower : Nat) : SetItem → Bool
  | literal m =>
    if basicEnd ≤ folding.lower m then lower == m
    else (lower :: folding.fellows lower).contains (folding.lower m)
  | range first last =>
    let inRange (n : Nat) : Bool := first ≤ n && n ≤ last
    let fromBasic := (lower :: folding.fellows lower).any fun n =>
      (folding.origins n).any fun origin => origin < basicEnd && inRange origin
    fromBasic || (basicEnd ≤ last && (inRange lower || inRange (Text.upperCode lower)))
  | named negated asciiOnly kind => kind.holds asciiOnly lower != negated

/-- A test on one character. A set says whether it is tested on lower case. -/
inductive CharTest
  | any (lineFeeds : Bool)
  | literal (folding : Folding) (negated : Bool) (n : Nat)
  | set (folding : Folding) (onLower negated : Bool) (items : List SetItem)
deriving DecidableEq

/-- The test by a set with the given members. -/
def CharTest.ofSet (folding : Folding) (negated : Bool) (items : List SetItem) : CharTest :=
  set folding (items.any (·.needsLower folding)) negated items

/-- Whether a literal of the pattern accepts a code point. -/
def literalHolds (folding : Folding) (wanted n : Nat) : Bool :=
  if folding.hasCase wanted then
    let lower := folding.lower wanted
    (lower :: folding.fellows lower).contains (folding.lower n)
  else n == wanted

/-- Whether a character can stand where a test follows, as far as a literal that is compared as it
stands decides it. -/
def CharTest.allowsLiteral (test : CharTest) (c : Option Char) : Bool :=
  match test with
  | literal folding false n => folding.hasCase n || c.any (·.toNat == n)
  | _ => true

/-- Whether a character can stand where a test follows, as far as a literal or a set decides it that
is compared as it stands. -/
def CharTest.allows (test : CharTest) (c : Option Char) : Bool :=
  match test with
  | set _ false negated items => c.any fun c => items.any (·.holds c.toNat) != negated
  | test => test.allowsLiteral c

/-- Whether a test is made by comparing the lower case of characters with several others. -/
def CharTest.isLowered : CharTest → Bool
  | any _ => false
  | literal folding _ n => folding.hasCase n && !(folding.fellows (folding.lower n)).isEmpty
  | set _ onLower _ _ => onLower

/-- Whether a test accepts a character. -/
def CharTest.accepts (test : CharTest) (c : Char) : Bool :=
  match test with
  | any lineFeeds => lineFeeds || c != '\n'
  | literal folding negated n => literalHolds folding n c.toNat != negated
  | set folding true negated items =>
    items.any (·.holdsLower folding (folding.lower c.toNat)) != negated
  | set _ false negated items => items.any (·.holds c.toNat) != negated

/-! ## Searching for the first character -/

/-- Whether a member has case, or may have. -/
def SetItem.mayHaveCase (folding : Folding) : SetItem → Bool
  | literal n => folding.hasCase n
  | range first last =>
    folding != .exact && (basicEnd ≤ last || anyCased folding first (last + 1 - first))
  | named .. => false

/-- A member whose class is read among ASCII characters alone or among all. -/
def SetItem.readAs (asciiOnly : Bool) : SetItem → SetItem
  | named negated _ kind => named negated asciiOnly kind
  | item => item

/-- The set that a search looks for when a pattern begins with a set without case. Its classes are
read as in the pattern as a whole, whatever the flags of the group where the set stands. -/
def CharTest.searchSet? (asciiOnly : Bool) : CharTest → Option CharTest
  | set folding _ negated items =>
    if items.any (·.mayHaveCase folding) then none
    else some (set .exact false negated (items.map (·.readAs asciiOnly)))
  | _ => none

end JsonSeek.Regex
