import CloudBuckets.Text.Blank
import CloudBuckets.Text.DecimalDigit
import CloudBuckets.Text.LetterCase
import CloudBuckets.Text.Word

/-! Tests of single characters: literals, classes and the dot, with or without regard to letter
case. Characters of a pattern are code points, since an escape may name one that no text holds. -/

namespace CloudBuckets.Regex

/-- How letters are read: over ASCII or over every script, and with or without their case. -/
structure Lettering where
  plain : Bool
  foldCase : Bool
deriving DecidableEq, Repr

/-- The code point under which a character is looked up. -/
def Lettering.fold (l : Lettering) (code : Nat) : Nat :=
  if !l.foldCase then code
  else if l.plain then Text.plainLowerCode code
  else Text.lowerCode code

/-- A named class of characters. -/
inductive Category
  | digit
  | blank
  | word
deriving DecidableEq, Repr

/-- Membership in a named class, over ASCII if `plain` is set. -/
def Category.contains (plain : Bool) (c : Char) : Category → Bool
  | .digit => if plain then c.isDigit else Text.isDigit c
  | .blank => if plain then Text.isPlainBlank c else Text.isBlank c
  | .word => if plain then Text.isPlainWord c else Text.isWord c

/-- A member of a bracketed class. -/
inductive Member
  | code (code : Nat)
  | range (first last : Nat)
  | category (kind : Category) (negated : Bool)
deriving DecidableEq, Repr

namespace Member

/-- The first code point outside the basic plane. -/
def planeSize : Nat := 0x10000

/-- The code points that fold to `code` over ASCII. -/
def plainSources (code : Nat) : List Nat :=
  [code, code - 0x20].filter fun source => Text.plainLowerCode source == code

/-- Whether some code point from `first` to `last` folds to `code`. Where the range leaves the
basic plane, the letter itself and its upper-case form are looked up too. -/
def rangeHolds (l : Lettering) (first last code : Nat) : Bool :=
  let within (n : Nat) : Bool := first ≤ n && n ≤ last
  if !l.foldCase then within code
  else
    (if l.plain then (plainSources code).any within
      else (Text.siblings code).any fun sibling => (Text.lowerSources sibling).any within)
    || (planeSize ≤ last && (within code || within (Text.upperCode code)))

/-- Whether a folded code point belongs to a member. Outside the basic plane a single letter of a
class stands for itself alone. -/
def holds (l : Lettering) (code : Nat) : Member → Bool
  | .category kind negated => kind.contains l.plain (Char.ofNat code) != negated
  | .range first last => rangeHolds l first last code
  | .code given =>
      if !l.foldCase then code == given
      else if l.plain then code == Text.plainLowerCode given
      else if Text.lowerCode given < planeSize then
        (Text.siblings (Text.lowerCode given)).contains code
      else code == given

end Member

/-- A test of one character. -/
inductive CharTest
  /-- Every character. -/
  | any
  /-- Every character but the newline. -/
  | anyInLine
  /-- One letter, or every other one. -/
  | single (lettering : Lettering) (code : Nat) (negated : Bool)
  /-- The members of a class, or all that are no member. -/
  | oneOf (lettering : Lettering) (members : List Member) (negated : Bool)
deriving DecidableEq, Repr

namespace CharTest

/-- Whether a letter agrees with a letter of the pattern. -/
def sameLetter (l : Lettering) (given code : Nat) : Bool :=
  if l.foldCase && !l.plain then
    (Text.siblings (Text.lowerCode given)).contains (Text.lowerCode code)
  else l.fold given == l.fold code

/-- Whether a character passes a test. -/
def accepts (c : Char) : CharTest → Bool
  | .any => true
  | .anyInLine => c != '\n'
  | .single l code negated => sameLetter l code c.toNat != negated
  | .oneOf l members negated => members.any (·.holds l (l.fold c.toNat)) != negated

end CharTest

end CloudBuckets.Regex
