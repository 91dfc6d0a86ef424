import CloudBuckets.Regex.Token
import CloudBuckets.Text.CharacterName

/-! Escapes that name a character or a class of characters, and bracketed classes. -/

namespace CloudBuckets.Regex

/-- Whether a character is a digit in base sixteen. -/
def isHexDigit (c : Char) : Bool :=
  c.isDigit || ('a' ≤ c && c ≤ 'f') || ('A' ≤ c && c ≤ 'F')

/-- Whether a character is a digit in base eight. -/
def isOctalDigit (c : Char) : Bool :=
  '0' ≤ c && c ≤ '7'

/-- The value of a digit in a base up to sixteen. -/
def digitValue (c : Char) : Nat :=
  if c.isDigit then c.toNat - '0'.toNat
  else if 'a' ≤ c then c.toNat - 'a'.toNat + 10
  else c.toNat - 'A'.toNat + 10

/-- The number that digits denote in a base. -/
def numberIn (base : Nat) (digits : List Char) : Nat :=
  digits.foldl (fun value digit => value * base + digitValue digit) 0

/-- The signs for places. With several lines, they look at each line. -/
def Anchor.ofSign? (multiline : Bool) : Char → Option Anchor
  | '^' => some (if multiline then .lineStart else .textStart)
  | '$' => some (if multiline then .lineEnd else .lastLineEnd)
  | _ => none

namespace Escape

/-- The escapes for control characters. -/
def control? : Char → Option Nat
  | 'a' => some 7
  | 'f' => some 12
  | 'n' => some 10
  | 'r' => some 13
  | 't' => some 9
  | 'v' => some 11
  | _ => none

/-- The escapes for named classes; a capital stands for the complement. -/
def category? : Char → Option Member
  | 'd' => some (.category .digit false)
  | 'D' => some (.category .digit true)
  | 's' => some (.category .blank false)
  | 'S' => some (.category .blank true)
  | 'w' => some (.category .word false)
  | 'W' => some (.category .word true)
  | _ => none

/-- The escapes for places; `\b` and `\B` look at the words of ASCII if `plain` is set. -/
def anchor? (plain : Bool) : Char → Option Anchor
  | 'A' => some .textStart
  | 'Z' => some .textEnd
  | 'b' => some (.wordEdge plain)
  | 'B' => some (.notWordEdge plain)
  | _ => none

/-- The largest value of an octal escape. -/
def octalLimit : Nat := 0o377

/-- The largest number that is looked up as a character at all. -/
def codeLimit : Nat := 0x7FFFFFFF

/-- The largest number of a character. -/
def lastCode : Nat := 0x10FFFF

/-- A character given by exactly `count` digits in base sixteen behind a letter. -/
def hexadecimal (letter : Char) (count : Nat) (after : Cursor) : Parse (Nat × Cursor) := do
  let (digits, c) ← after.take isHexDigit count
  let text := '\\' :: letter :: digits
  if digits.length < count then fail (.incompleteEscape text) (c.position - text.length)
  else if codeLimit < numberIn 16 digits then .error .codeTooLarge
  else if lastCode < numberIn 16 digits then fail (.badEscape text) (c.position - text.length)
  else return (numberIn 16 digits, c)

/-- A character given by its name in braces. -/
def named (after : Cursor) : Parse (Nat × Cursor) := do
  let (opened, c) ← after.skip '\x7b'
  if !opened then fail (.missing "\x7b") c.position
  else
    let (name, c) ← c.name '\x7d' "character name"
    match Text.ofCharacterName? name with
    | some code => return (code, c)
    | none => fail (.undefinedCharacterName name) (c.position - (name.length + 4))

/-- A letter, digit or sign behind a backslash that stands for one character, where no special
meaning has been found. ASCII letters are reserved. -/
def single (letter : Char) (after : Cursor) : Parse (Nat × Cursor) :=
  match letter with
  | 'x' => hexadecimal letter 2 after
  | 'u' => hexadecimal letter 4 after
  | 'U' => hexadecimal letter 8 after
  | 'N' => named after
  | letter =>
      match control? letter with
      | some code => .ok (code, after)
      | none =>
          if letter.isAlpha then fail (.badEscape ['\\', letter]) (after.position - 2)
          else .ok (letter.toNat, after)

/-- An escape inside a bracketed class: digits are octal, and `\b` is the backspace. -/
def inClass (letter : Char) (after : Cursor) : Parse (Member × Cursor) := do
  match category? letter with
  | some member => return (member, after)
  | none =>
      if letter = 'b' then return (.code 8, after)
      else if isOctalDigit letter then
        let (more, c) ← after.take isOctalDigit 2
        let digits := letter :: more
        if octalLimit < numberIn 8 digits then
          fail (.octalTooLarge ('\\' :: digits)) (c.position - (digits.length + 1))
        else return (.code (numberIn 8 digits), c)
      else if letter.isDigit then fail (.badEscape ['\\', letter]) (after.position - 2)
      else
        let (code, c) ← single letter after
        return (.code code, c)

end Escape

namespace CharClass

/-- One item of a class: a character or an escape. -/
def item (token : Token) (after : Cursor) : Parse (Member × Cursor) :=
  match token with
  | .plain c => .ok (.code c.toNat, after)
  | .escaped c => Escape.inClass c after
  | .dangling => fail .danglingEscape (after.position - 1)

/-- The range between two items, which have to be characters in ascending order. -/
def range (first last : Member) (firstText lastText : List Char) (position : Nat)
    : Parse Member :=
  let refusal := fail (.badRange firstText lastText)
    (position - (firstText.length + 1 + lastText.length))
  match first, last with
  | .code low, .code high => if high < low then refusal else .ok (.range low high)
  | _, _ => refusal

/-- The members up to the closing bracket, which is an ordinary character in first place.
`start` is the position of the opening bracket, and `found` holds the members so far, the last
one first. -/
def members (start : Nat) (found : List Member) (c : Cursor) : Nat → Parse (List Member × Cursor)
  | 0 => fail .unterminatedClass start
  | limit + 1 => do
      match ← c.next with
      | (none, _) => fail .unterminatedClass start
      | (some token, c) =>
          if token = .plain ']' && !found.isEmpty then return (found.reverse, c)
          else
            let (first, c) ← item token c
            let (dashed, c) ← c.skip '-'
            if !dashed then members start (first :: found) c limit
            else
              match ← c.next with
              | (none, _) => fail .unterminatedClass start
              | (some last, c) =>
                  if last = .plain ']' then
                    return ((.code '-'.toNat :: first :: found).reverse, c)
                  else
                    let (second, c) ← item last c
                    let ranged ← range first second token.text last.text c.position
                    members start (ranged :: found) c limit

/-- The test for a class. A class of one character is that character. -/
def test (lettering : Lettering) (members : List Member) (negated : Bool) : CharTest :=
  match members.eraseDups with
  | [.code code] => .single lettering code negated
  | members => .oneOf lettering members negated

/-- The class behind an opening bracket at `start`. -/
def read (lettering : Lettering) (start : Nat) (c : Cursor) : Parse (CharTest × Cursor) := do
  let (negated, c) ← c.skip '^'
  let (found, c) ← members start [] c (c.tokens.length + 1)
  return (test lettering found negated, c)

end CharClass

end CloudBuckets.Regex
