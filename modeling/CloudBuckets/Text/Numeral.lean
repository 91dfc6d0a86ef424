import CloudBuckets.Text.Blank
import CloudBuckets.Text.DecimalDigit
import CloudBuckets.Text.Quoted

/-! Decimal numerals for integers: blanks, one sign, digits of any script with single underscores
between them, blanks. The information separators do not count as blanks here. A numeral has at
most `digitLimit` digits. -/

namespace CloudBuckets.Text

namespace Numeral

/-- The largest number of digits in a numeral. -/
def digitLimit : Nat := 4300

/-- Why a text is no numeral. -/
inductive Refusal
  /-- The text does not have the form of a numeral. -/
  | malformed (text : List Char)
  /-- The digits are well placed, but too many. -/
  | tooLong (digits : Nat)
deriving DecidableEq, Repr

/-- The message of a refusal. Of the quoted form of the text its first two hundred characters are
shown. -/
def Refusal.message : Refusal → String
  | malformed text =>
      "invalid literal for int() with base 10: "
        ++ String.ofList ((Quoted.encode text).take 200)
  | tooLong digits =>
      s!"Exceeds the limit ({digitLimit} digits) for integer string conversion: value has "
        ++ s!"{digits} digits; use sys.set_int_max_str_digits() to increase the limit"

/-- The blanks that may surround a numeral. -/
def isMargin (c : Char) : Bool :=
  if c.toNat < 0x7F then isPlainBlank c else isBlank c

/-- A sign and what follows it; no sign counts as plus. -/
def splitSign : List Char → Bool × List Char
  | '+' :: rest => (false, rest)
  | '-' :: rest => (true, rest)
  | rest => (false, rest)

/-- After a digit, an underscore needs another digit behind it. -/
def spacedAfterDigit : List Char → Bool
  | [] => true
  | ['_'] => false
  | '_' :: next :: rest => next != '_' && spacedAfterDigit rest
  | _ :: rest => spacedAfterDigit rest

/-- Whether every underscore stands between two digits. -/
def wellSpaced : List Char → Bool
  | [] => true
  | first :: rest => first != '_' && spacedAfterDigit rest

/-- The number that a row of digits denotes, most significant first. -/
def ofDigits (digits : List Nat) : Nat :=
  digits.foldl (fun value digit => value * 10 + digit) 0

/-- Reads a numeral. Misplaced underscores are found first, then too many digits, then anything
after the digits that is not blank. -/
def read (text : List Char) : Except Refusal Int :=
  let (negative, body) := splitSign (text.dropWhile isMargin)
  let row := body.takeWhile fun c => c == '_' || isDigit c
  let rest := body.dropWhile fun c => c == '_' || isDigit c
  let digits := row.filterMap digitValue?
  if !wellSpaced row then .error (.malformed text)
  else if digitLimit < digits.length then .error (.tooLong digits.length)
  else if digits.isEmpty || !rest.all isMargin then .error (.malformed text)
  else .ok (if negative then -(Int.ofNat (ofDigits digits)) else Int.ofNat (ofDigits digits))

end Numeral

end CloudBuckets.Text
