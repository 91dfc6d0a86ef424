import CloudBuckets.Text.Printable

/-! The quoted form of a text: one line of printable characters between quotes. Single quotes are
used unless the text holds a single quote and no double quote. -/

namespace CloudBuckets.Text

namespace Quoted

/-- A number in base sixteen, padded with zeros to a width. -/
def hexadecimal (width code : Nat) : List Char :=
  let digits := Nat.toDigits 16 code
  List.replicate (width - digits.length) '0' ++ digits

/-- The form of one character between the given quotes. -/
def encodeChar (quote c : Char) : List Char :=
  if c == quote || c == '\\' then ['\\', c]
  else if c == '\n' then ['\\', 'n']
  else if c == '\r' then ['\\', 'r']
  else if c == '\t' then ['\\', 't']
  else if isPrintable c then [c]
  else if c.toNat < 0x100 then '\\' :: 'x' :: hexadecimal 2 c.toNat
  else if c.toNat < 0x10000 then '\\' :: 'u' :: hexadecimal 4 c.toNat
  else '\\' :: 'U' :: hexadecimal 8 c.toNat

/-- The quote that surrounds a text. -/
def quoteOf (text : List Char) : Char :=
  if text.contains '\'' && !text.contains '"' then '"' else '\''

/-- A text between its quotes, every character in its encoded form. -/
def encode (text : List Char) : List Char :=
  let quote := quoteOf text
  quote :: text.flatMap (encodeChar quote) ++ [quote]

end Quoted

/-- The quoted form of a string. -/
def quoted (text : String) : String :=
  String.ofList (Quoted.encode text.toList)

end CloudBuckets.Text
