import CloudBuckets.Glob.Token

/-! Glob patterns as regular expressions. -/

namespace CloudBuckets.Glob

/-- The characters that a regular expression reads in a special way. -/
def specialCharacters : List Char :=
  ['(', ')', '[', ']', '\x7b', '\x7d', '?', '*', '+', '-', '|', '^', '$', '\\', '.', '&', '~', '#',
    ' ', '\t', '\n', '\r', '\x0b', '\x0c']

/-- A character as a regular expression that matches just this character. -/
def escape (c : Char) : List Char :=
  if specialCharacters.contains c then ['\\', c] else [c]

/-- The regular expression for a token. The body of a class is taken as it stands, but a leading
exclamation mark becomes a caret. -/
def Token.expression : Token → List Char
  | .literal c => escape c
  | .anyCharacter => ['[', '^', '/', ']']
  | .anyPart => ['[', '^', '/', ']', '*']
  | .anything => ['.', '*']
  | .charClass ('!' :: body) => '[' :: '^' :: body ++ [']']
  | .charClass body => '[' :: body ++ [']']
  | .openGroup => ['(', '?', ':']
  | .alternative => ['|']
  | .closeGroup => [')']

/-- The regular expression for a glob pattern. -/
def expression (pattern : List Char) : Except Refusal (List Char) :=
  (tokens pattern).map fun tokens => tokens.flatMap (·.expression)

end CloudBuckets.Glob
