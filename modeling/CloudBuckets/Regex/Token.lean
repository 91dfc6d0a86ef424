import CloudBuckets.Regex.Refusal

/-! The tokens of a regular expression: single characters, and pairs of a backslash and the
character behind it. -/

namespace CloudBuckets.Regex

/-- A token. A backslash with nothing behind it can only be the last one. -/
inductive Token
  | plain (c : Char)
  | escaped (c : Char)
  | dangling
deriving DecidableEq, Repr

namespace Token

/-- The characters of a token. -/
def text : Token → List Char
  | .plain c => [c]
  | .escaped c => ['\\', c]
  | .dangling => ['\\']

/-- The tokens of a text. -/
def ofText : List Char → List Token
  | [] => []
  | ['\\'] => [.dangling]
  | '\\' :: c :: rest => .escaped c :: ofText rest
  | c :: rest => .plain c :: ofText rest

end Token

/-- The tokens that are left, and the position of the first of them. -/
structure Cursor where
  position : Nat
  tokens : List Token
deriving DecidableEq, Repr

/-- A result, or the reason why the expression is refused. -/
abbrev Parse := Except Refusal

/-- Refuses with a problem at a position. -/
def fail {α : Type} (problem : Problem) (position : Nat) : Parse α :=
  .error (.malformed problem (some position))

namespace Cursor

/-- The cursor itself, unless a dangling backslash comes next. -/
def checked (c : Cursor) : Parse Cursor :=
  match c.tokens with
  | .dangling :: _ => fail .danglingEscape c.position
  | _ => .ok c

/-- The cursor at the start of a text. -/
def start (pattern : List Char) : Parse Cursor :=
  checked ⟨0, Token.ofText pattern⟩

/-- The next token, with the cursor behind it. -/
def next (c : Cursor) : Parse (Option Token × Cursor) :=
  match c.tokens with
  | [] => .ok (none, c)
  | token :: rest => do
      return (some token, ← checked ⟨c.position + token.text.length, rest⟩)

/-- Whether a given plain character comes next. -/
def sees (c : Cursor) (expected : Char) : Bool :=
  c.tokens.head? == some (.plain expected)

/-- Moves behind a given plain character if it comes next, and says so. -/
def skip (c : Cursor) (expected : Char) : Parse (Bool × Cursor) :=
  if c.sees expected then do
    let (_, after) ← c.next
    return (true, after)
  else .ok (false, c)

/-- At most `limit` plain characters that satisfy a condition. -/
def take (c : Cursor) (accepts : Char → Bool) : Nat → Parse (List Char × Cursor)
  | 0 => .ok ([], c)
  | limit + 1 =>
      match c.tokens with
      | .plain first :: _ =>
          if accepts first then do
            let (_, after) ← c.next
            let (more, last) ← after.take accepts limit
            return (first :: more, last)
          else .ok ([], c)
      | _ => .ok ([], c)

/-- All plain characters up to the first that does not satisfy a condition. -/
def takeAll (c : Cursor) (accepts : Char → Bool) : Parse (List Char × Cursor) :=
  c.take accepts c.tokens.length

/-- The text up to a terminator that begins within `limit` tokens, without it; it must not be
empty. `what` names the text, and `size` is the length of what was read before. -/
def nameWithin (terminator : Char) (what : String) (size : Nat) (c : Cursor)
    : Nat → Parse (List Char × Cursor)
  | 0 => fail (if size = 0 then .missing what else .unterminatedName terminator)
      (c.position - size)
  | limit + 1 => do
      match ← c.next with
      | (none, after) =>
          fail (if size = 0 then .missing what else .unterminatedName terminator)
            (after.position - size)
      | (some token, after) =>
          if token = .plain terminator then
            if size = 0 then fail (.missing what) (after.position - 1)
            else return ([], after)
          else
            let (more, last) ←
              nameWithin terminator what (size + token.text.length) after limit
            return (token.text ++ more, last)

/-- The text up to a terminator. -/
def name (c : Cursor) (terminator : Char) (what : String) : Parse (List Char × Cursor) :=
  nameWithin terminator what 0 c (c.tokens.length + 1)

end Cursor

end CloudBuckets.Regex
