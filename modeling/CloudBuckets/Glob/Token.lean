/-! The tokens of a glob pattern. A backslash makes the next character literal, braces group
alternatives, and brackets enclose a class. -/

namespace CloudBuckets.Glob

/-- A token of a glob pattern. -/
inductive Token
  /-- One given character. -/
  | literal (c : Char)
  /-- One character of a component. -/
  | anyCharacter
  /-- Any part of a component. -/
  | anyPart
  /-- Anything within a line, across components. -/
  | anything
  /-- A character class, by what stands between the brackets. -/
  | charClass (body : List Char)
  | openGroup
  | alternative
  | closeGroup
deriving DecidableEq, Repr

/-- Why a text is no glob pattern. -/
inductive Refusal
  /-- The pattern ends on a backslash. -/
  | trailingEscape
  /-- A group is not closed. -/
  | unclosedGroup
deriving DecidableEq, Repr

/-- Splits a text at the first closing bracket. -/
def splitClass : List Char → Option (List Char × List Char)
  | [] => none
  | ']' :: rest => some ([], rest)
  | c :: rest => (splitClass rest).map fun (body, after) => (c :: body, after)

/-- Reads at most `limit` tokens; `grouped` tells whether a group is open. Groups do not nest: a
brace inside a group is literal, and so are a closing brace and a comma outside one. A bracket
that is never closed is literal. -/
def scan (grouped : Bool) : Nat → List Char → Except Refusal (List Token)
  | _, [] => if grouped then .error .unclosedGroup else .ok []
  | 0, _ :: _ => .ok []
  | limit + 1, c :: rest =>
      let more (token : Token) (grouped : Bool) (rest : List Char)
          : Except Refusal (List Token) :=
        return token :: (← scan grouped limit rest)
      match c with
      | '\\' =>
          match rest with
          | [] => .error .trailingEscape
          | escaped :: rest => more (.literal escaped) grouped rest
      | '*' =>
          match rest with
          | '*' :: rest => more .anything grouped rest
          | rest => more .anyPart grouped rest
      | '?' => more .anyCharacter grouped rest
      | '\x7b' => if grouped then more (.literal c) grouped rest else more .openGroup true rest
      | '\x7d' => if grouped then more .closeGroup false rest else more (.literal c) grouped rest
      | ',' => if grouped then more .alternative grouped rest else more (.literal c) grouped rest
      | '[' =>
          match splitClass rest with
          | some (body, rest) => more (.charClass body) grouped rest
          | none => more (.literal c) grouped rest
      | c => more (.literal c) grouped rest

/-- The tokens of a glob pattern. -/
def tokens (pattern : List Char) : Except Refusal (List Token) :=
  scan false pattern.length pattern

end CloudBuckets.Glob
