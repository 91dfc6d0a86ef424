import CloudBuckets.Regex.Token
import CloudBuckets.Text.Letter

/-! Flags inside an expression: those for the whole expression, and those switched on and off for
a group. -/

namespace CloudBuckets.Regex

/-- A flag. -/
inductive Flag
  | ignoreCase
  | locale
  | multiline
  | dotAll
  | verbose
  /-- Classes and letter case are those of ASCII. -/
  | plain
  /-- Classes and letter case are those of every script. -/
  | unicode
  /-- Repetitions are forbidden. -/
  | template
deriving DecidableEq, Repr

/-- A set of flags. -/
abbrev Flags := List Flag

namespace Flag

/-- The flag with a given letter. -/
def ofChar? : Char → Option Flag
  | 'i' => some ignoreCase
  | 'L' => some locale
  | 'm' => some multiline
  | 's' => some dotAll
  | 'x' => some verbose
  | 'a' => some plain
  | 'u' => some unicode
  | 't' => some template
  | _ => none

/-- Whether a flag chooses the letters that count; two such flags exclude each other. -/
def choosesAlphabet (flag : Flag) : Bool :=
  flag == plain || flag == unicode || flag == locale

end Flag

namespace Flags

/-- The flags inside a group that switches some on and some off. A choice of letters replaces the
earlier one. -/
def switch (flags on off : Flags) : Flags :=
  let kept := if on.any (·.choosesAlphabet) then flags.filter (!·.choosesAlphabet) else flags
  (kept ++ on).filter (!off.contains ·)

/-- How letters are read under some flags. -/
def lettering (flags : Flags) : Lettering :=
  ⟨flags.contains .plain, flags.contains .ignoreCase⟩

end Flags

/-- What a group of flags asks for. -/
inductive FlagGroup
  /-- Flags for the whole expression. -/
  | whole (on : Flags)
  /-- Flags for the group that begins here. -/
  | scoped (on off : Flags)
deriving DecidableEq, Repr

namespace FlagGroup

/-- The flag that a token names. A token that names none is refused, as an unknown flag if it is
a letter, and else because `what` is missing. -/
def flagOf (token : Token) (what : String) (after : Cursor) : Parse Flag :=
  match token with
  | .plain c =>
      match Flag.ofChar? c with
      | some flag => .ok flag
      | none => fail (if Text.isLetter c then .unknownFlag else .missing what) (after.position - 1)
  | token => fail (.missing what) (after.position - token.text.length)

/-- Flags to switch off, up to the colon. -/
def readOff (token : Token) (after : Cursor) (what : String) (off : Flags)
    : Nat → Parse (Flags × Cursor)
  | 0 => fail (.missing ":") after.position
  | limit + 1 => do
      let flag ← flagOf token what after
      if flag.choosesAlphabet then fail .alphabetFlagOff after.position
      else
        match ← after.next with
        | (none, last) => fail (.missing ":") last.position
        | (some next, last) =>
            if next = .plain ':' then return (flag :: off, last)
            else readOff next last ":" (flag :: off) limit

/-- Flags to switch on, up to a closing parenthesis, a minus or a colon. -/
def readOn (token : Token) (after : Cursor) (on : Flags) : Nat → Parse (Flags × Char × Cursor)
  | 0 => fail (.missing "-, : or )") after.position
  | limit + 1 => do
      let flag ← flagOf token "-, : or )" after
      if flag = .locale then fail .localeFlag after.position
      else if flag.choosesAlphabet && on.any (fun f => f.choosesAlphabet && f != flag) then
        fail .mixedFlags after.position
      else
        match ← after.next with
        | (none, last) => fail (.missing "-, : or )") last.position
        | (some next, last) =>
            match next with
            | .plain ')' => return (flag :: on, ')', last)
            | .plain '-' => return (flag :: on, '-', last)
            | .plain ':' => return (flag :: on, ':', last)
            | _ => readOn next last (flag :: on) limit

/-- The flags of a group that begins with the given token, and the cursor behind their
terminator. -/
def read (token : Token) (after : Cursor) : Parse (FlagGroup × Cursor) := do
  let limit := after.tokens.length + 1
  let (on, terminator, c) ←
    if token = .plain '-' then pure ([], '-', after) else readOn token after [] limit
  if terminator = ')' then return (.whole on, c)
  else if on.contains .template then fail .globalFlagOn (c.position - 1)
  else if terminator = ':' then return (.scoped on [], c)
  else
    match ← c.next with
    | (none, last) => fail (.missing "flag") last.position
    | (some next, last) =>
        let (off, c) ← readOff next last "flag" [] limit
        if off.contains .template then fail .globalFlagOff (c.position - 1)
        else if on.any (off.contains ·) then fail .contradictoryFlag (c.position - 1)
        else return (.scoped on off, c)

end FlagGroup

end CloudBuckets.Regex
