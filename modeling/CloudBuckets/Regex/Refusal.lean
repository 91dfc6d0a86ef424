import CloudBuckets.Regex.Node
import CloudBuckets.Text.Numeral
import CloudBuckets.Text.Quoted

/-! Why a text is no regular expression, and the message that says so. -/

namespace CloudBuckets.Regex

/-- What is wrong with an expression. -/
inductive Problem
  | danglingEscape
  | badEscape (escape : List Char)
  | incompleteEscape (escape : List Char)
  | octalTooLarge (escape : List Char)
  | undefinedCharacterName (name : List Char)
  /-- Something is missing that has to stand here. -/
  | missing (what : String)
  | unterminatedName (terminator : Char)
  | badGroupName (name : List Char)
  | unknownGroupName (name : List Char)
  | redefinedGroupName (name : List Char) (group earlier : Nat)
  | badGroupNumber
  | noSuchGroup (group : Nat)
  | openGroup
  | groupOfSameLookBehind
  | unterminatedClass
  | badRange (first last : List Char)
  | nothingToRepeat
  | multipleRepeat
  | leastAboveMost
  | unexpectedEnd
  | unknownExtension (text : List Char)
  | unterminatedComment
  | unterminatedGroup
  | unbalancedParenthesis
  | tooManyBranches
  | lateFlags
  | localeFlag
  | mixedFlags
  | unknownFlag
  | globalFlagOn
  | globalFlagOff
  | alphabetFlagOff
  | contradictoryFlag
  /-- A look-behind matches texts of different lengths. -/
  | unevenLookBehind
  /-- A look-behind goes back further than the engine counts. -/
  | farLookBehind
  /-- A flag forbids repetitions. -/
  | forbiddenRepeat (greed : Greed)
deriving DecidableEq, Repr

/-- The message of a problem, without its place. -/
def Problem.message : Problem → String
  | danglingEscape => "bad escape (end of pattern)"
  | badEscape escape => "bad escape " ++ String.ofList escape
  | incompleteEscape escape => "incomplete escape " ++ String.ofList escape
  | octalTooLarge escape =>
      "octal escape value " ++ String.ofList escape ++ " outside of range 0-0o377"
  | undefinedCharacterName name =>
      "undefined character name " ++ String.ofList (Text.Quoted.encode name)
  | missing what => "missing " ++ what
  | unterminatedName terminator => s!"missing {terminator}, unterminated name"
  | badGroupName name => "bad character in group name " ++ String.ofList (Text.Quoted.encode name)
  | unknownGroupName name => "unknown group name " ++ String.ofList (Text.Quoted.encode name)
  | redefinedGroupName name group earlier =>
      "redefinition of group name " ++ String.ofList (Text.Quoted.encode name)
        ++ s!" as group {group}; was group {earlier}"
  | badGroupNumber => "bad group number"
  | noSuchGroup group => s!"invalid group reference {group}"
  | openGroup => "cannot refer to an open group"
  | groupOfSameLookBehind => "cannot refer to group defined in the same lookbehind subpattern"
  | unterminatedClass => "unterminated character set"
  | badRange first last =>
      "bad character range " ++ String.ofList first ++ "-" ++ String.ofList last
  | nothingToRepeat => "nothing to repeat"
  | multipleRepeat => "multiple repeat"
  | leastAboveMost => "min repeat greater than max repeat"
  | unexpectedEnd => "unexpected end of pattern"
  | unknownExtension text => "unknown extension ?" ++ String.ofList text
  | unterminatedComment => "missing ), unterminated comment"
  | unterminatedGroup => "missing ), unterminated subpattern"
  | unbalancedParenthesis => "unbalanced parenthesis"
  | tooManyBranches => "conditional backref with more than two branches"
  | lateFlags => "global flags not at the start of the expression"
  | localeFlag => "bad inline flags: cannot use 'L' flag with a str pattern"
  | mixedFlags => "bad inline flags: flags 'a', 'u' and 'L' are incompatible"
  | unknownFlag => "unknown flag"
  | globalFlagOn => "bad inline flags: cannot turn on global flag"
  | globalFlagOff => "bad inline flags: cannot turn off global flag"
  | alphabetFlagOff => "bad inline flags: cannot turn off flags 'a', 'u' and 'L'"
  | contradictoryFlag => "bad inline flags: flag turned on and off"
  | unevenLookBehind => "look-behind requires fixed-width pattern"
  | farLookBehind => "looks too much behind"
  | forbiddenRepeat .greedy => "internal: unsupported template operator MAX_REPEAT"
  | forbiddenRepeat .lazy => "internal: unsupported template operator MIN_REPEAT"
  | forbiddenRepeat .possessive => "internal: unsupported template operator POSSESSIVE_REPEAT"

/-- Why a text is refused. -/
inductive Refusal
  /-- The expression is malformed, mostly at a place that can be told. -/
  | malformed (problem : Problem) (position : Option Nat)
  /-- A repetition asks for more rounds than can be counted. -/
  | tooManyRounds
  /-- An escape names a character far beyond the last one. -/
  | codeTooLarge
  /-- A number of rounds has too many digits. -/
  | numberTooLong (cause : Text.Numeral.Refusal)
  /-- Flags ask for the letters of ASCII and for those of every script. -/
  | mixedAlphabets
deriving DecidableEq, Repr

/-- The line and the column of a position, both counted from one. -/
def lineAndColumn (pattern : List Char) (position : Nat) : Nat × Nat :=
  let before := pattern.take position
  (before.count '\n' + 1, (before.reverse.takeWhile (· != '\n')).length + 1)

/-- The place of a problem; line and column are given if the pattern has several lines. -/
def describePlace (pattern : List Char) (position : Nat) : String :=
  let (line, column) := lineAndColumn pattern position
  s!" at position {position}"
    ++ (if pattern.contains '\n' then s!" (line {line}, column {column})" else "")

end CloudBuckets.Regex
