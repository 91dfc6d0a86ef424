import CloudBuckets.Glob.Expression
import CloudBuckets.Regex.Matcher
import CloudBuckets.Regex.Parser

/-! Predicates on paths, given by a glob pattern or a regular expression behind the name of the
notation and a colon. -/

namespace CloudBuckets

/-- Why a text gives no path matcher. -/
inductive PathMatcherError
  /-- There is no colon. -/
  | noColon (given : List Char)
  /-- The notation is neither of the two. -/
  | unknownForm (form : List Char)
  /-- The glob pattern is malformed. -/
  | glob (pattern : List Char) (cause : Glob.Refusal)
  /-- The regular expression is refused. -/
  | regex (expression : List Char) (cause : Regex.Refusal)
deriving DecidableEq, Repr

/-- The operation that an unknown notation asks for in vain. -/
def PathMatcherError.operation : String := "path_matcher"

/-- The message of a refusal. -/
def PathMatcherError.message : PathMatcherError → String
  | noColon given =>
      "Expected '<syntax>:<pattern>', got " ++ String.ofList (Text.Quoted.encode given)
  | unknownForm form => "Syntax '" ++ String.ofList form ++ "' not recognized"
  | glob pattern .trailingEscape =>
      "Trailing escape in glob pattern: " ++ String.ofList (Text.Quoted.encode pattern)
  | glob pattern .unclosedGroup =>
      "Unclosed group in glob pattern: " ++ String.ofList (Text.Quoted.encode pattern)
  | regex expression (.malformed problem position) =>
      problem.message ++ (position.map (Regex.describePlace expression)).getD ""
  | regex _ .tooManyRounds => "the repetition number is too large"
  | regex _ .codeTooLarge => "Python int too large to convert to C int"
  | regex _ (.numberTooLong cause) => cause.message
  | regex _ .mixedAlphabets => "ASCII and UNICODE flags are incompatible"

namespace PathMatcher

/-- The notations for patterns. -/
inductive Form
  | glob
  | regex
deriving DecidableEq, Repr

/-- The name of a notation. -/
def Form.name : Form → List Char
  | glob => ['g', 'l', 'o', 'b']
  | regex => ['r', 'e', 'g', 'e', 'x']

/-- The notation with a given name. -/
def Form.ofName? (name : List Char) : Option Form :=
  [Form.glob, Form.regex].find? fun form => form.name == name

/-- The regular expression behind a pattern in some notation. -/
def expression (form : Form) (pattern : List Char) : Except PathMatcherError (List Char) :=
  match form with
  | .regex => .ok pattern
  | .glob => (Glob.expression pattern).mapError (.glob pattern)

end PathMatcher

/-- A predicate on paths: the whole path has to match. -/
structure PathMatcher where
  node : Regex.Node
deriving DecidableEq, Repr

namespace PathMatcher

/-- The matcher that a text gives. -/
def ofText (given : List Char) : Except PathMatcherError PathMatcher :=
  match given.dropWhile (· != ':') with
  | [] => .error (.noColon given)
  | _ :: pattern =>
      let name := given.takeWhile (· != ':')
      match Form.ofName? name with
      | none => .error (.unknownForm name)
      | some form => do
          let text ← expression form pattern
          return ⟨← (Regex.parse text).mapError (.regex text)⟩

/-- Whether a matcher accepts a path. -/
def accepts (m : PathMatcher) (path : List Char) : Bool :=
  m.node.fullMatch path

end PathMatcher

end CloudBuckets
