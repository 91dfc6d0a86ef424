import CloudBuckets.Configuration.Basic
import CloudBuckets.Text.LetterCase

/-! Configurations from environment variables. -/

namespace CloudBuckets.Configuration

/-- The variables that are looked at. -/
inductive Variable
  | userProject
  | requesterPaysOnly
  | workingDirectory
  | blockSize
  | maxReopens
deriving DecidableEq, Repr

/-- The name of a variable. -/
def Variable.name : Variable → String
  | userProject => "BUCKETFS_USER_PROJECT"
  | requesterPaysOnly => "BUCKETFS_REQUESTER_PAYS_ONLY"
  | workingDirectory => "BUCKETFS_WORKING_DIRECTORY"
  | blockSize => "BUCKETFS_BLOCK_SIZE"
  | maxReopens => "BUCKETFS_MAX_CHANNEL_REOPENS"

/-- The words for yes. -/
def affirmatives : List String := ["1", "true", "yes", "on"]

/-- Whether a text says yes, blanks around it and letter case aside. -/
def isAffirmative (text : String) : Bool :=
  affirmatives.contains (String.ofList ((Text.trim text.toList).map Text.lower))

/-- The number in a variable, and the default where the variable is not set. -/
def readNumber (given : Option String) (default : Int) : Except ConfigurationError Int :=
  match given with
  | none => .ok default
  | some text => (Text.Numeral.read text.toList).mapError .unreadableNumber

/-- The settings read from an environment. The block size is read before the number of reopens. -/
def ofEnvironment (env : String → Option String) : Except ConfigurationError Configuration := do
  let value (v : Variable) : Option String := env v.name
  let blockSize ← readNumber (value .blockSize) standard.blockSize
  let maxReopens ← readNumber (value .maxReopens) standard.maxReopens
  ofSettings fun
    | .userProject => some ((value .userProject).getD standard.userProject)
    | .billOnlyRequesterPays => ((value .requesterPaysOnly).map isAffirmative).getD false
    | .workingDirectory => (value .workingDirectory).getD standard.workingDirectory
    | .blockSize => blockSize
    | .maxReopens => maxReopens
    | .permitEmptyComponents => standard.permitEmptyComponents
    | .stripLeadingSlash => standard.stripLeadingSlash
    | .usePseudoDirectories => standard.usePseudoDirectories
    | .retryableCodes => standard.retryableCodes

end CloudBuckets.Configuration
