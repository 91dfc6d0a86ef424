import CloudBuckets.Text.Quoted
import CloudBuckets.Text.Numeral

/-! Why a configuration is refused. -/

namespace CloudBuckets

/-- Why a configuration is refused. -/
inductive ConfigurationError
  /-- The working directory does not begin with a slash. -/
  | relativeWorkingDirectory (given : String)
  /-- Blocks must hold something. -/
  | blockSizeNotPositive (given : Int)
  /-- The number of reopens is negative. -/
  | negativeReopens (given : Int)
  /-- Overrides name settings that do not exist. -/
  | unknownKeys (keys : List String)
  /-- A mapping has a key that spells no setting. -/
  | unknownKey (key : String)
  /-- A number in the environment cannot be read. -/
  | unreadableNumber (cause : Text.Numeral.Refusal)
  /-- Billing depends on the bucket, but there is no project to bill. -/
  | noProjectToBill
deriving DecidableEq, Repr

/-- The message of a refusal. -/
def ConfigurationError.message : ConfigurationError → String
  | .relativeWorkingDirectory given =>
      s!"working_directory must be absolute: {Text.quoted given}"
  | .blockSizeNotPositive given => s!"block_size must be positive: {given}"
  | .negativeReopens given => s!"max_channel_reopens must not be negative: {given}"
  | .unknownKeys keys => s!"Unknown configuration keys: " ++ ", ".intercalate keys
  | .unknownKey key => s!"Unknown configuration key: {Text.quoted key}"
  | .unreadableNumber cause => s!"Invalid numeric setting: {cause.message}"
  | .noProjectToBill =>
      "If use_user_project_only_for_requester_pays is set, then user_project must be set too."

end CloudBuckets
