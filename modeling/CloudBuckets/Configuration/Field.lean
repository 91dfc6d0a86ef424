/-! The nine settings of a configuration: their names, spellings and types of value. -/

namespace CloudBuckets

/-- A setting of a configuration. -/
inductive Field
  | workingDirectory
  | permitEmptyComponents
  | stripLeadingSlash
  | usePseudoDirectories
  | blockSize
  | maxReopens
  | userProject
  | billOnlyRequesterPays
  | retryableCodes
deriving DecidableEq, Repr

namespace Field

/-- All settings, in the order in which a configuration lists them. -/
def all : List Field :=
  [workingDirectory, permitEmptyComponents, stripLeadingSlash, usePseudoDirectories, blockSize,
    maxReopens, userProject, billOnlyRequesterPays, retryableCodes]

/-- The name of a setting. -/
def name : Field → String
  | workingDirectory => "working_directory"
  | permitEmptyComponents => "permit_empty_path_components"
  | stripLeadingSlash => "strip_prefix_slash"
  | usePseudoDirectories => "use_pseudo_directories"
  | blockSize => "block_size"
  | maxReopens => "max_channel_reopens"
  | userProject => "user_project"
  | billOnlyRequesterPays => "use_user_project_only_for_requester_pays"
  | retryableCodes => "retryable_http_codes"

/-- The second spelling of a setting, which mappings may use in place of its name. -/
def camelName : Field → String
  | workingDirectory => "workingDirectory"
  | permitEmptyComponents => "permitEmptyPathComponents"
  | stripLeadingSlash => "stripPrefixSlash"
  | usePseudoDirectories => "usePseudoDirectories"
  | blockSize => "blockSize"
  | maxReopens => "maxChannelReopens"
  | userProject => "userProject"
  | billOnlyRequesterPays => "useUserProjectOnlyForRequesterPaysBuckets"
  | retryableCodes => "retryableHttpCodes"

/-- The setting with a given name. -/
def ofName? (key : String) : Option Field :=
  all.find? fun field => field.name == key

/-- The setting that a key of a mapping spells, in either spelling. -/
def ofSpelling? (key : String) : Option Field :=
  all.find? fun field => field.name == key || field.camelName == key

/-- What may be given for a setting. The project to bill may be absent. -/
abbrev Value : Field → Type
  | workingDirectory => String
  | permitEmptyComponents => Bool
  | stripLeadingSlash => Bool
  | usePseudoDirectories => Bool
  | blockSize => Int
  | maxReopens => Int
  | userProject => Option String
  | billOnlyRequesterPays => Bool
  | retryableCodes => List Int

end Field

/-- A value for each setting. -/
abbrev Settings := (field : Field) → field.Value

/-- Keys with their values, in order. A value is given as what it means for each setting, so that
it has the right type for whichever setting its key turns out to spell. -/
abbrev Entries := List (String × Settings)

namespace Entries

/-- The last value given for a setting, where `spells` tells which setting a key stands for. -/
def last? (spells : String → Option Field) (entries : Entries) (field : Field)
    : Option field.Value :=
  (entries.reverse.find? fun entry => spells entry.1 == some field).map fun entry => entry.2 field

/-- The keys that stand for no setting, in order. -/
def unknown (spells : String → Option Field) (entries : Entries) : List String :=
  (entries.map (·.1)).filter fun key => (spells key).isNone

/-- The given settings, each replaced by the last value among the entries, if there is one. -/
def override (spells : String → Option Field) (settings : Settings) (entries : Entries)
    : Settings :=
  fun field => (entries.last? spells field).getD (settings field)

end Entries

end CloudBuckets
