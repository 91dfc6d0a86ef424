import CloudBuckets.Configuration.Field
import CloudBuckets.Configuration.Error
import CloudBuckets.Value

/-! Configurations of bucket handles. A configuration is valid by construction: every way to make
one goes through `Configuration.ofSettings`. -/

namespace CloudBuckets

/-- Immutable settings of a handle. Equal configurations are interchangeable. -/
structure Configuration where
  workingDirectory : String
  permitEmptyComponents : Bool
  stripLeadingSlash : Bool
  usePseudoDirectories : Bool
  blockSize : Int
  maxReopens : Int
  /-- The project to bill; the empty name bills nobody. -/
  userProject : String
  billOnlyRequesterPays : Bool
  retryableCodes : List Int
  absolute : workingDirectory.toList.head? = some '/'
  blockSize_pos : 0 < blockSize
  maxReopens_nonneg : 0 ≤ maxReopens
deriving DecidableEq, Repr

namespace Configuration

/-- The default size of a block: two mebibytes. -/
def defaultBlockSize : Int := 2 * 1024 * 1024

/-- The built-in configuration. -/
def standard : Configuration where
  workingDirectory := "/"
  permitEmptyComponents := false
  stripLeadingSlash := true
  usePseudoDirectories := true
  blockSize := defaultBlockSize
  maxReopens := 0
  userProject := ""
  billOnlyRequesterPays := false
  retryableCodes := [500, 502, 503]
  absolute := by simp
  blockSize_pos := by decide
  maxReopens_nonneg := by decide

instance : Inhabited Configuration := ⟨standard⟩

/-- The settings of a configuration. -/
def settings (c : Configuration) : Settings
  | .workingDirectory => c.workingDirectory
  | .permitEmptyComponents => c.permitEmptyComponents
  | .stripLeadingSlash => c.stripLeadingSlash
  | .usePseudoDirectories => c.usePseudoDirectories
  | .blockSize => c.blockSize
  | .maxReopens => c.maxReopens
  | .userProject => some c.userProject
  | .billOnlyRequesterPays => c.billOnlyRequesterPays
  | .retryableCodes => c.retryableCodes

/-- Checks settings and makes a configuration of them. The working directory is checked first,
then the block size, then the number of reopens; a missing project becomes the empty name. -/
def ofSettings (s : Settings) : Except ConfigurationError Configuration :=
  if absolute : (s .workingDirectory : String).toList.head? = some '/' then
    if blockSize_pos : 0 < (s .blockSize : Int) then
      if maxReopens_nonneg : 0 ≤ (s .maxReopens : Int) then
        .ok {
          workingDirectory := s .workingDirectory
          permitEmptyComponents := s .permitEmptyComponents
          stripLeadingSlash := s .stripLeadingSlash
          usePseudoDirectories := s .usePseudoDirectories
          blockSize := s .blockSize
          maxReopens := s .maxReopens
          userProject := (s .userProject).getD ""
          billOnlyRequesterPays := s .billOnlyRequesterPays
          retryableCodes := s .retryableCodes
          absolute, blockSize_pos, maxReopens_nonneg }
      else .error (.negativeReopens (s .maxReopens))
    else .error (.blockSizeNotPositive (s .blockSize))
  else .error (.relativeWorkingDirectory (s .workingDirectory))

/-- The built-in configuration with some settings given by name. -/
def ofEntries (entries : Entries) : Except ConfigurationError Configuration :=
  ofSettings (entries.override Field.ofName? standard.settings)

/-- The configuration with some settings replaced. Names that do not exist are reported together,
in ascending order. -/
def withOverrides (c : Configuration) (entries : Entries)
    : Except ConfigurationError Configuration :=
  match entries.unknown Field.ofName? with
  | [] => ofSettings (entries.override Field.ofName? c.settings)
  | keys => .error (.unknownKeys (keys.eraseDups.mergeSort (fun a b => !decide (b < a))))

/-- The configuration that bills nobody and is otherwise the same. -/
def unbilled (c : Configuration) : Configuration :=
  { c with userProject := "" }

/-- The written form of a list of status codes; a single code keeps a comma. -/
def describeCodes : List Int → String
  | [] => "()"
  | [code] => s!"({code},)"
  | codes => "(" ++ ", ".intercalate (codes.map toString) ++ ")"

/-- The written form of one setting. -/
def describeSetting (c : Configuration) : Field → String
  | .workingDirectory => Text.quoted c.workingDirectory
  | .permitEmptyComponents => Value.renderBool c.permitEmptyComponents
  | .stripLeadingSlash => Value.renderBool c.stripLeadingSlash
  | .usePseudoDirectories => Value.renderBool c.usePseudoDirectories
  | .blockSize => toString c.blockSize
  | .maxReopens => toString c.maxReopens
  | .userProject => Text.quoted c.userProject
  | .billOnlyRequesterPays => Value.renderBool c.billOnlyRequesterPays
  | .retryableCodes => describeCodes c.retryableCodes

/-- The written form of a configuration: all settings by name, in order. -/
def describe (c : Configuration) : String :=
  let shown := Field.all.map fun field => s!"{field.name}={c.describeSetting field}"
  "StorageConfiguration(" ++ ", ".intercalate shown ++ ")"

end Configuration

end CloudBuckets
