import CloudBuckets.Configuration.Basic

/-! Configurations from mappings whose keys spell settings in either of two ways. -/

namespace CloudBuckets.Configuration

/-- The base with the settings of a mapping. The first key that spells no setting is reported; of
several keys for one setting the last one counts. -/
def ofMapping (entries : Entries) (base : Configuration)
    : Except ConfigurationError Configuration :=
  match entries.unknown Field.ofSpelling? with
  | [] => ofSettings (entries.override Field.ofSpelling? base.settings)
  | key :: _ => .error (.unknownKey key)

end CloudBuckets.Configuration
