import CloudBuckets.Configuration.Environment
import CloudBuckets.Configuration.Mapping
import CloudBuckets.Error

/-! Recipes for configurations: the ways to make one, and to make one from another. -/

namespace CloudBuckets.Configuration

/-- How a configuration is made. -/
inductive Recipe
  /-- From settings by name; the others have their built-in values. -/
  | settings (entries : Entries)
  /-- From a mapping, over the built-in configuration. -/
  | mapping (entries : Entries)
  /-- From a mapping, over another configuration. -/
  | mappingOver (entries : Entries) (base : Recipe)
  /-- From the values of environment settings, by name. -/
  | environment (given : List (String × String))
  /-- From another configuration, with some settings replaced. -/
  | overrides (entries : Entries) (base : Recipe)
  /-- The configuration of the handle known under a name. -/
  | ofHandle (name : String)

/-- Makes the configuration of a recipe, where `known` finds the configurations of handles. The
configuration that another one is made from is made first. -/
def Recipe.make (known : String → Except Error Configuration)
    : Recipe → Except Error Configuration
  | .settings entries => (ofEntries entries).mapError .configuration
  | .mapping entries => (ofMapping entries standard).mapError .configuration
  | .mappingOver entries base => do
      let base ← base.make known
      (ofMapping entries base).mapError .configuration
  | .environment given =>
      (ofEnvironment fun name => given.lookup name).mapError .configuration
  | .overrides entries base => do
      let base ← base.make known
      (base.withOverrides entries).mapError .configuration
  | .ofHandle name => known name

end CloudBuckets.Configuration
