import CloudBuckets.Configuration.Basic

/-! How a storage client connects, and the keys under which adapters are shared. -/

namespace CloudBuckets

/-- How a client connects. No options at all means default credentials and endpoint. -/
structure ClientOptions where
  project : Option String := none
  credentialsFile : Option String := none
  apiEndpoint : Option String := none
  anonymous : Bool := false
deriving DecidableEq, Repr, Inhabited

/-- The written form of client options. -/
def ClientOptions.describe (o : ClientOptions) : String :=
  s!"ClientOptions(project={Value.renderText? o.project}, "
    ++ s!"credentials_file={Value.renderText? o.credentialsFile}, "
    ++ s!"api_endpoint={Value.renderText? o.apiEndpoint}, "
    ++ s!"anonymous={Value.renderBool o.anonymous})"

/-- The written form of options that may be absent. -/
def ClientOptions.describe? : Option ClientOptions → String
  | none => Value.null.render
  | some o => o.describe

/-- A configuration together with the options its client connects with. -/
structure Key where
  configuration : Configuration
  options : Option ClientOptions
deriving DecidableEq, Repr, Inhabited

/-- The written form of a key. -/
def Key.describe (k : Key) : String :=
  s!"ConfigKey(configuration={k.configuration.describe}, "
    ++ s!"options={ClientOptions.describe? k.options})"

end CloudBuckets
