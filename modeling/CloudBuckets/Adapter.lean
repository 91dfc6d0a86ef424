import CloudBuckets.Key

/-! Storage adapters: what stands between a handle and the backend. -/

namespace CloudBuckets

/-- Where an adapter finds its buckets. -/
inductive Provider
  /-- Buckets in memory. -/
  | memory
  /-- The storage service, through a client. -/
  | cloud
deriving DecidableEq, Repr

/-- An adapter. Its number tells it from all others. -/
structure Adapter where
  id : Nat
  provider : Provider
  /-- The project to bill; the empty name bills nobody. -/
  billingProject : String
  options : Option ClientOptions
deriving DecidableEq, Repr

namespace Adapter

/-- The name of an adapter. -/
def tag (a : Adapter) : String := s!"#{a.id}"

/-- The written form of an adapter. -/
def describe (a : Adapter) : String :=
  match a.provider with
  | .memory => "<adapter " ++ a.tag ++ ">"
  | .cloud =>
      "GCSAdapter(billing_project=" ++ Text.quoted a.billingProject
        ++ ", options=" ++ ClientOptions.describe? a.options ++ ")"

/-- The project that a request asks to bill, if there is one. -/
def requestProject (a : Adapter) : Option String :=
  if a.billingProject.isEmpty then none else some a.billingProject

end Adapter

/-- How a client for the storage service is made. -/
inductive Connection
  /-- With nothing given. -/
  | standard
  /-- For a project, with default credentials. -/
  | project (project : Option String) (endpoint : Option String)
  /-- With no credentials. -/
  | anonymous (project : String) (endpoint : Option String)
  /-- With the credentials of a service account, from a file. -/
  | serviceAccount (file : String) (project : Option String) (endpoint : Option String)
deriving DecidableEq, Repr

namespace Connection

/-- A text that is given and not empty. -/
def nonempty (given : Option String) : Option String :=
  given.filter (!·.isEmpty)

/-- The project named where a client without credentials has none. -/
def noProject : String := "<none>"

/-- The connection that options ask for. To be anonymous goes before credentials from a file. -/
def ofOptions : Option ClientOptions → Connection
  | none => .standard
  | some o =>
      let endpoint := nonempty o.apiEndpoint
      if o.anonymous then .anonymous ((nonempty o.project).getD noProject) endpoint
      else
        match nonempty o.credentialsFile with
        | some file => .serviceAccount file o.project endpoint
        | none => .project o.project endpoint

end Connection

end CloudBuckets
