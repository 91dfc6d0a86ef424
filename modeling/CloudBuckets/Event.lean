import CloudBuckets.Handle

/-! What can be seen of a call from outside: the requests to a backend, and log records. -/

namespace CloudBuckets

namespace LogRecord

/-- How much a record matters. -/
inductive Level
  | debug
  | info
deriving DecidableEq, Repr

/-- The name of a level. -/
def Level.name : Level → String
  | debug => "DEBUG"
  | info => "INFO"

/-- The part of the library that a record comes from. -/
inductive Channel
  | cache
  | billing
  | handles
deriving DecidableEq, Repr

/-- The name of a channel. -/
def Channel.name : Channel → String
  | cache => "bucketfs.provider_cache"
  | billing => "bucketfs.requester_pays"
  | handles => "bucketfs.filesystem"

end LogRecord

/-- A log record. -/
inductive LogRecord
  /-- An adapter for a key is there. -/
  | reusing (key : Key)
  /-- An adapter for a key has to be built. -/
  | building (key : Key)
  /-- A bucket turns out not to be requester-pays. -/
  | notBilling (bucket project : String)
  /-- A handle has been opened. -/
  | opened (handle : Handle)
deriving DecidableEq, Repr

namespace LogRecord

/-- The level of a record. -/
def level : LogRecord → Level
  | notBilling _ _ => .info
  | _ => .debug

/-- The channel of a record. -/
def channel : LogRecord → Channel
  | reusing _ | building _ => .cache
  | notBilling _ _ => .billing
  | opened _ => .handles

/-- The text of a record. -/
def message : LogRecord → String
  | reusing key => "Reusing storage adapter for " ++ key.describe
  | building key => "Building storage adapter for " ++ key.describe
  | notBilling bucket project =>
      s!"Bucket '{bucket}' is not requester-pays; not billing project '{project}'"
  | opened handle =>
      "Opened " ++ String.ofList handle.location ++ " with " ++ handle.adapter.describe

end LogRecord

/-- Something that can be seen from outside. -/
inductive Event
  /-- An adapter in memory is being built. -/
  | build (project : String) (options : Option ClientOptions)
  /-- A client for the storage service is being made. -/
  | connect (connection : Connection)
  /-- A bucket is looked up, to see whether it is requester-pays. -/
  | probe (adapter : Adapter) (bucket : String)
  /-- A bucket is referred to, with the project to bill. -/
  | refer (adapter : Adapter) (bucket : String) (project : Option String)
  /-- The names that begin with a text are listed. -/
  | list (adapter : Adapter) (start : Option String)
  /-- An adapter is closed. -/
  | close (adapter : Adapter)
  | log (record : LogRecord)
deriving DecidableEq, Repr

namespace Event

/-- What is seen when an adapter is built. -/
def ofBuild (provider : Provider) (project : String) (options : Option ClientOptions) : Event :=
  match provider with
  | .memory => .build project options
  | .cloud => .connect (.ofOptions options)

/-- Whether an event belongs to the building of an adapter. -/
def isBuild : Event → Bool
  | .build _ _ | .connect _ => true
  | _ => false

end Event

end CloudBuckets
