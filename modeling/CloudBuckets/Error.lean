import CloudBuckets.Bucket.Name
import CloudBuckets.Configuration.Error
import CloudBuckets.Fault
import CloudBuckets.PathMatcher

/-! Everything that a call may end with in place of a result. -/

namespace CloudBuckets

/-- An operation that object storage does not offer. -/
structure Unsupported where
  operation : String
  explanation : Option String
deriving DecidableEq, Repr

/-- The explanation, or where there is none or an empty one, the name of the operation. -/
def Unsupported.message (u : Unsupported) : String :=
  match u.explanation.filter (!·.isEmpty) with
  | some text => text
  | none => s!"'{u.operation}' is not supported"

/-- What could not be done because a backend failed. -/
inductive ResolutionProblem
  /-- No adapter could be built. -/
  | building
  /-- It could not be found out whether a bucket is requester-pays. -/
  | probing (bucket : String)
  /-- A bucket does not exist. -/
  | missingBucket (bucket : String)
  /-- The buckets could not be listed. -/
  | listing
deriving DecidableEq, Repr

/-- A failure to reach a backend or a bucket, with the failure of the backend behind it. -/
structure ResolutionError where
  problem : ResolutionProblem
  cause : Fault

/-- The message of a failure. -/
def ResolutionError.message (e : ResolutionError) : String :=
  match e.problem with
  | .building => "Unable to resolve storage adapter for the provided configuration"
  | .probing bucket => s!"Unable to determine requester-pays status of bucket '{bucket}'"
  | .missingBucket bucket => s!"Bucket '{bucket}' not found"
  | .listing => "Unable to list buckets"

/-- Why a call has no result. -/
inductive Error
  | bucketName (error : BucketNameError)
  | configuration (error : ConfigurationError)
  | resolution (error : ResolutionError)
  | unsupported (error : Unsupported)
  | matcher (error : PathMatcherError)
  /-- A failure of the backend, passed on as it is. -/
  | fault (fault : Fault)
  /-- A key needs a configuration. -/
  | noConfiguration
  /-- A path needs a segment. -/
  | noSegment
  /-- Nothing is known under a name. -/
  | unknownName (name : String)
  /-- The call waits for an adapter that is being built around it. -/
  | deadlock

namespace Error

/-- The classes of errors. -/
inductive Kind
  /-- Every error there is. -/
  | any
  /-- Every error of this library. -/
  | library
  | bucketName
  | configuration
  | resolution
  | unsupported
  | value
  | runtime
  | notImplemented
  | type
  | overflow
  | pattern
  | fault (kind : Fault.Kind)
  | unknownName
  | deadlock
deriving DecidableEq, Repr

/-- The class of an error of this library and the classes above it, the nearest first. -/
def Kind.lineage : Kind → List Kind
  | library => [library, any]
  | bucketName => [bucketName, library, value, any]
  | configuration => [configuration, library, value, any]
  | resolution => [resolution, library, runtime, any]
  | unsupported => [unsupported, library, notImplemented, runtime, any]
  | kind => [kind]

/-- The classes of errors that this library defines. -/
def Kind.own : List Kind :=
  [library, bucketName, configuration, resolution, unsupported]

/-- The class of a refusal to match paths. -/
def kindOfMatcher : PathMatcherError → Kind
  | .noColon _ | .glob _ _ => .value
  | .unknownForm _ => .unsupported
  | .regex _ (.malformed _ _) => .pattern
  | .regex _ .tooManyRounds | .regex _ .codeTooLarge => .overflow
  | .regex _ (.numberTooLong _) | .regex _ .mixedAlphabets => .value

/-- The class of an error. -/
def kind : Error → Kind
  | bucketName _ => .bucketName
  | configuration _ => .configuration
  | resolution _ => .resolution
  | unsupported _ => .unsupported
  | matcher error => kindOfMatcher error
  | fault failure => .fault failure.kind
  | noConfiguration | noSegment => .type
  | unknownName _ => .unknownName
  | deadlock => .deadlock

/-- The message of an error. -/
def message : Error → String
  | bucketName error => error.message
  | configuration error => error.message
  | resolution error => error.message
  | unsupported error => error.message
  | matcher error => error.message
  | fault failure => failure.text
  | noConfiguration => "ConfigKey requires a configuration"
  | noSegment => "BucketFileSystem.path() missing 1 required positional argument: 'first'"
  | unknownName name => name
  | deadlock => "the adapter is being built by the caller"

/-- What lies behind an error. -/
inductive Cause
  | fault (fault : Fault)
  | numeral (refusal : Text.Numeral.Refusal)

/-- What lies behind an error, if anything does. -/
def cause? : Error → Option Cause
  | resolution error => some (.fault error.cause)
  | configuration (.unreadableNumber refusal) => some (.numeral refusal)
  | _ => none

/-- The operation that an error says is not supported. -/
def operation? : Error → Option String
  | unsupported error => some error.operation
  | matcher (.unknownForm _) => some PathMatcherError.operation
  | _ => none

end Error

end CloudBuckets
