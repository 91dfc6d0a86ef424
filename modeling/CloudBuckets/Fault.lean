import CloudBuckets.Value

/-! Failures of a storage backend. -/

namespace CloudBuckets

namespace Fault

/-- The answers by which a service refuses a call. -/
inductive Status
  | badRequest
  | notFound
  | forbidden
  | conflict
  | tooManyRequests
  | internalServerError
  | serviceUnavailable
deriving DecidableEq, Repr

/-- The number of a status. -/
def Status.code : Status → Nat
  | badRequest => 400
  | notFound => 404
  | forbidden => 403
  | conflict => 409
  | tooManyRequests => 429
  | internalServerError => 500
  | serviceUnavailable => 503

/-- What kind of failure it is. The last three look like refusals of this library. -/
inductive Kind
  /-- The service has refused a call. -/
  | call (status : Status)
  /-- Any other failure of the service. -/
  | service
  | credentials
  | system
  | permission
  | connection
  | timeout
  | value
  | runtime
  | resolution
  | configuration
  | bucketName
deriving DecidableEq, Repr

/-- Whether the service itself has failed or refused. -/
def Kind.isService : Kind → Bool
  | call _ | service => true
  | _ => false

end Fault

/-- A failure of a backend, with a message and details that may both be missing. -/
structure Fault where
  kind : Fault.Kind
  message : Option String
  details : List Value

namespace Fault

/-- The text of a failure; that of a refused call begins with the number of its status. -/
def text (f : Fault) : String :=
  let message := f.message.getD Value.null.render
  match f.kind with
  | .call status => s!"{status.code} {message}"
  | _ => message

end Fault

end CloudBuckets
