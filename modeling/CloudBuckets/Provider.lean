import CloudBuckets.Adapter
import CloudBuckets.Backend
import CloudBuckets.Error
import CloudBuckets.Text.LetterCase
import CloudBuckets.Text.Part

/-! What adapters make of the replies of a backend. In memory, replies are passed on as they are;
in the cloud, failures of the service are told apart. -/

namespace CloudBuckets

/-- Why an adapter has no answer. -/
inductive AdapterError
  /-- The service has failed, which the adapter has made sense of. -/
  | resolution (error : ResolutionError)
  /-- Another failure, passed on as it is. -/
  | fault (fault : Fault)

/-- The error that a failing adapter gives rise to. -/
def AdapterError.toError : AdapterError → Error
  | resolution error => .resolution error
  | fault failure => .fault failure

namespace Fault

/-- The reason that is given where a request names no project to bill. -/
def missingProject : String := "userProjectMissing"

/-- Whether a refusal says that a project has to be billed: by the reason in one of its details, or
in its message, letter case aside. -/
def asksForProject (f : Fault) : Bool :=
  let hasReason (detail : Value) : Bool :=
    match detail.field? "reason" with
    | some (.text reason) => reason == missingProject
    | _ => false
  f.details.any hasReason
    || Text.holds ((f.message.getD "").toList.map Text.lower) "requester pays".toList

end Fault

namespace Provider

/-- Whether a bucket is requester-pays, by the reply of the service. To refuse a request that bills
nobody is an answer; other failures of the service are not. -/
def classify (bucket : String) : Reply → Except AdapterError Bool
  | .ok flag => .ok (flag.getD false)
  | .error fault =>
      match fault.kind with
      | .call .badRequest =>
          if fault.asksForProject then .ok true
          else .error (.resolution ⟨.probing bucket, fault⟩)
      | .call .notFound => .error (.resolution ⟨.missingBucket bucket, fault⟩)
      | kind =>
          if kind.isService then .error (.resolution ⟨.probing bucket, fault⟩)
          else .error (.fault fault)

/-- What an adapter answers when asked whether a bucket is requester-pays. -/
def probe (provider : Provider) (bucket : String) (reply : Reply)
    : Except AdapterError (Option Bool) :=
  match provider with
  | .memory => reply.mapError .fault
  | .cloud => (classify bucket reply).map some

/-- What an adapter answers when asked for the names of buckets. -/
def list (provider : Provider) (listing : Listing) : Except AdapterError (List String) :=
  listing.collect.mapError fun fault =>
    match provider with
    | .memory => .fault fault
    | .cloud => if fault.kind.isService then .resolution ⟨.listing, fault⟩ else .fault fault

end Provider

end CloudBuckets
