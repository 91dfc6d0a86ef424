import CloudBuckets.Plan

/-! Billing that depends on the bucket. A configuration may ask that its project is billed only
where a bucket is requester-pays. Then the bucket is probed, and where it turns out not to be, the
configuration is stripped of its project and an adapter that bills nobody takes over. -/

namespace CloudBuckets

namespace Billing

/-- Refuses a configuration that would bill a project but names none. -/
def check (c : Configuration) : Except ConfigurationError Unit :=
  if c.billOnlyRequesterPays && c.userProject.isEmpty then .error .noProjectToBill else .ok ()

/-- The error where a bucket could not be probed. What looks like a failure to resolve already is
passed on as it is. -/
def probeError (bucket : String) : AdapterError → Error
  | .resolution error => .resolution error
  | .fault fault =>
      if fault.kind = .resolution then .fault fault else .resolution ⟨.probing bucket, fault⟩

/-- The configuration and the adapter for a handle on a bucket. They are the given ones, unless
billing depends on the bucket and it is not requester-pays. -/
def settle (bucket : String) (c : Configuration) (adapter : Adapter)
    (options : Option ClientOptions) : Call (Configuration × Adapter) := do
  if c.billOnlyRequesterPays then
    (check c).mapError Error.configuration
    match ← Call.probe adapter bucket with
    | .error error => throw (probeError bucket error)
    | .ok (some true) => return (c, adapter)
    | .ok _ =>
        Call.note (.notBilling bucket c.userProject)
        return (c.unbilled, ← Call.resolve ⟨c.unbilled, options⟩)
  else return (c, adapter)

end Billing

end CloudBuckets
