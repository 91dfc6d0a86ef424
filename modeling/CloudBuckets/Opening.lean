import CloudBuckets.Billing

/-! Opening handles on buckets, and listing buckets. -/

namespace CloudBuckets

/-- The handle on a bucket under a configuration. The name of the bucket and then billing are
checked before an adapter is asked for. -/
def openBucket (bucket : Value) (c : Configuration) (options : Option ClientOptions)
    (scheme : String) : Call Handle := do
  let name ← (Bucket.checkName bucket).mapError Error.bucketName
  (Billing.check c).mapError Error.configuration
  let adapter ← Call.resolve ⟨c, options⟩
  let (settled, adapter) ← Billing.settle name c adapter options
  let handle ← (Handle.make adapter name settled scheme).mapError Error.bucketName
  Call.note (.opened handle)
  return handle

/-- The names of the buckets of a project that begin with a text. The adapter is built for this
listing, and closed whether or not it succeeds. -/
def listBuckets (project start : Option String) : Call (List String) := do
  let adapter ← Call.build "" (some { project })
  let names ← Call.list adapter start
  Call.close adapter
  names.mapError AdapterError.toError

end CloudBuckets
