import CloudBuckets.Adapter
import CloudBuckets.Path.Walk

/-! Handles: the view of a bucket together with the adapter that serves it. -/

namespace CloudBuckets

/-- A handle on a bucket. It holds no resources and is always open. -/
structure Handle extends View where
  adapter : Adapter
deriving DecidableEq, Repr

namespace Handle

/-- The handle on a bucket through an adapter; the bucket needs a name. -/
def make (adapter : Adapter) (bucket : String) (configuration : Configuration) (scheme : String)
    : Except BucketNameError Handle :=
  (View.make bucket configuration scheme).map fun view => ⟨view, adapter⟩

/-- Handles are the same if their views are; the adapter does not count. -/
def same (a b : Handle) : Bool :=
  a.toView.same b.toView

/-- The written form of a handle. -/
def describe (h : Handle) : String :=
  "BucketFileSystem(" ++ String.ofList (Text.Quoted.encode h.location) ++ ")"

/-- The separator of components. -/
def separator : String := "/"

/-- The roots of a bucket. -/
def roots (h : Handle) : Except BucketNameError (List Path) :=
  (h.toView.resolve [['/']]).map fun root => [root]

/-- Closing a handle changes nothing. -/
def isOpen (_ : Handle) : Bool := true

/-- Handles are not restricted to reading. -/
def isReadOnly (_ : Handle) : Bool := false

/-- The views of file attributes, in ascending order. -/
def attributeViews : List String := ["basic", "gcs", "posix"]

/-- The operation that would look up users. -/
def principalLookup : String := "user_principal_lookup_service"

/-- The operation that would watch for changes. -/
def watching : String := "new_watch_service"

/-- The time reported where none is known: the start of the epoch. -/
def unknownTime : String := "1970-01-01T00:00:00+00:00"

end Handle

end CloudBuckets
