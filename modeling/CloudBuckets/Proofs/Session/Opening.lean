import CloudBuckets.Proofs.Session.Waiting

/-! Sessions open handles as promised, under the configuration that is given or else the default
one, and whatever else is done while an adapter is built.
-/

namespace CloudBuckets

namespace Session

/-- Preparing the cache for a handle changes no cache and no default. -/
theorem World.prepare_cache (w : World) (name : String) (bucket : Value) (other : String)
    : (w.prepare name bucket).cache other = w.cache other := by
  unfold World.prepare
  split
  · exact w.cache_touch name other
  · rfl

theorem World.prepare_defaultConfiguration (w : World) (name : String) (bucket : Value)
    : (w.prepare name bucket).defaultConfiguration = w.defaultConfiguration := by
  unfold World.prepare
  split <;> rfl

/-- A configuration that bills a project to requester-pays buckets only. -/
def conditional : Configuration :=
  { Configuration.standard with userProject := "payer", billOnlyRequesterPays := true }

end Session

end CloudBuckets
