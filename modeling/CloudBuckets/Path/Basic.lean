import CloudBuckets.Bucket.Name
import CloudBuckets.Configuration.Basic
import CloudBuckets.Path.Components

/-! Paths inside a bucket, and the objects that they stand for. -/

namespace CloudBuckets

/-- What paths need to know of a handle: the bucket, its configuration, and the scheme with which
no segment may begin. -/
structure View where
  bucket : String
  configuration : Configuration
  scheme : String
deriving DecidableEq, Repr

namespace View

/-- The view of a bucket, which needs a name. -/
def make (bucket : String) (configuration : Configuration) (scheme : String)
    : Except BucketNameError View :=
  if bucket.isEmpty then .error .noName else .ok ⟨bucket, configuration, scheme⟩

/-- Views of one bucket under equal configurations are the same. -/
def same (a b : View) : Bool :=
  a.bucket == b.bucket && a.configuration == b.configuration

/-- The location of the bucket. -/
def location (v : View) : List Char :=
  (Bucket.scheme ++ "://" ++ v.bucket).toList

end View

/-- A path to an object, or to what looks like a directory, inside one bucket. -/
structure Path where
  view : View
  raw : List Char
deriving DecidableEq, Repr

namespace Path

/-- Paths are the same if their texts are equal and their views are the same. -/
def same (p q : Path) : Bool :=
  p.view.same q.view && p.raw == q.raw

/-- Whether a path begins with a slash. -/
def isAbsolute (p : Path) : Bool :=
  p.raw.head? == some '/'

/-- Whether a path is a single slash. -/
def isRoot (p : Path) : Bool :=
  p.raw == ['/']

/-- The last component of a path. -/
def name (p : Path) : List Char :=
  lastName p.raw

/-- The components of a path. -/
def parts (p : Path) : List (List Char) :=
  components p.raw

/-- The path seen from the working directory. -/
def toAbsolute (p : Path) : Path :=
  if p.isAbsolute then p
  else
    let directory := p.view.configuration.workingDirectory.toList
    let directory := if directory.getLast? == some '/' then directory else directory ++ ['/']
    { p with raw := directory ++ p.raw }

/-- The name of the object that a path stands for. -/
def objectName (p : Path) : List Char :=
  let absolute := p.toAbsolute.raw
  if p.view.configuration.stripLeadingSlash then absolute.drop 1 else absolute

/-- The location of a path: that of its bucket, and the absolute path. -/
def uri (p : Path) : List Char :=
  p.view.location ++ p.toAbsolute.raw

/-- The written form of a path. -/
def describe (p : Path) : String :=
  "BucketPath(" ++ String.ofList (Text.Quoted.encode p.uri) ++ ")"

end Path

namespace View

/-- The path that segments amount to. None may begin with the scheme of the view. -/
def resolve (v : View) (segments : List (List Char)) : Except BucketNameError Path :=
  match segments.find? (Bucket.hasScheme v.scheme) with
  | some segment => .error (.schemeInSegment segment)
  | none =>
      let joined := Path.join segments
      .ok ⟨v, if v.configuration.permitEmptyComponents then joined else Path.collapse joined⟩

/-- The path that segments amount to, where the first one must not begin with the scheme of
buckets either. -/
def path (v : View) (first : List Char) (more : List (List Char))
    : Except BucketNameError Path :=
  if Bucket.hasScheme Bucket.scheme first then .error (.schemeInPath first)
  else v.resolve (first :: more)

end View

namespace Path

/-- The path with segments appended to it. -/
def join? (p : Path) (segments : List (List Char)) : Except BucketNameError Path :=
  p.view.path p.raw segments

end Path

end CloudBuckets
