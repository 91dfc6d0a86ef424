import CloudBuckets.Value

/-! Names of buckets, and why a name or a segment of a path is refused. -/

namespace CloudBuckets

/-- Why a bucket name or a segment of a path is refused. -/
inductive BucketNameError
  /-- A handle needs a name. -/
  | noName
  /-- What is given is no text, or empty. -/
  | notAName (given : Value)
  /-- A name must not begin with a scheme. -/
  | schemeInName (name : String)
  /-- The first segment of a path must not begin with a scheme. -/
  | schemeInPath (first : List Char)
  /-- No segment of a path may begin with a scheme. -/
  | schemeInSegment (segment : List Char)

/-- The message of a refusal. -/
def BucketNameError.message : BucketNameError → String
  | noName => "Bucket name must not be empty"
  | notAName given => "Bucket name must be a non-empty string: " ++ given.render
  | schemeInName name => "Bucket name must not have schema: " ++ name
  | schemeInPath first =>
      "BucketFileSystem.path() must not have schema and bucket name: " ++ String.ofList first
  | schemeInSegment segment =>
      "Path segments must not carry a scheme or bucket name: "
        ++ String.ofList (Text.Quoted.encode segment)

namespace Bucket

/-- The scheme of the locations of buckets. -/
def scheme : String := "gs"

/-- What a text that begins with a scheme begins with. -/
def schemeMark (scheme : String) : List Char :=
  scheme.toList ++ [':']

/-- Whether a text begins with a scheme. -/
def hasScheme (scheme : String) (text : List Char) : Bool :=
  (schemeMark scheme).isPrefixOf text

/-- A name under which a bucket may be opened. -/
def checkName : Value → Except BucketNameError String
  | .text name =>
      if name.isEmpty then .error (.notAName (.text name))
      else if hasScheme scheme name.toList then .error (.schemeInName name)
      else .ok name
  | given => .error (.notAName given)

end Bucket

end CloudBuckets
