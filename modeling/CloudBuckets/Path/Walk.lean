import CloudBuckets.Path.Basic
import CloudBuckets.Error

/-! Ways from one path to the next. -/

namespace CloudBuckets

namespace View

/-- The path that a list of segments amounts to, which must not be empty. -/
def pathOf (v : View) : List (List Char) → Except Error Path
  | [] => .error .noSegment
  | first :: more => (v.path first more).mapError .bucketName

end View

namespace Path

/-- A way from one path to another. -/
inductive Move
  | toAbsolute
  | join (segments : List (List Char))
deriving DecidableEq, Repr

/-- The path that a move leads to. -/
def move (p : Path) : Move → Except BucketNameError Path
  | .toAbsolute => .ok p.toAbsolute
  | .join segments => p.join? segments

/-- Where moves lead, one after the other. After a move that fails, the next one starts from the
same path. -/
def walk (p : Path) : List Move → List (Except BucketNameError Path)
  | [] => []
  | m :: rest =>
      match p.move m with
      | .ok next => .ok next :: next.walk rest
      | .error error => .error error :: p.walk rest

end Path

end CloudBuckets
