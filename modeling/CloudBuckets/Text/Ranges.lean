/-! Character classes given as sorted, disjoint ranges of code points. -/

namespace CloudBuckets.Text

/-- Ranges of code points in ascending order, both ends included. -/
abbrev Ranges := List (Nat × Nat)

namespace Ranges

/-- Membership stops at the first range that begins above the code point. -/
def contains : Ranges → Nat → Bool
  | [], _ => false
  | (first, last) :: rest, code =>
      if code < first then false else code ≤ last || contains rest code

end Ranges

end CloudBuckets.Text
