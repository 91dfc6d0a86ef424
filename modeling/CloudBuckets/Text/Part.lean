/-! Parts of texts. -/

namespace CloudBuckets.Text

/-- Whether a text holds another one as a part. -/
def holds (text part : List Char) : Bool :=
  part.isPrefixOf text ||
    match text with
    | [] => false
    | _ :: rest => holds rest part

end CloudBuckets.Text
