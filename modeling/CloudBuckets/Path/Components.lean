/-! Texts of paths: components between slashes, and how segments are put together. -/

namespace CloudBuckets.Path

/-- The texts between slashes, empty ones included. -/
def split : List Char → List (List Char)
  | [] => [[]]
  | c :: rest =>
      if c = '/' then [] :: split rest
      else
        match split rest with
        | [] => [[c]]
        | first :: more => (c :: first) :: more

/-- The components of a text, which are not empty. -/
def components (text : List Char) : List (List Char) :=
  (split text).filter fun component => !component.isEmpty

/-- What follows the last slash of a text, slashes at its end aside. -/
def lastName (text : List Char) : List Char :=
  ((text.reverse.dropWhile (· == '/')).takeWhile (· != '/')).reverse

/-- Appends a segment, with a slash in between unless there is one. An empty segment adds
nothing. -/
def append (joined segment : List Char) : List Char :=
  if segment.isEmpty then joined
  else if joined.isEmpty || joined.getLast? == some '/' then joined ++ segment
  else joined ++ '/' :: segment

/-- Segments one after the other. -/
def join (segments : List (List Char)) : List Char :=
  segments.foldl append []

/-- A text with one slash in place of several. -/
def collapse : List Char → List Char
  | [] => []
  | c :: rest => if c = '/' && rest.head? == some '/' then collapse rest else c :: collapse rest

end CloudBuckets.Path
