import CloudBuckets.Fault

/-! Storage backends: the buckets there are, and how each request for them goes. -/

namespace CloudBuckets

/-- What a backend says about one bucket: whether it is requester-pays, which may be left open, or
a failure. -/
abbrev Reply := Except Fault (Option Bool)

/-- The names that a backend lists, up to where it fails, if it does. -/
structure Listing where
  names : List String
  failure : Option Fault

/-- All names of a listing, unless it fails. -/
def Listing.collect (listing : Listing) : Except Fault (List String) :=
  match listing.failure with
  | none => .ok listing.names
  | some fault => .error fault

/-- The buckets of a backend in order, and the failures that it has in store. -/
structure Backend where
  buckets : List (String × Reply) := []
  /-- What is said about all other buckets. -/
  missing : Reply := .ok (some false)
  /-- With what adapters fail to be built. -/
  buildFailure : Option Fault := none
  /-- With what listings fail. -/
  listFailure : Option Fault := none
  /-- How many names are listed before that. -/
  listedBefore : Nat := 0

namespace Backend

instance : Inhabited Backend := ⟨{}⟩

/-- What a backend says about a bucket. -/
def reply (b : Backend) (bucket : String) : Reply :=
  (b.buckets.lookup bucket).getD b.missing

/-- Whether a name begins with a text; without a text, any name does. -/
def begins (start : Option String) (name : String) : Bool :=
  match start with
  | none => true
  | some start => start.toList.isPrefixOf name.toList

/-- The listing of the names that begin with a text. -/
def listing (b : Backend) (start : Option String) : Listing :=
  let names := (b.buckets.map (·.1)).filter (begins start)
  match b.listFailure with
  | none => ⟨names, none⟩
  | some fault => ⟨names.take b.listedBefore, some fault⟩

/-- A change of a backend. -/
inductive Change
  | buckets (buckets : List (String × Reply))
  | missing (reply : Reply)
  | buildFailure (fault : Option Fault)
  | listFailure (fault : Option Fault)
  | listedBefore (count : Nat)

/-- The backend after a change. -/
def change (b : Backend) : Change → Backend
  | .buckets buckets => { b with buckets }
  | .missing reply => { b with missing := reply }
  | .buildFailure fault => { b with buildFailure := fault }
  | .listFailure fault => { b with listFailure := fault }
  | .listedBefore count => { b with listedBefore := count }

end Backend

end CloudBuckets
