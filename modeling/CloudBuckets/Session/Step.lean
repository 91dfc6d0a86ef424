import CloudBuckets.Configuration.Recipe
import CloudBuckets.Event
import CloudBuckets.Provider

/-! The steps of a session, and what they answer. -/

namespace CloudBuckets.Session

/-- Something that a session can know under a name. -/
inductive Item
  | handle (handle : Handle)
  | path (path : Path)
  | adapter (adapter : Adapter)
deriving DecidableEq, Repr

/-- An item with a number that tells it from items made apart from it. -/
structure Object where
  mark : Nat
  item : Item
deriving DecidableEq, Repr

namespace Object

/-- Whether two objects are one. Adapters have numbers of their own. -/
def isSame (a b : Object) : Bool :=
  match a.item, b.item with
  | .adapter a, .adapter b => a.id == b.id
  | _, _ => a.mark == b.mark

/-- Whether two objects are equal. -/
def isEqual (a b : Object) : Bool :=
  match a.item, b.item with
  | .handle a, .handle b => a.same b
  | .path a, .path b => a.same b
  | .adapter a, .adapter b => a.id == b.id
  | _, _ => false

end Object

/-- What an adapter may be asked for. -/
inductive Request
  | description
  | isRequesterPays (bucket : String)
  | reference (bucket : String)
  | list (start : Option String)
  | close

/-- What a step does. A configuration that is left out stands for the one set as the default, where
there may be a default. -/
inductive Action
  /-- Changes the backend, and what is done while the next adapter is built. Each of these steps
  may be given a name for what it makes. -/
  | set (changes : List Backend.Change) (hook : Option (List (Action × Option String)))
  /-- Opens a handle on a bucket. -/
  | openBucket (bucket : Value) (configuration : Option Configuration.Recipe)
      (options : Option ClientOptions) (cache : String) (scheme : String)
  /-- Makes a handle with a given adapter. -/
  | makeHandle (adapter bucket : String) (configuration : Option Configuration.Recipe)
      (scheme : String)
  /-- Tells everything about a handle. -/
  | inspect (handle : String)
  | closeHandle (handle : String)
  /-- Uses a handle, and fails in between if there is a failure. -/
  | useHandle (handle : String) (failure : Option Fault)
  | lookUpPrincipals (handle : String)
  | watch (handle : String)
  /-- Makes a path of segments. -/
  | resolvePath (handle : String) (segments : List (List Char))
  /-- Makes a path of a text as it stands. -/
  | makePath (handle : String) (raw : List Char)
  | joinPath (path : String) (segments : List (List Char))
  | absolutePath (path : String)
  /-- Tells which paths match a pattern. -/
  | matchPaths (handle : String) (pattern : List Char) (paths : List (List Char))
  /-- Asks a cache for an adapter. -/
  | resolve (configuration : Option Configuration.Recipe) (options : Option ClientOptions)
      (cache : String)
  | contains (configuration : Option Configuration.Recipe) (options : Option ClientOptions)
      (cache : String)
  | clear (cache : String)
  | setDefault (configuration : Option Configuration.Recipe)
  | getDefault
  | listBuckets (project start : Option String)
  /-- Tells whether two things are equal, and whether they are one. -/
  | compare (a b : String)
  /-- Counts things, equal ones once. -/
  | countDistinct (names : List String)
  | checkBilling (configuration : Option Configuration.Recipe)
  | settleBilling (bucket : String) (configuration : Option Configuration.Recipe)
      (adapter : String) (options : Option ClientOptions) (cache : String)
  /-- Builds an adapter past all caches. -/
  | build (project : String) (options : Option ClientOptions)
  | ask (adapter : String) (request : Request)
  /-- Asks a cache for one adapter several times at once, where the first builds fail. -/
  | resolveAtOnce (count : Nat) (configuration : Option Configuration.Recipe)
      (options : Option ClientOptions) (cache : String) (failures : List Fault)

/-- An action, and a name for what it makes. -/
abbrev Step := Action × Option String

/-- How deeply actions to be done while an adapter is built are nested. -/
def Action.depth : Action → Nat
  | .set _ (some hook) => depthOfHook hook + 1
  | _ => 0
where
  depthOfHook : List (Action × Option String) → Nat
    | [] => 0
    | (action, _) :: rest => max action.depth (depthOfHook rest)

/-- What a step answers. -/
inductive Answer
  | nothing
  | truth (value : Bool)
  | truths (values : List Bool)
  /-- Whether a bucket is requester-pays, which may be left open. -/
  | flag (value : Option Bool)
  | count (value : Nat)
  | text (value : String)
  | names (values : List String)
  | configuration (configuration : Configuration)
  | object (object : Object)
  /-- A handle with its roots. -/
  | inspected (handle : Handle) (roots : List Path)
  | settled (configuration : Configuration) (adapter : Adapter)
  /-- The builds that were seen, the errors, the different adapters, and the number of successes. -/
  | atOnce (builds : List Event) (errors : List Error) (adapters : List Adapter) (successes : Nat)

/-- An answer, or an error in place of it. -/
abbrev Outcome := Except Error Answer

/-- What can be seen of a step. -/
structure Report where
  outcome : Outcome
  events : List Event
  /-- The outcomes of the steps done while an adapter was built, if there were any. -/
  meanwhile : Option (List Outcome)
  /-- How many adapters each cache has. -/
  sizes : List (String × Nat)

end CloudBuckets.Session
