import CloudBuckets.Plan
import CloudBuckets.Session.Step

/-! The state of a session: the backend, the caches, and what is known under names. -/

namespace CloudBuckets.Session

/-- A step that has been done, with its outcome and the caches as it left them. -/
structure Deed where
  step : Step
  outcome : Outcome
  caches : List (String × Cache Key Adapter)

/-- The state of a session. -/
structure World where
  /-- What adapters the session builds. -/
  provider : Provider
  /-- Whether log records are seen. -/
  logging : Bool
  backend : Backend := {}
  /-- The steps to be done while the next adapter is built. -/
  hook : List Step := []
  /-- The failures with which the next builds end. -/
  failures : List Fault := []
  caches : List (String × Cache Key Adapter) := []
  default : Option Configuration := none
  objects : List (String × Object) := []
  nextAdapter : Nat := 0
  nextMark : Nat := 0
  /-- What has been seen in the current step. -/
  events : List Event := []
  /-- The outcomes of the hook that has finished last in the current step. -/
  meanwhile : Option (List Outcome) := none
  /-- All steps that have been done, those of hooks included, in the order in which they ended. -/
  journal : List Deed := []

/-- A way to build adapters of a provider, for a project to bill and options to connect with. It
may do anything to the state of the session. -/
abbrev Factory := Provider → String → Option ClientOptions → World → Except Fault Adapter × World

/-- The name of the cache that is used where none is given. It always holds adapters for the
storage service. -/
def processWide : String := "default"

namespace World

/-- Sees an event. -/
def see (w : World) (event : Event) : World :=
  { w with events := w.events ++ [event] }

/-- Sees a log record, if records are seen. -/
def note (w : World) (record : LogRecord) : World :=
  if w.logging then w.see (.log record) else w

/-- The adapters that a cache holds. -/
def providerOf (w : World) (name : String) : Provider :=
  if name = processWide then .cloud else w.provider

/-- The cache with a name. -/
def cache (w : World) (name : String) : Cache Key Adapter :=
  (w.caches.lookup name).getD .empty

/-- Puts a cache in place of the one with a name. -/
def setCache (w : World) (name : String) (cache : Cache Key Adapter) : World :=
  { w with caches := replace w.caches }
where
  replace : List (String × Cache Key Adapter) → List (String × Cache Key Adapter)
    | [] => [(name, cache)]
    | entry :: rest => if entry.1 = name then (name, cache) :: rest else entry :: replace rest

/-- Makes the cache with a name unless there is one. -/
def touch (w : World) (name : String) : World :=
  w.setCache name (w.cache name)

/-- Makes the cache that a handle on a bucket is going to use. One that is named is there from the
start, and the process-wide one once the name of the bucket has been checked. -/
def prepare (w : World) (name : String) (bucket : Value) : World :=
  if name ≠ processWide || (Bucket.checkName bucket).isOk then w.touch name else w

/-- The configuration for calls that are given none. -/
def defaultConfiguration (w : World) : Configuration :=
  w.default.getD .standard

/-- The object known under a name. -/
def object (w : World) (name : String) : Except Error Object :=
  match w.objects.lookup name with
  | some object => .ok object
  | none => .error (.unknownName name)

/-- The handle known under a name. -/
def handle (w : World) (name : String) : Except Error Handle := do
  match (← w.object name).item with
  | .handle handle => return handle
  | _ => throw (.unknownName name)

/-- The path known under a name. -/
def path (w : World) (name : String) : Except Error Path := do
  match (← w.object name).item with
  | .path path => return path
  | _ => throw (.unknownName name)

/-- The adapter known under a name. -/
def adapter (w : World) (name : String) : Except Error Adapter := do
  match (← w.object name).item with
  | .adapter adapter => return adapter
  | _ => throw (.unknownName name)

/-- Makes an item an object of its own. -/
def mark (w : World) (item : Item) : Answer × World :=
  (.object ⟨w.nextMark, item⟩, { w with nextMark := w.nextMark + 1 })

/-- Knows the object that a step has made under a name. -/
def know (w : World) (name : Option String) (outcome : Outcome) : World :=
  match name, outcome with
  | some name, .ok (.object object) => { w with objects := (name, object) :: w.objects }
  | _, _ => w

/-- Puts a step that has been done on record. -/
def record (w : World) (step : Step) (outcome : Outcome) : World :=
  { w with journal := w.journal ++ [⟨step, outcome, w.caches⟩] }

/-- The configuration that a recipe makes, if there is a recipe. -/
def make (w : World) : Option Configuration.Recipe → Except Error (Option Configuration)
  | none => .ok none
  | some recipe => (recipe.make fun name => (w.handle name).map (·.configuration)).map some

/-- The configuration that a recipe makes, where there has to be one. -/
def configuration (w : World) (recipe : Option Configuration.Recipe)
    : Except Error Configuration := do
  match ← w.make recipe with
  | some configuration => return configuration
  | none => throw .noConfiguration

/-- The key of a configuration that a recipe makes. -/
def key (w : World) (recipe : Option Configuration.Recipe) (options : Option ClientOptions)
    : Except Error Key := do
  return ⟨← w.configuration recipe, options⟩

/-- Builds an adapter. The hook is taken and done first, by `runHook`. -/
def build (runHook : List Step → World → List Outcome × World) : Factory :=
  fun provider project options w =>
  let w := w.see (.ofBuild provider project options)
  match w.failures with
  | failure :: rest => (.error failure, { w with failures := rest })
  | [] =>
      let w :=
        if w.hook.isEmpty then w
        else
          let (outcomes, w) := runHook w.hook { w with hook := [] }
          { w with meanwhile := some outcomes }
      match w.backend.buildFailure with
      | some failure => (.error failure, w)
      | none =>
          (.ok ⟨w.nextAdapter, provider, project, options⟩,
            { w with nextAdapter := w.nextAdapter + 1 })

/-- The surroundings of calls that use the cache with a name and build adapters of a provider. -/
def surroundings (factory : Factory) (provider : Provider) (name : String)
    : Surroundings World where
  cache w := w.cache name
  setCache cache w := w.setCache name cache
  build := factory provider
  probe adapter bucket w :=
    (adapter.provider.probe bucket (w.backend.reply bucket), w.see (.probe adapter bucket))
  list adapter start w :=
    (adapter.provider.list (w.backend.listing start), w.see (.list adapter start))
  close adapter w := w.see (.close adapter)
  note record w := w.note record

end World

end CloudBuckets.Session
