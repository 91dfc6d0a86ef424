import CloudBuckets.Opening
import CloudBuckets.Session.World

/-! Sessions: a list of steps, done one after the other from a clean state. -/

namespace CloudBuckets.Session

/-- Something done to the state of a session. What has been done up to an error stays done. -/
abbrev Act := ExceptT Error (StateM World)

/-- A way to do the steps of a hook. -/
abbrev HookRunner := List Step → World → List Outcome × World

namespace Act

/-- What the state tells. -/
def ask {β : Type} (question : World → Except Error β) : Act β := do
  liftExcept (question (← get))

/-- Carries out a call with adapters of a provider and the cache of a name. -/
def call {β : Type} (factory : Factory) (provider : Provider) (cache : String) (plan : Call β)
    : Act β :=
  ExceptT.mk (World.surroundings factory provider cache |>.call plan)

/-- The result of doing something, or the error that it ends with. -/
def attempt {β : Type} (act : Act β) : Act (Except Error β) :=
  ExceptT.mk fun w =>
    let (outcome, w) := act.run w
    (.ok outcome, w)

/-- Makes an item an object of its own. -/
def mark (item : Item) : Act Answer :=
  modifyGet fun w => w.mark item

/-- Opens a handle on a bucket, under the default configuration if none is given. -/
def openHandle (factory : Factory) (bucket : Value) (given : Option Configuration)
    (options : Option ClientOptions) (cache scheme : String) : Act Handle := do
  modify (·.prepare cache bucket)
  let w ← get
  call factory (w.providerOf cache) cache
    (CloudBuckets.openBucket bucket (given.getD w.defaultConfiguration) options scheme)

/-- Opens a handle on a bucket, under the configuration that a recipe makes. -/
def openBucket (factory : Factory) (bucket : Value)
    (configuration : Option Configuration.Recipe) (options : Option ClientOptions)
    (cache scheme : String) : Act Answer := do
  let given ← ask (·.make configuration)
  mark (.handle (← openHandle factory bucket given options cache scheme))

/-- Asks a cache for the adapter of a key. -/
def resolve (factory : Factory) (cache : String) (key : Key) : Act Adapter := do
  call factory ((← get).providerOf cache) cache (Call.resolve key)

/-- Asks a cache for the adapter of a key several times, where the first builds fail. What is seen
goes into the answer. -/
def resolveAtOnce (factory : Factory) (count : Nat) (cache : String) (key : Key)
    (failures : List Fault) : Act Answer := do
  let before := (← get).events
  modify fun w => { w with events := [], failures }
  let outcomes ← (List.replicate count ()).mapM fun _ => attempt (resolve factory cache key)
  let seen := (← get).events
  modify fun w => { w with events := before, failures := [] }
  let adapters := outcomes.filterMap fun
    | .ok adapter => some adapter
    | .error _ => none
  let errors := outcomes.filterMap fun
    | .ok _ => none
    | .error error => some error
  return .atOnce (seen.filter (·.isBuild)) errors adapters.eraseDups adapters.length

/-- Asks an adapter for something. -/
def askAdapter (factory : Factory) (adapter : Adapter) : Request → Act Answer
  | .description => return .text adapter.describe
  | .isRequesterPays bucket => do
      match ← call factory adapter.provider processWide (Call.probe adapter bucket) with
      | .ok flag => return .flag flag
      | .error error => throw error.toError
  | .reference bucket => do
      modify (·.see (.refer adapter bucket adapter.requestProject))
      return .text bucket
  | .list start => do
      match ← call factory adapter.provider processWide (Call.list adapter start) with
      | .ok names => return .names names
      | .error error => throw error.toError
  | .close => do
      call factory adapter.provider processWide (Call.close adapter)
      return .nothing

/-- Does an action. -/
def perform (factory : Factory) : Action → Act Answer
  | .set changes hook => do
      modify fun w => { w with
        backend := changes.foldl Backend.change w.backend
        hook := hook.getD w.hook }
      return .nothing
  | .openBucket bucket configuration options cache scheme =>
      openBucket factory bucket configuration options cache scheme
  | .makeHandle adapter bucket configuration scheme => do
      let adapter ← ask (·.adapter adapter)
      let configuration ← ask (·.configuration configuration)
      let handle ← liftExcept
        ((Handle.make adapter bucket configuration scheme).mapError Error.bucketName)
      mark (.handle handle)
  | .inspect handle => do
      let handle ← ask (·.handle handle)
      return .inspected handle (← liftExcept (handle.roots.mapError Error.bucketName))
  | .closeHandle handle => return .truth (← ask (·.handle handle)).isOpen
  | .useHandle handle failure => do
      let handle ← ask (·.handle handle)
      match failure with
      | some fault => throw (.fault fault)
      | none => return .truths [true, handle.isOpen]
  | .lookUpPrincipals handle => do
      discard (ask (·.handle handle))
      throw (.unsupported ⟨Handle.principalLookup, none⟩)
  | .watch handle => do
      discard (ask (·.handle handle))
      throw (.unsupported ⟨Handle.watching, none⟩)
  | .resolvePath handle segments => do
      let handle ← ask (·.handle handle)
      mark (.path (← liftExcept (handle.toView.pathOf segments)))
  | .makePath handle raw => do
      let handle ← ask (·.handle handle)
      mark (.path ⟨handle.toView, raw⟩)
  | .joinPath path segments => do
      let path ← ask (·.path path)
      mark (.path (← liftExcept ((path.join? segments).mapError Error.bucketName)))
  | .absolutePath name => do
      let path ← ask (·.path name)
      if path.isAbsolute then return .object (← ask (·.object name))
      else mark (.path path.toAbsolute)
  | .matchPaths handle pattern paths => do
      let handle ← ask (·.handle handle)
      let matcher ← liftExcept ((PathMatcher.ofText pattern).mapError Error.matcher)
      let paths ← paths.mapM fun path => liftExcept (handle.toView.pathOf [path])
      return .truths (paths.map fun path => matcher.accepts path.raw)
  | .resolve configuration options cache => do
      modify (·.touch cache)
      let key ← ask (·.key configuration options)
      mark (.adapter (← resolve factory cache key))
  | .contains configuration options cache => do
      let key ← ask (·.key configuration options)
      modify (·.touch cache)
      return .truth (((← get).cache cache).contains key)
  | .clear cache => do
      modify fun w => w.setCache cache (w.cache cache).clear
      return .nothing
  | .setDefault configuration => do
      let configuration ← ask (·.make configuration)
      modify fun w => { w with default := configuration }
      return .nothing
  | .getDefault => return .configuration (← get).defaultConfiguration
  | .listBuckets project start => do
      let w ← get
      let names ← call factory w.provider processWide (CloudBuckets.listBuckets project start)
      return .names names
  | .compare a b => do
      let w ← get
      let a ← ask (·.object a)
      match w.object b with
      | .ok b => return .truths [a.isEqual b, a.isSame b]
      | .error _ => return .truths [false, false]
  | .countDistinct names => do
      let objects ← names.mapM fun name => ask (·.object name)
      return .count (objects.foldr (fun o seen =>
        if seen.any o.isEqual then seen else o :: seen) []).length
  | .checkBilling configuration => do
      let configuration ← ask (·.configuration configuration)
      liftExcept ((Billing.check configuration).mapError Error.configuration)
      return .nothing
  | .settleBilling bucket configuration adapter options cache => do
      let configuration ← ask (·.configuration configuration)
      let adapter ← ask (·.adapter adapter)
      modify (·.touch cache)
      let (configuration, adapter) ← call factory ((← get).providerOf cache) cache
        (Billing.settle bucket configuration adapter options)
      return .settled configuration adapter
  | .build project options => do
      mark (.adapter (← call factory (← get).provider processWide (Call.build project options)))
  | .ask adapter request => do
      askAdapter factory (← ask (·.adapter adapter)) request
  | .resolveAtOnce count configuration options cache failures => do
      modify (·.touch cache)
      let key ← ask (·.key configuration options)
      resolveAtOnce factory count cache key failures

end Act

/-- Does a step, knows what it has made under its name, and puts it on record. -/
def doStep (factory : Factory) (step : Step) (w : World) : Outcome × World :=
  let (outcome, w) := (Act.perform factory step.1).run w
  (outcome, (w.know step.2 outcome).record step outcome)

/-- Does steps one after the other. -/
def doSteps (factory : Factory) : List Step → World → List Outcome × World
  | [], w => ([], w)
  | step :: rest, w =>
      let (outcome, w) := doStep factory step w
      let (outcomes, w) := doSteps factory rest w
      (outcome :: outcomes, w)

/-- Does the steps of hooks that are nested at most as deeply as `depth` says. -/
def hookRunner (depth : Nat) : HookRunner :=
  match depth with
  | 0 => fun _ w => ([], w)
  | depth + 1 => doSteps (World.build (hookRunner depth))

/-- Does steps one after the other, and reports on each of them. -/
def report (factory : Factory) : List Step → World → List Report
  | [], _ => []
  | step :: rest, w =>
      let (outcome, w) := doStep factory step { w with events := [], meanwhile := none }
      let sizes := w.caches.map fun (name, cache) => (name, cache.size)
      ⟨outcome, w.events, w.meanwhile, sizes⟩ :: report factory rest w

/-- A session with adapters of a provider, where log records may be seen. No hook is nested more
deeply than in the steps of the session. -/
def run (provider : Provider) (logging : Bool) (steps : List Step) : List Report :=
  let factory := World.build (hookRunner (Action.depth.depthOfHook steps))
  report factory steps { provider, logging }

end CloudBuckets.Session
