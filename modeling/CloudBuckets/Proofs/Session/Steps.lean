import CloudBuckets.Proofs.Calls
import CloudBuckets.Session.Run

/-! What the steps of a session do to its state. An action is put together from a few kinds of
changes, so what all of these lead to is what every action leads to.
-/

namespace CloudBuckets.Session

variable {β γ : Type} {factory : Factory} {Leads : World → World → Prop}

/-- A relation between the states before and after, for all changes that actions are put together
from, where adapters are built by `factory`.
-/
structure Steady (factory : Factory) (Leads : World → World → Prop) : Prop where
  trans : ∀ {u v w}, Leads u v → Leads v w → Leads u w
  /-- What concerns neither caches nor steps on record. -/
  aside : ∀ {v w}, w.caches = v.caches → w.journal = v.journal → Leads v w
  touch : ∀ w name, Leads w (w.touch name)
  clear : ∀ w name, Leads w (w.setCache name (w.cache name).clear)
  build : ∀ provider project options w, Leads w (factory provider project options w).2
  resolve
    : ∀ provider name key w,
        Leads w ((World.surroundings factory provider name).access.resolve key w).2

namespace Steady

/-- A plan is a list of such changes, by induction on the plan. -/
theorem carryOut (steady : Steady factory Leads) (provider : Provider) (name : String)
    (plan : Plan β) (w : World)
    : Leads w ((World.surroundings factory provider name).carryOut plan w).2 := by
  have seen : ∀ (v : World) (event : Event), Leads v (v.see event) :=
    fun v event => steady.aside rfl rfl
  induction plan generalizing w with
  | done result => exact steady.aside rfl rfl
  | resolve key next ih =>
      have resolved := steady.resolve provider name key w
      simp only [Surroundings.carryOut]
      cases ended : (World.surroundings factory provider name).access.resolve key w with
      | mk answer v =>
          rw [ended] at resolved
          cases answer with
          | none => exact resolved
          | some answer => exact steady.trans resolved (ih answer v)
  | build project options next ih => exact steady.trans (steady.build ..) (ih _ _)
  | probe adapter bucket next ih => exact steady.trans (seen w _) (ih _ _)
  | list adapter start next ih => exact steady.trans (seen w _) (ih _ _)
  | close adapter next ih => exact steady.trans (seen w _) (ih _)
  | note record next ih =>
      refine steady.trans ?_ (ih _)
      simp only [World.surroundings, World.note]
      split
      · exact seen w _
      · exact steady.aside rfl rfl

end Steady

namespace Act

/-- An action that is followed by another, unless it fails. -/
theorem run_bind (act : Act β) (next : β → Act γ) (w : World)
    : (act >>= next).run w
      = match act.run w with
        | (.ok value, w) => (next value).run w
        | (.error error, w) => (.error error, w) := by
  change (ExceptT.bindCont next (act.run w).1).run (act.run w).2 = _
  cases act.run w with
  | mk outcome v => cases outcome <;> rfl

/-- To ask the state for something leaves it as it is. -/
theorem run_ask (question : World → Except Error β) (w : World)
    : (ask question).run w = (question w, w) := by
  change (liftExcept (question w) : Act β).run w = _
  cases question w <;> rfl

/-- A handle is opened by a call once the cache has been prepared. -/
theorem run_openHandle (factory : Factory) (bucket : Value) (given : Option Configuration)
    (options : Option ClientOptions) (cache scheme : String) (w : World)
    : (openHandle factory bucket given options cache scheme).run w
      = let v := w.prepare cache bucket
        (World.surroundings factory (v.providerOf cache) cache).call
          (CloudBuckets.openBucket bucket (given.getD v.defaultConfiguration) options scheme) v :=
  rfl

/-- A handle that a step makes is one that has been opened from the same state. -/
theorem run_openBucket {factory : Factory} {bucket : Value}
    {recipe : Option Configuration.Recipe} {options : Option ClientOptions}
    {cache scheme : String} {w : World} {mark : Nat} {handle : Handle}
    (made
      : ((openBucket factory bucket recipe options cache scheme).run w).1
        = .ok (.object ⟨mark, .handle handle⟩))
    : ∃ given,
        w.make recipe = .ok given
        ∧ ((openHandle factory bucket given options cache scheme).run w).1 = .ok handle := by
  unfold openBucket at made
  rw [run_bind, run_ask] at made
  cases asked : w.make recipe with
  | error error =>
      rw [asked] at made
      cases made
  | ok given =>
      rw [asked] at made
      refine ⟨given, rfl, ?_⟩
      dsimp only at made
      rw [run_bind] at made
      cases opened : (openHandle factory bucket given options cache scheme).run w with
      | mk outcome v =>
          rw [opened] at made
          cases outcome <;> cases made
          rfl

/-- Doing the action leads from every state to one in relation to it. -/
def Does (act : Act β) (Leads : World → World → Prop) : Prop :=
  ∀ w, Leads w (act.run w).2

namespace Does

theorem bind (steady : Steady factory Leads) {act : Act β} {next : β → Act γ}
    (first : act.Does Leads) (rest : ∀ value, (next value).Does Leads)
    : (act >>= next).Does Leads := by
  intro w
  have reached := first w
  rw [run_bind]
  cases ended : act.run w with
  | mk outcome v =>
      rw [ended] at reached
      cases outcome with
      | ok value => exact steady.trans reached (rest value v)
      | error error => exact reached

theorem pure (steady : Steady factory Leads) (value : β) : (Pure.pure value : Act β).Does Leads :=
  fun _ => steady.aside rfl rfl

theorem throw (steady : Steady factory Leads) (error : Error)
    : (MonadExcept.throw error : Act β).Does Leads :=
  fun _ => steady.aside rfl rfl

theorem get (steady : Steady factory Leads) : (MonadState.get : Act World).Does Leads :=
  fun _ => steady.aside rfl rfl

theorem lift (steady : Steady factory Leads) (outcome : Except Error β)
    : (liftExcept outcome : Act β).Does Leads := by
  cases outcome <;> exact fun _ => steady.aside rfl rfl

theorem ask (steady : Steady factory Leads) (question : World → Except Error β)
    : (Act.ask question).Does Leads :=
  bind steady (get steady) fun w => lift steady (question w)

theorem change {f : World → World} (changes : ∀ w, Leads w (f w))
    : (modify f : Act PUnit).Does Leads :=
  changes

theorem mark (steady : Steady factory Leads) (item : Item) : (Act.mark item).Does Leads :=
  fun _ => steady.aside rfl rfl

theorem attempt {act : Act β} (does : act.Does Leads) : (Act.attempt act).Does Leads :=
  does

theorem mapM (steady : Steady factory Leads) {act : β → Act γ}
    (does : ∀ item, (act item).Does Leads)
    (items : List β)
    : (items.mapM act).Does Leads := by
  induction items with
  | nil => exact pure steady []
  | cons item rest ih =>
      rw [List.mapM_cons]
      exact bind steady (does item) fun _ => bind steady ih fun _ => pure steady _

theorem call (steady : Steady factory Leads) (provider : Provider) (name : String)
    (plan : Call β)
    : (Act.call factory provider name plan).Does Leads := by
  intro w
  have carried := steady.carryOut provider name plan.run w
  change Leads w ((World.surroundings factory provider name).call plan w).2
  simp only [Surroundings.call]
  cases ended : (World.surroundings factory provider name).carryOut plan.run w with
  | mk result v =>
      rw [ended] at carried
      cases result <;> exact carried

-----------------------------------------------------------------------------------------
-- The actions
-----------------------------------------------------------------------------------------

theorem openHandle (steady : Steady factory Leads) (bucket : Value) (given : Option Configuration)
    (options : Option ClientOptions) (cache scheme : String)
    : (Act.openHandle factory bucket given options cache scheme).Does Leads := by
  have prepares : ∀ w : World, Leads w (w.prepare cache bucket) := by
    intro w
    unfold World.prepare
    split
    · exact steady.touch w cache
    · exact steady.aside rfl rfl
  refine bind steady (change prepares) fun _ => bind steady (get steady) fun w => ?_
  exact call steady _ cache _

theorem resolve (steady : Steady factory Leads) (cache : String) (key : Key)
    : (Act.resolve factory cache key).Does Leads :=
  bind steady (get steady) fun _ => call steady _ cache _

theorem resolveAtOnce (steady : Steady factory Leads) (count : Nat) (cache : String) (key : Key)
    (failures : List Fault)
    : (Act.resolveAtOnce factory count cache key failures).Does Leads := by
  have resolves := fun _ : Unit => attempt (resolve steady cache key)
  refine bind steady (get steady) fun before => ?_
  refine bind steady (change fun _ => steady.aside rfl rfl) fun _ => ?_
  refine bind steady (mapM steady resolves _) fun outcomes => ?_
  refine bind steady (get steady) fun after => ?_
  refine bind steady (change fun w => steady.aside rfl rfl) fun _ => ?_
  exact pure steady _

theorem askAdapter (steady : Steady factory Leads) (adapter : Adapter) (request : Request)
    : (Act.askAdapter factory adapter request).Does Leads := by
  cases request with
  | description => exact pure steady _
  | isRequesterPays bucket =>
      refine bind steady (call steady _ _ _) fun answer => ?_
      cases answer with
      | ok flag => exact pure steady _
      | error error => exact throw steady _
  | reference bucket =>
      refine bind steady (change fun w => ?_) fun _ => pure steady _
      exact steady.aside rfl rfl
  | list start =>
      refine bind steady (call steady _ _ _) fun answer => ?_
      cases answer with
      | ok names => exact pure steady _
      | error error => exact throw steady _
  | close => exact bind steady (call steady _ _ _) fun _ => pure steady _

/-- What all changes of the state lead to is what every action leads to, by cases on the action. -/
theorem perform (steady : Steady factory Leads) (action : Action)
    : (Act.perform factory action).Does Leads := by
  have touches : ∀ cache, (modify (·.touch cache) : Act PUnit).Does Leads :=
    fun cache => change fun w => steady.touch w cache
  cases action with
  | set changes hook =>
      exact bind steady (change fun w => steady.aside rfl rfl) fun _ => pure steady _
  | openBucket bucket configuration options cache scheme =>
      refine bind steady (ask steady _) fun given => ?_
      exact bind steady (openHandle steady _ _ _ _ _) fun handle => mark steady _
  | makeHandle adapter bucket configuration scheme =>
      refine bind steady (ask steady _) fun adapter => ?_
      refine bind steady (ask steady _) fun configuration => ?_
      exact bind steady (lift steady _) fun handle => mark steady _
  | inspect handle =>
      refine bind steady (ask steady _) fun handle => ?_
      exact bind steady (lift steady _) fun roots => pure steady _
  | closeHandle handle => exact bind steady (ask steady _) fun handle => pure steady _
  | useHandle handle failure =>
      refine bind steady (ask steady _) fun handle => ?_
      cases failure with
      | some fault => exact throw steady _
      | none => exact pure steady _
  | lookUpPrincipals handle | watch handle =>
      refine bind steady ?_ fun _ => throw steady _
      exact bind steady (ask steady _) fun _ => pure steady _
  | resolvePath handle segments =>
      refine bind steady (ask steady _) fun handle => ?_
      exact bind steady (lift steady _) fun path => mark steady _
  | makePath handle raw => exact bind steady (ask steady _) fun handle => mark steady _
  | joinPath path segments =>
      refine bind steady (ask steady _) fun path => ?_
      exact bind steady (lift steady _) fun path => mark steady _
  | absolutePath name =>
      refine bind steady (ask steady _) fun path => ?_
      split
      · exact bind steady (ask steady _) fun object => pure steady _
      · exact mark steady _
  | matchPaths handle pattern paths =>
      refine bind steady (ask steady _) fun handle => ?_
      refine bind steady (lift steady _) fun matcher => ?_
      refine bind steady (mapM steady (fun path => lift steady _) _) fun paths => ?_
      exact pure steady _
  | resolve configuration options cache =>
      refine bind steady (touches cache) fun _ => ?_
      refine bind steady (ask steady _) fun key => ?_
      exact bind steady (resolve steady cache key) fun adapter => mark steady _
  | contains configuration options cache =>
      refine bind steady (ask steady _) fun key => ?_
      refine bind steady (touches cache) fun _ => ?_
      exact bind steady (get steady) fun w => pure steady _
  | clear cache =>
      exact bind steady (change fun w => steady.clear w cache) fun _ => pure steady _
  | setDefault configuration =>
      refine bind steady (ask steady _) fun configuration => ?_
      exact bind steady (change fun w => steady.aside rfl rfl) fun _ => pure steady _
  | getDefault => exact bind steady (get steady) fun w => pure steady _
  | listBuckets project start =>
      refine bind steady (get steady) fun w => ?_
      exact bind steady (call steady _ _ _) fun names => pure steady _
  | compare a b =>
      refine bind steady (get steady) fun w => ?_
      refine bind steady (ask steady _) fun a => ?_
      split <;> exact pure steady _
  | countDistinct names =>
      refine bind steady (mapM steady (fun name => ask steady _) names) fun objects => ?_
      exact pure steady _
  | checkBilling configuration =>
      refine bind steady (ask steady _) fun configuration => ?_
      exact bind steady (lift steady _) fun _ => pure steady _
  | settleBilling bucket configuration adapter options cache =>
      refine bind steady (ask steady _) fun configuration => ?_
      refine bind steady (ask steady _) fun adapter => ?_
      refine bind steady (touches cache) fun _ => ?_
      refine bind steady (get steady) fun w => ?_
      exact bind steady (call steady _ _ _) fun settled => pure steady _
  | build project options =>
      refine bind steady (get steady) fun w => ?_
      exact bind steady (call steady _ _ _) fun adapter => mark steady _
  | ask adapter request =>
      exact bind steady (ask steady _) fun adapter => askAdapter steady adapter request
  | resolveAtOnce count configuration options cache failures =>
      refine bind steady (touches cache) fun _ => ?_
      refine bind steady (ask steady _) fun key => ?_
      exact resolveAtOnce steady count cache key failures

end Does

end Act

-----------------------------------------------------------------------------------------
-- Whole steps
-----------------------------------------------------------------------------------------

namespace World

/-- To know what a step has made concerns neither caches nor steps on record. -/
@[simp]
theorem know_caches (w : World) (name : Option String) (outcome : Outcome)
    : (w.know name outcome).caches = w.caches := by
  unfold know
  split <;> rfl

@[simp]
theorem know_journal (w : World) (name : Option String) (outcome : Outcome)
    : (w.know name outcome).journal = w.journal := by
  unfold know
  split <;> rfl

end World

/-- A step changes the caches as its action does. -/
theorem doStep_caches (factory : Factory) (step : Step) (w : World)
    : (doStep factory step w).2.caches = ((Act.perform factory step.1).run w).2.caches := by
  unfold doStep
  cases (Act.perform factory step.1).run w
  simp [World.record]

/-- A step is put on record after those that have been done while its action was. -/
theorem doStep_journal (factory : Factory) (step : Step) (w : World)
    : (doStep factory step w).2.journal
      = ((Act.perform factory step.1).run w).2.journal
        ++ [⟨step, (doStep factory step w).1, (doStep factory step w).2.caches⟩] := by
  unfold doStep
  cases (Act.perform factory step.1).run w
  simp [World.record]

theorem doStep_recorded (factory : Factory) (step : Step) (w : World)
    : ⟨step, (doStep factory step w).1, (doStep factory step w).2.caches⟩
      ∈ (doStep factory step w).2.journal := by
  rw [doStep_journal]
  exact List.mem_append_right _ (List.mem_singleton.mpr rfl)

end CloudBuckets.Session
