import CloudBuckets.Proofs.Session.Steps

/-! How a session evolves. Steps are done one after the other, but a factory may do more of them
while an adapter is built, and these may build adapters in turn.
-/

namespace CloudBuckets.Session

-----------------------------------------------------------------------------------------
-- Evolution
-----------------------------------------------------------------------------------------

/-- The states that a session may come to from a first one, by steps and by anything else that
neither touches a cache nor puts a step on record. In each step a factory of the given honest builds
adapters, and may let the session evolve while it does.
-/
inductive Evolves (Honest : Factory → Prop) : World → World → Prop
  | refl (w : World) : Evolves Honest w w
  | aside {first w next : World} (sofar : Evolves Honest first w) (caches : next.caches = w.caches)
    (journal : next.journal = w.journal)
    : Evolves Honest first next
  | step {first w : World} (sofar : Evolves Honest first w) {factory : Factory}
    (honest : Honest factory)
    (nested : ∀ provider project options v, Evolves Honest v (factory provider project options v).2)
    (step : Step)
    : Evolves Honest first (doStep factory step w).2

namespace Evolves

variable {Honest : Factory → Prop}

/-- A session goes on from where it has come to, by induction on what follows. -/
theorem trans {first middle last : World} (earlier : Evolves Honest first middle)
    (later : Evolves Honest middle last)
    : Evolves Honest first last := by
  induction later with
  | refl => exact earlier
  | aside _ caches journal ih => exact .aside (ih earlier) caches journal
  | step _ honest nested step ih => exact .step (ih earlier) honest nested step

/-- To do several steps is to evolve, by induction on the steps. -/
theorem doSteps {factory : Factory} (honest : Honest factory)
    (nested : ∀ provider project options v, Evolves Honest v (factory provider project options v).2)
    (steps : List Step) (w : World)
    : Evolves Honest w (doSteps factory steps w).2 := by
  induction steps generalizing w with
  | nil => exact .refl w
  | cons step rest ih => exact (Evolves.step (.refl w) honest nested step).trans (ih _)

/-- To build an adapter is to evolve if to do the hook is. -/
theorem build {runHook : HookRunner}
    (hook : ∀ steps w, Evolves Honest w (runHook steps w).2) (provider : Provider) (project : String)
    (options : Option ClientOptions) (w : World)
    : Evolves Honest w (World.build runHook provider project options w).2 := by
  have seen : Evolves Honest w (w.see (.ofBuild provider project options)) :=
    .aside (.refl w) rfl rfl
  unfold World.build
  generalize w.see (.ofBuild provider project options) = v at seen
  dsimp only
  split
  · exact .aside seen rfl rfl
  · have hooked : Evolves Honest w
        (if v.hook.isEmpty then v
          else { (runHook v.hook { v with hook := [] }).2 with
            meanwhile := some (runHook v.hook { v with hook := [] }).1 }) := by
      split
      · exact seen
      · have taken : Evolves Honest w { v with hook := [] } := .aside seen rfl rfl
        exact .aside (taken.trans (hook _ _)) rfl rfl
    generalize (if v.hook.isEmpty then v
      else { (runHook v.hook { v with hook := [] }).2 with
        meanwhile := some (runHook v.hook { v with hook := [] }).1 }) = u at hooked
    split
    · exact hooked
    · exact .aside hooked rfl rfl

/-- Hooks of every depth let a session evolve, by induction on the depth. -/
theorem hookRunner (honest : ∀ runHook, Honest (World.build runHook)) (depth : Nat)
    (steps : List Step) (w : World)
    : Evolves Honest w (hookRunner depth steps w).2 := by
  induction depth generalizing steps w with
  | zero => exact .refl w
  | succ depth ih => exact doSteps (honest _) (build ih) steps w

end Evolves

/-- Every report of a session is on a step that has been put on record in a state to which the
session evolves.
-/
theorem report_journal {Honest : Factory → Prop} {factory : Factory} (honest : Honest factory)
    (nested : ∀ provider project options v, Evolves Honest v (factory provider project options v).2)
    {steps : List Step} {w : World} {seen : Report} (member : seen ∈ report factory steps w)
    : ∃ v deed,
        Evolves Honest w v
        ∧ deed ∈ v.journal
        ∧ deed.outcome = seen.outcome
        ∧ (deed.caches.map fun (name, cache) => (name, cache.size)) = seen.sizes := by
  induction steps generalizing w with
  | nil => cases member
  | cons step rest ih =>
      have fresh : Evolves Honest w { w with events := [], meanwhile := none } :=
        .aside (.refl w) rfl rfl
      have done := Evolves.step fresh honest nested step
      rcases List.mem_cons.mp member with rfl | later
      · exact ⟨_, _, done, doStep_recorded .., rfl, rfl⟩
      · obtain ⟨v, deed, evolves, facts⟩ := ih later
        exact ⟨v, deed, done.trans evolves, facts⟩

/-- The same for a session from its start. -/
theorem run_journal {Honest : Factory → Prop} (honest : ∀ runHook, Honest (World.build runHook))
    {provider : Provider} {logging : Bool} {steps : List Step} {seen : Report}
    (member : seen ∈ run provider logging steps)
    : ∃ v deed,
        Evolves Honest { provider, logging } v
        ∧ deed ∈ v.journal
        ∧ deed.outcome = seen.outcome
        ∧ (deed.caches.map fun (name, cache) => (name, cache.size)) = seen.sizes :=
  report_journal (honest _) (Evolves.build (Evolves.hookRunner honest _)) member

end CloudBuckets.Session
