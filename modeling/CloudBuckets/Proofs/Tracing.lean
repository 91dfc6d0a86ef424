import CloudBuckets.Proofs.Recording

/-! Everything that a call does outside of the cache. Calls are carried out in surroundings that
note each effect in order, where all else goes as it does without the notes.
-/

namespace CloudBuckets

/-- Something that a call does outside of the cache, with the answer if it gets one. -/
inductive Effect
  | note (record : LogRecord)
  | build (project : String) (options : Option ClientOptions) (answer : Except Fault Adapter)
  | probe (adapter : Adapter) (bucket : String) (answer : Except AdapterError (Option Bool))
  | list (adapter : Adapter) (start : Option String) (answer : Except AdapterError (List String))
  | close (adapter : Adapter)

namespace Effect

/-- The handles that are opened, according to the log. -/
def opened (trace : List Effect) : List Handle :=
  trace.filterMap fun
    | .note (.opened handle) => some handle
    | _ => none

/-- The adapters that are built, in order, and the keys that the log says they are built for. -/
def built : List Effect → List (Key × Adapter)
  | .note (.building key) :: .build _ _ (.ok adapter) :: rest => (key, adapter) :: built rest
  | _ :: rest => built rest
  | [] => []

end Effect

namespace Surroundings

variable {σ β : Type} {s : Surroundings σ}

-----------------------------------------------------------------------------------------
-- The trace
-----------------------------------------------------------------------------------------

/-- The surroundings with a trace of all effects. -/
def traced (s : Surroundings σ) : Surroundings (σ × List Effect) where
  cache w := s.cache w.1
  setCache cache w := (s.setCache cache w.1, w.2)
  build project options w :=
    let (answer, next) := s.build project options w.1
    (answer, next, w.2 ++ [.build project options answer])
  probe adapter bucket w :=
    let (answer, next) := s.probe adapter bucket w.1
    (answer, next, w.2 ++ [.probe adapter bucket answer])
  list adapter start w :=
    let (answer, next) := s.list adapter start w.1
    (answer, next, w.2 ++ [.list adapter start answer])
  close adapter w := (s.close adapter w.1, w.2 ++ [.close adapter])
  note record w := (s.note record w.1, w.2 ++ [.note record])

/-- The effects of a call, in order. -/
def trace (s : Surroundings σ) (call : Call β) (w : σ) : List Effect :=
  (s.traced.call call (w, [])).2.2

theorem traced_mirrors (s : Surroundings σ) : Mirrors Prod.fst s s.traced :=
  ⟨fun _ => rfl, fun _ _ => rfl, fun _ _ _ => rfl, fun _ _ _ => rfl, fun _ _ _ => rfl,
    fun _ _ => rfl, fun _ _ => rfl⟩

-----------------------------------------------------------------------------------------
-- What calls keep
-----------------------------------------------------------------------------------------

/-- Nothing that calls are put together from changes that the state has the property. -/
structure Keeps (s : Surroundings σ) (Holds : σ → Prop) : Prop where
  setCache : ∀ cache w, Holds w → Holds (s.setCache cache w)
  build : ∀ project options w, Holds w → Holds (s.build project options w).2
  probe : ∀ adapter bucket w, Holds w → Holds (s.probe adapter bucket w).2
  list : ∀ adapter start w, Holds w → Holds (s.list adapter start w).2
  close : ∀ adapter w, Holds w → Holds (s.close adapter w)
  note : ∀ record w, Holds w → Holds (s.note record w)

namespace Keeps

variable {Holds : σ → Prop}

theorem told (keeps : s.Keeps Holds) (key : Key) (stage : Cache.Stage Fault Adapter) {w : σ}
    (holds : Holds w)
    : Holds (s.access.told key stage w) := by
  unfold Cache.Access.told
  split
  · rename_i notice _
    cases notice <;> exact keeps.note _ w holds
  · exact holds

theorem resolve (keeps : s.Keeps Holds) (key : Key) {w : σ} (holds : Holds w)
    : Holds (s.access.resolve key w).2 := by
  have kept : ∀ {stage next : Cache.Stage Fault Adapter} {v u : σ},
      Holds v → s.access.Goes key stage v next u → Holds u := by
    intro stage next v u known goes
    cases goes with
    | move moves => exact keeps.setCache _ _ (keeps.told key stage known)
    | make => exact keeps.build _ _ v known
  obtain ⟨_, still, _⟩ := s.access.resolve_induction (fun _ => Holds) kept holds
  exact still

/-- No plan changes it, by induction on the plan. -/
theorem carryOut (keeps : s.Keeps Holds) (plan : Plan β) {w : σ} (holds : Holds w)
    : Holds (s.carryOut plan w).2 := by
  induction plan generalizing w with
  | done result => exact holds
  | resolve key next ih =>
      have still := keeps.resolve key holds
      simp only [Surroundings.carryOut]
      cases resolved : s.access.resolve key w with
      | mk answer v =>
          rw [resolved] at still
          cases answer with
          | none => exact still
          | some answer => exact ih answer still
  | build project options next ih => exact ih _ (keeps.build project options w holds)
  | probe adapter bucket next ih => exact ih _ (keeps.probe adapter bucket w holds)
  | list adapter start next ih => exact ih _ (keeps.list adapter start w holds)
  | close adapter next ih => exact ih (keeps.close adapter w holds)
  | note record next ih => exact ih (keeps.note record w holds)

theorem call (keeps : s.Keeps Holds) (call : Call β) {w : σ} (holds : Holds w)
    : Holds (s.call call w).2 := by
  have still := keeps.carryOut call.run holds
  unfold Surroundings.call
  split <;> rename_i ended <;> rwa [ended] at still

end Keeps

end Surroundings

end CloudBuckets
