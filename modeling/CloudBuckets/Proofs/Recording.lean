import CloudBuckets.Proofs.Calls

/-! What passes between a call and the backend. Calls are carried out in surroundings that put it
on record, where everything else goes as it does without the record.
-/

namespace CloudBuckets

-----------------------------------------------------------------------------------------
-- Calls with fewer things seen
-----------------------------------------------------------------------------------------

/-- Calls for a key go alike in two states of which one is a view of the other, by induction on the
number of steps.
-/
theorem Cache.Access.proceed_view {σ τ κ ε α : Type} [DecidableEq κ] {access : Access σ κ ε α}
    {other : Access τ κ ε α} (view : τ → σ) (cache : ∀ w, access.cache (view w) = other.cache w)
    (setCache : ∀ cache w, access.setCache cache (view w) = view (other.setCache cache w))
    (make
      : ∀ key w, access.make key (view w) = ((other.make key w).1, view (other.make key w).2))
    (tell : ∀ key notice w, access.tell key notice (view w) = view (other.tell key notice w))
    (key : κ) (n : Nat) (stage : Stage ε α) (w : τ)
    : access.proceed key n stage (view w)
      = ((other.proceed key n stage w).1, view (other.proceed key n stage w).2) := by
  have told : ∀ stage w, access.told key stage (view w) = view (other.told key stage w) := by
    intro stage w
    simp only [told, cache]
    split
    · exact tell ..
    · rfl
  induction n generalizing stage w with
  | zero => cases stage <;> rfl
  | succ n ih =>
      cases stage with
      | done result => rfl
      | making lock =>
          simp only [proceed, make]
          exact ih _ _
      | _ =>
          simp only [proceed, cache]
          split
          · rw [told, setCache]
            exact ih _ _
          · rfl

namespace Surroundings

variable {σ τ β : Type}

/-- Surroundings that do what others do, where the one state is a view of the other. -/
structure Mirrors (view : τ → σ) (s : Surroundings σ) (other : Surroundings τ) : Prop where
  cache : ∀ w, s.cache (view w) = other.cache w
  setCache : ∀ cache w, s.setCache cache (view w) = view (other.setCache cache w)
  build
    : ∀ project options w,
        s.build project options (view w)
        = ((other.build project options w).1, view (other.build project options w).2)
  probe
    : ∀ adapter bucket w,
        s.probe adapter bucket (view w)
        = ((other.probe adapter bucket w).1, view (other.probe adapter bucket w).2)
  list
    : ∀ adapter start w,
        s.list adapter start (view w)
        = ((other.list adapter start w).1, view (other.list adapter start w).2)
  close : ∀ adapter w, s.close adapter (view w) = view (other.close adapter w)
  note : ∀ record w, s.note record (view w) = view (other.note record w)

namespace Mirrors

variable {view : τ → σ} {s : Surroundings σ} {other : Surroundings τ}

theorem resolve (same : Mirrors view s other) (key : Key) (w : τ)
    : s.access.resolve key (view w)
      = ((other.access.resolve key w).1, view (other.access.resolve key w).2) := by
  refine Cache.Access.proceed_view view same.cache same.setCache ?_ ?_ key _ _ w
  · exact fun _ w => same.build _ _ w
  · exact fun _ notice w => by cases notice <;> exact same.note _ w

/-- A plan is carried out alike in both, by induction on the plan. -/
theorem carryOut (same : Mirrors view s other) (plan : Plan β) (w : τ)
    : s.carryOut plan (view w)
      = ((other.carryOut plan w).1, view (other.carryOut plan w).2) := by
  induction plan generalizing w with
  | done result => rfl
  | resolve key next ih =>
      simp only [Surroundings.carryOut, same.resolve]
      cases other.access.resolve key w with
      | mk answer v =>
          cases answer with
          | none => rfl
          | some answer => exact ih answer v
  | build project options next ih =>
      simp only [Surroundings.carryOut, same.build]
      exact ih _ _
  | probe adapter bucket next ih =>
      simp only [Surroundings.carryOut, same.probe]
      exact ih _ _
  | list adapter start next ih =>
      simp only [Surroundings.carryOut, same.list]
      exact ih _ _
  | close adapter next ih =>
      simp only [Surroundings.carryOut, same.close]
      exact ih _
  | note record next ih =>
      simp only [Surroundings.carryOut, same.note]
      exact ih _

theorem call (same : Mirrors view s other) (call : Call β) (w : τ)
    : s.call call (view w) = ((other.call call w).1, view (other.call call w).2) := by
  simp only [Surroundings.call, same.carryOut]
  cases other.carryOut call.run w with
  | mk result v => cases result <;> rfl

end Mirrors

end Surroundings

-----------------------------------------------------------------------------------------
-- The record
-----------------------------------------------------------------------------------------

/-- What a call has asked of the backend, with the answer. -/
inductive Exchange
  | build (project : String) (options : Option ClientOptions) (answer : Except Fault Adapter)
  | probe (adapter : Adapter) (bucket : String) (answer : Except AdapterError (Option Bool))

namespace Exchange

/-- The answer is a failure. -/
def isFailure : Exchange → Bool
  | build _ _ (.error _) | probe _ _ (.error _) => true
  | _ => false

def isProbe : Exchange → Bool
  | probe _ _ _ => true
  | build _ _ _ => false

end Exchange

namespace Surroundings

variable {σ β : Type}

/-- The surroundings with a record of what is built and probed. -/
def recorded (s : Surroundings σ) : Surroundings (σ × List Exchange) where
  cache w := s.cache w.1
  setCache cache w := (s.setCache cache w.1, w.2)
  build project options w :=
    let (answer, next) := s.build project options w.1
    (answer, next, w.2 ++ [.build project options answer])
  probe adapter bucket w :=
    let (answer, next) := s.probe adapter bucket w.1
    (answer, next, w.2 ++ [.probe adapter bucket answer])
  list adapter start w :=
    let (answer, next) := s.list adapter start w.1
    (answer, next, w.2)
  close adapter w := (s.close adapter w.1, w.2)
  note record w := (s.note record w.1, w.2)

/-- What passes between a call and the backend, in order. -/
def exchanges (s : Surroundings σ) (call : Call β) (w : σ) : List Exchange :=
  (s.recorded.call call (w, [])).2.2

end Surroundings

end CloudBuckets
