import CloudBuckets.Opening
import CloudBuckets.Proofs.Cache.Access

/-! What calls lead to, whatever answers their requests. The rules follow the way in which calls
are put together, so that nothing about a call needs the plan behind it.
-/

namespace CloudBuckets

/-- The plan behind a call that is put together from two. -/
theorem Call.run_bind {β γ : Type} (first : Call β) (next : β → Call γ)
    : (first >>= next).run
      = first.run.bind fun
          | .ok value => (next value).run
          | .error error => .done (.error error) :=
  congrArg first.run.bind (funext fun result => by cases result <;> rfl)

namespace Surroundings

variable {σ β γ : Type} {s : Surroundings σ}

-----------------------------------------------------------------------------------------
-- Carrying out calls that are put together
-----------------------------------------------------------------------------------------

/-- A plan that goes on with the result of another is carried out after it, by induction on the
first plan.
-/
theorem carryOut_bind (plan : Plan β) (next : β → Plan γ) (w : σ)
    : s.carryOut (plan.bind next) w
      = match s.carryOut plan w with
        | (some result, w) => s.carryOut (next result) w
        | (none, w) => (none, w) := by
  induction plan generalizing w with
  | done result => rfl
  | resolve key rest ih =>
      simp only [Plan.bind, carryOut]
      cases s.access.resolve key w with
      | mk answer w =>
          cases answer with
          | none => rfl
          | some answer => exact ih answer w
  | build project options rest ih => exact ih _ _
  | probe adapter bucket rest ih => exact ih _ _
  | list adapter start rest ih => exact ih _ _
  | close adapter rest ih => exact ih _
  | note record rest ih => exact ih _

/-- A call goes on where the one before it has ended, unless that one has failed. -/
theorem call_bind (first : Call β) (next : β → Call γ) (w : σ)
    : s.call (first >>= next) w
      = match s.call first w with
        | (.ok value, w) => s.call (next value) w
        | (.error error, w) => (.error error, w) := by
  simp only [call, Call.run_bind, carryOut_bind]
  cases s.carryOut first.run w with
  | mk result w =>
      cases result with
      | none => rfl
      | some result => cases result <;> rfl

/-- A call for the adapter of a key ends as the cache does, or waits for itself. -/
theorem call_resolve (key : Key) (w : σ)
    : s.call (Call.resolve key) w
      = match s.access.resolve key w with
        | (some (.ok adapter), w) => (.ok adapter, w)
        | (some (.error cause), w) => (.error (.resolution ⟨.building, cause⟩), w)
        | (none, w) => (.error .deadlock, w) := by
  simp only [call, Call.resolve, ExceptT.run_mk, carryOut]
  cases s.access.resolve key w with
  | mk answer w =>
      cases answer with
      | none => rfl
      | some answer => cases answer <;> rfl

-----------------------------------------------------------------------------------------
-- What calls ensure
-----------------------------------------------------------------------------------------

/-- From every state with the one property, the call leads to an outcome and a state with the
other.
-/
def Ensures (s : Surroundings σ) (before : σ → Prop) (call : Call β)
    (after : Except Error β → σ → Prop)
    : Prop :=
  ∀ w, before w → after (s.call call w).1 (s.call call w).2

namespace Ensures

variable {before : σ → Prop} {after : Except Error β → σ → Prop}

theorem weaken {earlier : σ → Prop} {call : Call β} (ensures : s.Ensures before call after)
    (holds : ∀ w, earlier w → before w)
    : s.Ensures earlier call after :=
  fun w early => ensures w (holds w early)

/-- What is known of every state before a call may be used for the call. -/
theorem assume {fact : Prop} {call : Call β} (known : ∀ w, before w → fact)
    (ensures : fact → s.Ensures before call after)
    : s.Ensures before call after :=
  fun w holds => ensures (known w holds) w holds

theorem pure {value : β} (ends : ∀ w, before w → after (.ok value) w)
    : s.Ensures before (Pure.pure value) after :=
  ends

theorem throw {error : Error} (ends : ∀ w, before w → after (.error error) w)
    : s.Ensures before (MonadExcept.throw error) after :=
  ends

/-- A call after another starts from what that one ensures. An error of the first is one of
both.
-/
theorem bind {between : Except Error γ → σ → Prop} {first : Call γ} {next : γ → Call β}
    (begins : s.Ensures before first between)
    (goesOn : ∀ value, s.Ensures (between (.ok value)) (next value) after)
    (fails : ∀ error w, between (.error error) w → after (.error error) w)
    : s.Ensures before (first >>= next) after := by
  intro w holds
  have reached := begins w holds
  rw [call_bind]
  cases ended : s.call first w with
  | mk outcome v =>
      rw [ended] at reached
      cases outcome with
      | ok value => exact goesOn value v reached
      | error error => exact fails error v reached

/-- A check before a call. -/
theorem check {outcome : Except Error γ} {next : γ → Call β}
    (goesOn : ∀ value, outcome = .ok value → s.Ensures before (next value) after)
    (fails : ∀ error w, outcome = .error error → before w → after (.error error) w)
    : s.Ensures before (liftM outcome >>= next) after := by
  cases outcome with
  | ok value => exact goesOn value rfl
  | error error => exact fun w holds => fails error w rfl holds

/-- A request to an adapter before a call. -/
theorem probe {adapter : Adapter} {bucket : String}
    {next : Except AdapterError (Option Bool) → Call β}
    (goesOn
      : ∀ answer,
          s.Ensures (fun w => ∃ v, before v ∧ s.probe adapter bucket v = (answer, w))
            (next answer) after)
    : s.Ensures before (liftM (Call.probe adapter bucket) >>= next) after :=
  fun w holds => goesOn _ _ ⟨w, holds, rfl⟩

/-- A log record before a call. -/
theorem note {record : LogRecord} {next : Unit → Call β}
    (goesOn : s.Ensures (fun w => ∃ v, before v ∧ s.note record v = w) (next ()) after)
    : s.Ensures before (liftM (Call.note record) >>= next) after :=
  fun w holds => goesOn _ ⟨w, holds, rfl⟩

/-- A call for the adapter of a key, by what every step on the way keeps. -/
theorem resolve {key : Key} {after : Except Error Adapter → σ → Prop}
    (Holds : Cache.Stage Fault Adapter → σ → Prop) (begins : ∀ w, before w → Holds .looking w)
    (kept
      : ∀ {stage next v w},
          Holds stage v → s.access.Goes key stage v next w → Holds next w)
    (finds : ∀ {adapter w}, Holds (.done (.ok adapter)) w → after (.ok adapter) w)
    (fails
      : ∀ {cause w},
          Holds (.done (.error cause)) w → after (.error (.resolution ⟨.building, cause⟩)) w)
    (waits : ∀ w, before w → ∀ v, s.access.resolve key w = (none, v) → after (.error .deadlock) v)
    : s.Ensures before (Call.resolve key) after := by
  intro w holds
  obtain ⟨last, atLast, reached⟩ := s.access.resolve_induction Holds kept (begins w holds)
  rw [call_resolve]
  cases resolved : s.access.resolve key w with
  | mk answer v =>
      rw [resolved] at atLast reached
      cases answer with
      | none => exact waits w holds v resolved
      | some answer =>
          obtain rfl : last = .done answer := reached
          cases answer with
          | ok adapter => exact finds atLast
          | error cause => exact fails atLast

end Ensures

end Surroundings

end CloudBuckets
