import CloudBuckets.Proofs.Memo.Program
import Mathlib.Data.Finmap

/-! A plain table of adapters, which does what is expected of the cache: a stored adapter is
returned, and else the factory is called and what it returns is stored. What happens in a run is a
chain in which each event follows on the one before it.
-/

namespace CloudBuckets.Memo

-----------------------------------------------------------------------------------------
-- The plain table
-----------------------------------------------------------------------------------------

/-- A table without locks. A failure of the factory is the cause of the error that is raised. -/
def plain {ρ : Type} : Table ρ (Finmap fun _ : Key => Adapter) where
  lookup table key := table.lookup key
  resolve key factory w :=
    match w.table.lookup key with
    | some adapter => (.ok adapter, w)
    | none =>
        match factory key.configuration.userProject key.options w with
        | (.ok adapter, w) => (.ok adapter, w.put (w.table.insert key adapter))
        | (.error cause, w) => (.error (.resolution ⟨.building, cause⟩), w)
  contains table key := key ∈ table
  size table := table.keys.card
  clear _ := ∅

-----------------------------------------------------------------------------------------
-- What follows on what
-----------------------------------------------------------------------------------------

/-- A call that goes on before anything else can happen. -/
def Event.isPending : Event → Bool
  | .asked _ | .ended _ _ => true
  | _ => false

/-- What may happen next, given what has happened last and what was stored after it. -/
inductive Follows
    : Moment (Key → Option Adapter) → Moment (Key → Option Adapter) → Prop
  /-- The stored adapter is returned. -/
  | finds {key stored adapter} (found : stored key = some adapter)
    : Follows ⟨.asked key, stored⟩ ⟨.answered key (.ok adapter), stored⟩
  /-- There is none, so the factory is called. -/
  | begins {key stored} (absent : stored key = none)
    : Follows ⟨.asked key, stored⟩ ⟨.begun key, stored⟩
  /-- What the factory returns is stored and returned. -/
  | stores {key stored adapter}
    : Follows ⟨.ended key (.ok adapter), stored⟩
        ⟨.answered key (.ok adapter), Function.update stored key (some adapter)⟩
  /-- If the factory fails, nothing is stored and nothing removed. -/
  | fails {key stored cause}
    : Follows ⟨.ended key (.error cause), stored⟩
        ⟨.answered key (.error (.resolution ⟨.building, cause⟩)), stored⟩
  | asks {last stored key} (settled : ¬ last.isPending)
    : Follows ⟨last, stored⟩ ⟨.asked key, stored⟩
  | ends {last stored key made} (settled : ¬ last.isPending)
    : Follows ⟨last, stored⟩ ⟨.ended key made, stored⟩
  | contains {last stored key} (settled : ¬ last.isPending)
    : Follows ⟨last, stored⟩ ⟨.contained key (stored key).isSome, stored⟩
  | counts {last stored size} (settled : ¬ last.isPending)
    : Follows ⟨last, stored⟩ ⟨.counted size, stored⟩
  | clears {last stored} (settled : ¬ last.isPending)
    : Follows ⟨last, stored⟩ ⟨.cleared, fun _ => none⟩

/-- After a key has been asked for with nothing stored for it, the factory is called. -/
theorem Follows.of_asked {key : Key} {stored : Key → Option Adapter}
    {next : Moment (Key → Option Adapter)} (follows : Follows ⟨.asked key, stored⟩ next)
    (absent : stored key = none)
    : next = ⟨.begun key, stored⟩ := by
  cases follows with
  | begins => rfl
  | finds found => simp [absent] at found
  | asks settled | ends settled | contains settled | counts settled | clears settled =>
      simp [Event.isPending] at settled

/-- Only an adapter that is returned for a key puts an end to there being none. -/
theorem Follows.absent {last next : Moment (Key → Option Adapter)} (follows : Follows last next)
    {key : Key} (absent : last.table key = none)
    (unanswered : ∀ adapter, next.event ≠ .answered key (.ok adapter))
    : next.table key = none := by
  cases follows with
  | @stores other stored adapter =>
      have apart : key ≠ other := fun same => unanswered adapter (same ▸ rfl)
      exact (Function.update_of_ne apart _ _).trans absent
  | clears => rfl
  | finds | begins | fails | asks | ends | contains | counts => exact absent

/-- A new table is like one that has just been cleared. -/
def fresh : Moment (Key → Option Adapter) := ⟨.cleared, fun _ => none⟩

/-- Each event follows on the one before it, from a new table on. The latest comes first. -/
def Chained (seen : List (Moment (Key → Option Adapter))) : Prop :=
  (seen ++ [fresh]).IsChain fun next last => Follows last next

/-- Moreover no call is about to go on, and the latest event leaves what is stored now. -/
structure Recounts (seen : List (Moment (Key → Option Adapter))) (now : Key → Option Adapter)
    : Prop where
  chained : Chained seen
  last : ∀ last ∈ (seen ++ [fresh]).head?, ¬ last.event.isPending ∧ last.table = now

theorem Chained.cons {last next : Moment (Key → Option Adapter)}
    {seen : List (Moment (Key → Option Adapter))} (chained : Chained (last :: seen))
    (follows : Follows last next)
    : Chained (next :: last :: seen) :=
  List.IsChain.cons_cons follows chained

/-- The chain up to an event. -/
theorem Chained.suffix {seen older : List (Moment (Key → Option Adapter))}
    (chained : Chained seen) (within : older <:+ seen)
    : Chained older := by
  obtain ⟨newer, rfl⟩ := within
  exact List.IsChain.suffix chained ⟨newer, by simp⟩

namespace Recounts

variable {seen older : List (Moment (Key → Option Adapter))} {now : Key → Option Adapter}

theorem start : Recounts [] fun _ => none :=
  ⟨.singleton _, by simp [fresh, Event.isPending]⟩

/-- The chain goes on with what may follow on all events but those after which a call goes on. -/
theorem extend (recounts : Recounts seen now) {next : Moment (Key → Option Adapter)}
    (follows : ∀ event, ¬ event.isPending → Follows ⟨event, now⟩ next)
    : Chained (next :: seen) := by
  refine List.isChain_cons.mpr ⟨fun last latest => ?_, recounts.chained⟩
  obtain ⟨settled, rfl⟩ := recounts.last last latest
  exact follows last.event settled

theorem of_chained {event : Event} (chained : Chained (⟨event, now⟩ :: seen))
    (settled : ¬ event.isPending)
    : Recounts (⟨event, now⟩ :: seen) now :=
  ⟨chained, by simpa using settled⟩

/-- An error is that of a factory which has failed just before, and changes nothing. -/
theorem failed (recounts : Recounts seen now) {key : Key} {error : Error}
    {stored : Key → Option Adapter}
    (within : ⟨.answered key (.error error), stored⟩ :: older <:+ seen)
    : ∃ cause before,
        error = .resolution ⟨.building, cause⟩
        ∧ older = ⟨.ended key (.error cause), stored⟩ :: before := by
  have chained := recounts.chained.suffix within
  cases older with
  | nil => cases (List.isChain_cons_cons.mp chained).1
  | cons last before =>
      cases (List.isChain_cons_cons.mp chained).1 with
      | fails => exact ⟨_, before, rfl, rfl⟩

/-- Where nothing is stored for a key that is asked for, the factory is called next. -/
theorem begins (recounts : Recounts seen now) {key : Key} {stored : Key → Option Adapter}
    (within : ⟨.asked key, stored⟩ :: older <:+ seen) (absent : stored key = none)
    : ⟨.begun key, stored⟩ :: ⟨.asked key, stored⟩ :: older <:+ seen := by
  obtain ⟨newer, rfl⟩ := within
  cases newer using List.reverseRecOn with
  | nil =>
      have settled := (recounts.last ⟨.asked key, stored⟩ (by simp)).1
      simp [Event.isPending] at settled
  | append_singleton newer next =>
      have after : next :: ⟨.asked key, stored⟩ :: older
          <:+ newer ++ [next] ++ ⟨.asked key, stored⟩ :: older := ⟨newer, by simp⟩
      obtain rfl := (List.isChain_cons_cons.mp (recounts.chained.suffix after)).1.of_asked absent
      exact after

/-- Once there is no adapter for a key, there is none until one is returned for the key, by
induction on what has happened since. -/
theorem absent {key : Key} {failure : Moment (Key → Option Adapter)}
    {later before : List (Moment (Key → Option Adapter))}
    (chain : (later ++ failure :: before).IsChain fun next last => Follows last next)
    (absent : failure.table key = none)
    (unanswered
      : ∀ moment ∈ later, ∀ adapter, moment.event ≠ .answered key (.ok adapter))
    : ∀ moment ∈ later, moment.table key = none := by
  induction later with
  | nil => exact fun moment member => absurd member List.not_mem_nil
  | cons next later ih =>
      obtain ⟨follows, rest⟩ := List.isChain_cons.mp chain
      have known := ih rest fun moment member => unanswered moment (.tail _ member)
      have first := unanswered next (.head _)
      intro moment member
      rcases List.mem_cons.mp member with rfl | earlier
      · cases later with
        | nil => exact (follows failure rfl).absent absent first
        | cons last later => exact (follows last rfl).absent (known last (.head _)) first
      · exact known moment earlier

/-- After a failure with nothing stored for the key, the next call for it has the factory called
again, unless a call for it has succeeded in between. -/
theorem retried (recounts : Recounts seen now) {key : Key} {error : Error}
    {stored left : Key → Option Adapter} {between : List (Moment (Key → Option Adapter))}
    (within
      : ⟨.asked key, stored⟩ :: (between ++ ⟨.answered key (.error error), left⟩ :: older)
        <:+ seen)
    (absent : left key = none)
    (unanswered
      : ∀ moment ∈ between, ∀ adapter, moment.event ≠ .answered key (.ok adapter))
    : ⟨.begun key, stored⟩
        :: ⟨.asked key, stored⟩ :: (between ++ ⟨.answered key (.error error), left⟩ :: older)
      <:+ seen := by
  have chain : ((⟨.asked key, stored⟩ :: between)
      ++ ⟨.answered key (.error error), left⟩ :: (older ++ [fresh])).IsChain
        fun next last => Follows last next := by
    simpa [Chained] using recounts.chained.suffix within
  have since := Recounts.absent chain absent fun moment member adapter => by
    rcases List.mem_cons.mp member with rfl | inside
    · exact fun same => nomatch same
    · exact unanswered moment inside adapter
  exact recounts.begins within (since _ (.head _))

end Recounts

-----------------------------------------------------------------------------------------
-- Programs with the plain table
-----------------------------------------------------------------------------------------

section Plain

variable {ρ τ : Type}

@[simp] theorem Table.seen_note (table : Table ρ τ) (event : Event) (w : State ρ τ)
    : table.seen (w.note event) = ⟨event, table.lookup w.table⟩ :: table.seen w :=
  rfl

variable {key : Key} {adapter : Adapter} {factory : Factory ρ (Finmap fun _ : Key => Adapter)}
  {w v : State ρ (Finmap fun _ : Key => Adapter)}

/-- To store an adapter changes what is stored for its key. -/
theorem lookup_insert (table : Finmap fun _ : Key => Adapter) (key : Key) (adapter : Adapter)
    : (fun other => (table.insert key adapter).lookup other)
      = Function.update (fun other => table.lookup other) key (some adapter) := by
  funext other
  by_cases same : other = key
  · subst same
    simp
  · simp [same]

/-- The stored adapter is returned. -/
theorem plain_resolve_of_found (found : w.table.lookup key = some adapter)
    : plain.resolve key factory w = (.ok adapter, w) := by
  simp only [plain, found]

/-- The table once what a factory has made is stored, if it has made anything. -/
def tableAfter (key : Key) (table : Finmap fun _ : Key => Adapter)
    : Except Fault Adapter → Finmap fun _ : Key => Adapter
  | .ok adapter => table.insert key adapter
  | .error _ => table

/-- Else the factory is called. What it returns is stored, and its failure is the cause of an
error. -/
theorem plain_resolve_of_absent {made : Except Fault Adapter} (absent : w.table.lookup key = none)
    (called : factory key.configuration.userProject key.options w = (made, v))
    : plain.resolve key factory w
      = (made.mapError fun cause => .resolution ⟨.building, cause⟩,
          v.put (tableAfter key v.table made)) := by
  cases made <;> simp only [plain, absent, called] <;> rfl

/-- What has happened with a plain table is a chain of events, by induction on the program. A call
adds two events if the key is found, and else two before and two after those of its build. -/
theorem Program.run_recounts (program : Program ρ) {w : State ρ (Finmap fun _ : Key => Adapter)}
    (recounts : Recounts (plain.seen w) fun key => w.table.lookup key)
    : Recounts (plain.seen (program.run plain w).2)
        fun key => (program.run plain w).2.table.lookup key := by
  induction program generalizing w with
  | ends made => exact recounts
  | acts change next ih => exact ih _ recounts
  | resolve key factory next build ih =>
      have asked : Chained (plain.seen (w.note (.asked key))) :=
        recounts.extend fun _ settled => .asks settled
      cases found : w.table.lookup key with
      | some adapter =>
          rw [run_resolve (plain_resolve_of_found found)]
          exact ih _ (.of_chained (asked.cons (.finds found)) nofun)
      | none =>
          have built := build key.configuration.userProject key.options
            (w := (w.note (.asked key)).note (.begun key))
            (.of_chained (asked.cons (.begins found)) nofun)
          cases ran : (factory key.configuration.userProject key.options).run plain
              ((w.note (.asked key)).note (.begun key)) with
          | mk made v =>
              rw [ran] at built
              have ended : Chained (plain.seen (v.note (.ended key made))) :=
                built.extend fun _ settled => .ends settled
              rw [run_resolve (plain_resolve_of_absent found (builder_eq ran))]
              cases made with
              | ok adapter =>
                  have stores
                      : Follows ⟨.ended key (.ok adapter), fun other => v.table.lookup other⟩
                          ⟨.answered key (.ok adapter),
                            fun other => (v.table.insert key adapter).lookup other⟩ :=
                    lookup_insert v.table key adapter ▸ .stores
                  exact ih _ (.of_chained (ended.cons stores) nofun)
              | error cause => exact ih _ (.of_chained (ended.cons .fails) nofun)
  | contains key next ih =>
      have there : plain (ρ := ρ).contains w.table key = (w.table.lookup key).isSome :=
        Bool.eq_iff_iff.mpr (by simp [plain, Finmap.lookup_isSome])
      refine ih _ (.of_chained (recounts.extend fun _ settled => ?_) nofun)
      rw [there]
      exact .contains settled
  | size next ih =>
      exact ih _ (.of_chained (recounts.extend fun _ settled => .counts settled) nofun)
  | clear next ih =>
      exact ih (.of_chained (recounts.extend fun _ settled => .clears settled) nofun)

end Plain

end CloudBuckets.Memo
