import CloudBuckets.Proofs.Cache.SharedBuild
import CloudBuckets.Proofs.Memo.Locked
import CloudBuckets.Proofs.Memo.Plain

/-! The cache with its locks does what a plain table does, whatever programs do with it while
adapters are built. The locks in use are those of the calls in progress, in the same order. What a
build does leaves the locks of the calls around it in place, a clear at most lets no later call find
them.
-/

namespace CloudBuckets.Memo

variable {ρ : Type}

-----------------------------------------------------------------------------------------
-- A cache and a plain table with the same in them
-----------------------------------------------------------------------------------------

/-- A cache holds what a table holds, and nothing twice. -/
structure Represents (cache : Cache Key Adapter) (table : Finmap fun _ : Key => Adapter)
    : Prop where
  found : ∀ key, cache.find? key = table.lookup key
  distinct : (cache.entries.map (·.1)).Nodup

namespace Represents

variable {cache : Cache Key Adapter} {table : Finmap fun _ : Key => Adapter}

theorem contains (represents : Represents cache table) (key : Key)
    : cache.contains key = decide (key ∈ table) := by
  refine Bool.eq_iff_iff.mpr ?_
  simp only [Cache.contains, represents.found, decide_eq_true_eq, Finmap.lookup_isSome]

/-- There are as many adapters in the cache as keys in the table. -/
theorem size (represents : Represents cache table)
    : cache.size = table.keys.card := by
  have keys : table.keys = (cache.entries.map (·.1)).toFinset := by
    ext key
    rw [Finmap.mem_keys, ← Finmap.lookup_isSome, ← represents.found, Cache.find?,
      List.lookup_isSome_iff, List.mem_toFinset, List.mem_map]
    exact exists_congr fun entry => and_congr_right fun _ => by rw [beq_iff_eq, eq_comm]
  rw [keys, List.toFinset_card_of_nodup represents.distinct, List.length_map, Cache.size]

theorem empty : Represents .empty ∅ :=
  ⟨fun _ => rfl, .nil⟩

theorem clear : Represents cache.clear ∅ :=
  ⟨fun _ => rfl, .nil⟩

theorem store (represents : Represents cache table) (key : Key) (adapter : Adapter)
    : Represents (cache.store key adapter) (table.insert key adapter) := by
  constructor
  · intro other
    by_cases same : other = key
    · subst same
      rw [Cache.find?_store_self, Finmap.lookup_insert]
    · rw [Cache.find?_store_of_ne _ _ same, Finmap.lookup_insert_of_ne _ same, represents.found]
  · refine List.nodup_cons.mpr ⟨by simp, represents.distinct.sublist ?_⟩
    exact List.filter_sublist.map _

end Represents

-----------------------------------------------------------------------------------------
-- A run with the cache beside a run with a plain table
-----------------------------------------------------------------------------------------

/-- No locks are left whenever no call is in progress. -/
def Idle (past : List (Moment (Cache Key Adapter))) : Prop :=
  ∀ moment older,
    moment :: older <:+ past
    → inProgress ((moment :: older).map (·.event)) = []
    → moment.table.locks = []

theorem Idle.cons {past : List (Moment (Cache Key Adapter))} (idle : Idle past)
    {moment : Moment (Cache Key Adapter)}
    (first
      : inProgress ((moment :: past).map (·.event)) = [] → moment.table.locks = [])
    : Idle (moment :: past) := by
  intro other older within none
  rcases List.suffix_cons_iff.mp within with same | earlier
  · cases same
    exact first none
  · exact idle other older earlier none

/-- What a program has done with the cache is what it has done with a plain table. -/
structure Alike (w : State ρ (Cache Key Adapter)) (v : State ρ (Finmap fun _ : Key => Adapter))
    : Prop where
  own : w.own = v.own
  seen : locked.seen w = plain.seen v
  stored : Represents w.table v.table
  numbered : w.table.Numbered
  idle : Idle w.past

/-- Moreover the locks are those of the calls in progress, and a clear has unlisted those of the
calls that had begun. -/
structure Mirrors (w : State ρ (Cache Key Adapter)) (v : State ρ (Finmap fun _ : Key => Adapter))
    : Prop extends Alike w v where
  locks : w.table.locks.map (fun lock => (lock.key, !lock.listed)) = inProgress w.events

variable {w : State ρ (Cache Key Adapter)} {v : State ρ (Finmap fun _ : Key => Adapter)}

theorem Alike.note (alike : Alike w v) (event : Event)
    (idle : inProgress (event :: w.events) = [] → w.table.locks = [])
    : Alike (w.note event) (v.note event) where
  own := alike.own
  seen := by
    have same : locked (ρ := ρ).lookup w.table = plain (ρ := ρ).lookup v.table :=
      funext alike.stored.found
    rw [Table.seen_note, Table.seen_note, alike.seen, same]
  stored := alike.stored
  numbered := alike.numbered
  idle := alike.idle.cons idle

/-- The tables may change between two events. -/
theorem Alike.change (alike : Alike w v) {cache : Cache Key Adapter}
    {table : Finmap fun _ : Key => Adapter} (stored : Represents cache table)
    (numbered : cache.Numbered)
    : Alike (w.put cache) (v.put table) :=
  ⟨alike.own, alike.seen, stored, numbered, alike.idle⟩

/-- What happens after a change that keeps the locks those of the calls in progress. -/
theorem Alike.mirrors (alike : Alike w v) (event : Event)
    (locks
      : w.table.locks.map (fun lock => (lock.key, !lock.listed)) = inProgress (event :: w.events))
    : Mirrors (w.note event) (v.note event) where
  toAlike := alike.note event fun none => by simpa [none] using locks
  locks := locks

-----------------------------------------------------------------------------------------
-- Calls for keys
-----------------------------------------------------------------------------------------

/-- What is asked for changes nothing. -/
theorem Mirrors.asked (mirrors : Mirrors w v) (key : Key)
    : Alike (w.note (.asked key)) (v.note (.asked key)) :=
  mirrors.note _ fun none => by simp [inProgress] at none

/-- A call that finds an adapter is over at once. -/
theorem Mirrors.found (mirrors : Mirrors w v) (key : Key) (answer : Except Error Adapter)
    : Mirrors ((w.note (.asked key)).note (.answered key answer))
        ((v.note (.asked key)).note (.answered key answer)) :=
  (mirrors.asked key).mirrors _ (by simpa [inProgress] using mirrors.locks)

/-- If a clear has come after all calls in progress for a key began, no lock is found for it. -/
theorem Mirrors.vacant (mirrors : Mirrors w v) {key : Key} (absent : w.table.find? key = none)
    (admissible : (key, false) ∉ inProgress w.events)
    : w.table.Vacant key := by
  refine ⟨mirrors.numbered, absent, List.find?_eq_none.mpr fun lock member listed => ?_⟩
  refine admissible ?_
  rw [← mirrors.locks]
  simp only [Bool.and_eq_true, decide_eq_true_eq] at listed
  exact List.mem_map.mpr ⟨lock, member, by simp [listed]⟩

/-- A call that has taken a lock of its own is in progress. -/
theorem Mirrors.begun (mirrors : Mirrors w v) {key : Key} (vacant : w.table.Vacant key)
    : Mirrors
        (((w.note (.asked key)).put (w.table.locking key)).note (.begun key))
        ((v.note (.asked key)).note (.begun key)) := by
  have stored : Represents (w.table.locking key) v.table :=
    ⟨mirrors.stored.found, mirrors.stored.distinct⟩
  refine ((mirrors.asked key).change stored vacant.locking).mirrors _ ?_
  change _ = inProgress w.events ++ [(key, false)]
  simp [Cache.locking, mirrors.locks]

theorem Represents.after {cache : Cache Key Adapter} {table : Finmap fun _ : Key => Adapter}
    (represents : Represents cache table) (key : Key) (made : Except Fault Adapter)
    (locks : List (Lock Key))
    : Represents { cacheAfter key cache made with locks } (tableAfter key table made) := by
  cases made with
  | ok adapter =>
      obtain ⟨found, distinct⟩ := represents.store key adapter
      exact ⟨found, distinct⟩
  | error cause => exact ⟨represents.found, represents.distinct⟩

/-- A call that drops the last lock at its end was the innermost one. -/
theorem Mirrors.ended (mirrors : Mirrors w v) (key : Key) (made : Except Fault Adapter)
    (answer : Except Error Adapter) {others : List (Lock Key)} {own : Lock Key}
    (last : w.table.locks = others ++ [own])
    : Mirrors
        (((w.note (.ended key made)).put { cacheAfter key w.table made with locks := others }).note
          (.answered key answer))
        (((v.note (.ended key made)).put (tableAfter key v.table made)).note
          (.answered key answer)) := by
  have progress : inProgress w.events
      = others.map (fun lock => (lock.key, !lock.listed)) ++ [(own.key, !own.listed)] := by
    simp [← mirrors.locks, last]
  have numbered : Cache.Numbered { cacheAfter key w.table made with locks := others } := by
    have within : others.Sublist w.table.locks := last ▸ List.sublist_append_left others [own]
    have distinct := mirrors.numbered.distinct.sublist (within.map (·.id))
    have fresh := fun lock member => mirrors.numbered.fresh lock (within.subset member)
    cases made <;> exact ⟨distinct, fresh⟩
  have noted : Alike (w.note (.ended key made)) (v.note (.ended key made)) := by
    refine mirrors.note _ fun none => ?_
    change inProgress w.events = [] at none
    simp [progress] at none
  refine (noted.change (mirrors.stored.after key made others) numbered).mirrors _ ?_
  change others.map (fun lock => (lock.key, !lock.listed)) = (inProgress w.events).dropLast
  rw [progress, List.dropLast_concat]

/-- To forget all adapters lets no later call find the locks of the calls in progress. -/
theorem Mirrors.cleared (mirrors : Mirrors w v)
    : Mirrors ((w.put (locked (ρ := ρ).clear w.table)).note .cleared)
        ((v.put (plain (ρ := ρ).clear v.table)).note .cleared) := by
  refine (mirrors.change Represents.clear mirrors.numbered.clear).mirrors _ ?_
  change _ = (inProgress w.events).map fun call => (call.1, true)
  simp [← mirrors.locks, Cache.clear]

-----------------------------------------------------------------------------------------
-- Whole programs
-----------------------------------------------------------------------------------------

/-- A program only adds to what has happened, by induction on the program. -/
theorem Program.past_suffix (program : Program ρ) (w : State ρ (Cache Key Adapter))
    : w.past <:+ (program.run locked w).2.past := by
  induction program generalizing w with
  | ends made => exact List.suffix_refl _
  | acts change next ih => exact ih (change w.own) { w with own := change w.own }
  | resolve key factory next build ih =>
      have grows := locked_resolve_past key (builder locked key factory) (w.note (.asked key))
        fun project options u => (u.past_suffix_note _).trans
          ((build project options _).trans (State.past_suffix_note _ _))
      cases resolved : locked.resolve key (builder locked key factory) (w.note (.asked key)) with
      | mk answer v =>
          rw [Program.run_resolve resolved]
          rw [resolved] at grows
          exact (w.past_suffix_note _).trans
            (grows.trans ((v.past_suffix_note _).trans (ih _ _)))
  | contains key next ih =>
      rw [Program.run]
      exact (w.past_suffix_note _).trans (ih _ _)
  | size next ih =>
      rw [Program.run]
      exact (w.past_suffix_note _).trans (ih _ _)
  | clear next ih =>
      rw [Program.run]
      exact ((w.put (locked.clear w.table)).past_suffix_note _).trans (ih _)

section Calls

variable (key : Key) (factory : String → Option ClientOptions → Program ρ)
  (next : Except Error Adapter → Program ρ) (w : State ρ (Cache Key Adapter))

/-- A program that asks for an adapter gets its answer before it goes on. -/
theorem Program.past_suffix_resolve
    : (locked.resolve key (builder locked key factory) (w.note (.asked key))).2.past
      <:+ ((Program.resolve key factory next).run locked w).2.past := by
  rw [run_resolve rfl]
  exact (State.past_suffix_note _ _).trans ((next _).past_suffix _)

/-- The asking goes before all that follows from it. -/
theorem Program.past_suffix_asked
    : (w.note (.asked key)).past <:+ ((Program.resolve key factory next).run locked w).2.past :=
  (locked_resolve_past _ _ _ fun project options u =>
    (u.past_suffix_note _).trans
      (((factory project options).past_suffix _).trans (State.past_suffix_note _ _))).trans
    (past_suffix_resolve key factory next w)

/-- The build has come to its end before the program goes on. -/
theorem Program.past_suffix_build (vacant : w.table.Vacant key)
    : ((factory key.configuration.userProject key.options).run locked
          (((w.note (.asked key)).put (w.table.locking key)).note (.begun key))).2.past
      <:+ ((Program.resolve key factory next).run locked w).2.past := by
  cases ran : (factory key.configuration.userProject key.options).run locked
      (((w.note (.asked key)).put (w.table.locking key)).note (.begun key)) with
  | mk made u =>
  have past := locked_resolve_past_of_vacant (w := w.note (.asked key)) vacant (builder_eq ran)
  exact (u.past_suffix_note _).trans (past ▸ past_suffix_resolve key factory next w)

end Calls

/-- A run with the cache comes to what a run with a plain table comes to, and keeps the locks. -/
structure Simulates (before : Cache Key Adapter)
    (first : Except Fault Adapter × State ρ (Cache Key Adapter))
    (second : Except Fault Adapter × State ρ (Finmap fun _ : Key => Adapter))
    : Prop where
  made : first.1 = second.1
  mirrors : Mirrors first.2 second.2
  keeps : before.KeepsLocks first.2.table

/-- If the build of a call does the same with both, so does the call, which drops its lock. -/
theorem Mirrors.built (mirrors : Mirrors w v) {key : Key}
    {factory : String → Option ClientOptions → Program ρ} (vacant : w.table.Vacant key)
    (simulates
      : Simulates (w.table.locking key)
          ((factory key.configuration.userProject key.options).run locked
            (((w.note (.asked key)).put (w.table.locking key)).note (.begun key)))
          ((factory key.configuration.userProject key.options).run plain
            ((v.note (.asked key)).note (.begun key))))
    : ∃ answer u x,
        locked.resolve key (Program.builder locked key factory) (w.note (.asked key)) = (answer, u)
        ∧ plain.resolve key (Program.builder plain key factory) (v.note (.asked key)) = (answer, x)
        ∧ Mirrors (u.note (.answered key answer)) (x.note (.answered key answer))
        ∧ w.table.KeepsLocks u.table := by
  cases ran : (factory key.configuration.userProject key.options).run locked
      (((w.note (.asked key)).put (w.table.locking key)).note (.begun key)) with
  | mk made u =>
  cases plainly : (factory key.configuration.userProject key.options).run plain
      ((v.note (.asked key)).note (.begun key)) with
  | mk other x =>
  rw [ran, plainly] at simulates
  obtain rfl : made = other := simulates.made
  obtain ⟨others, own, last, same, alone, keeps⟩ := simulates.keeps.of_locking
  have absent : v.table.lookup key = none := (mirrors.stored.found key) ▸ vacant.absent
  exact ⟨_, _, _,
    locked_resolve_of_vacant (w := w.note (.asked key)) vacant (Program.builder_eq ran) last same
      alone simulates.mirrors.numbered,
    plain_resolve_of_absent absent (Program.builder_eq plainly),
    simulates.mirrors.ended key made _ last, keeps _ rfl⟩

/-- Every program does with the cache what it does with a plain table, by induction on the program.
A call that has something built goes through its build, which is a program too, with a lock of its
own.
-/
theorem Program.simulates (program : Program ρ) {w : State ρ (Cache Key Adapter)}
    {v : State ρ (Finmap fun _ : Key => Adapter)} (mirrors : Mirrors w v)
    (admissible : Admissible (program.run locked w).2.events)
    : Simulates w.table (program.run locked w) (program.run plain v) := by
  induction program generalizing w v with
  | ends made => exact ⟨rfl, mirrors, .refl _⟩
  | acts change next ih =>
      have changed : Mirrors { w with own := change w.own } { v with own := change w.own } :=
        ⟨{ mirrors with own := rfl }, mirrors.locks⟩
      rw [Program.run] at admissible ⊢
      rw [Program.run, ← mirrors.own]
      exact ih _ changed admissible
  | resolve key factory next build ih =>
      cases found : w.table.find? key with
      | some adapter =>
          have stored : v.table.lookup key = some adapter := (mirrors.stored.found key) ▸ found
          rw [run_resolve (locked_resolve_of_found found)] at admissible ⊢
          rw [run_resolve (plain_resolve_of_found stored)]
          exact ih _ (mirrors.found key _) admissible
      | none =>
          have vacant := mirrors.vacant found
            (admissible.of_past (past_suffix_asked key factory next w)).1
          have simulates := build _ _ (mirrors.begun vacant)
            (admissible.of_past (past_suffix_build key factory next w vacant))
          obtain ⟨answer, u, x, resolved, plainly, after, keeps⟩ := mirrors.built vacant simulates
          rw [run_resolve resolved] at admissible ⊢
          rw [run_resolve plainly]
          have rest := ih _ after admissible
          exact ⟨rest.made, rest.mirrors, keeps.trans rest.keeps⟩
  | contains key next ih =>
      have same : locked (ρ := ρ).contains w.table key = plain (ρ := ρ).contains v.table key :=
        mirrors.stored.contains key
      rw [Program.run] at admissible ⊢
      rw [Program.run, ← same]
      exact ih _ (mirrors.mirrors (.contained key _) mirrors.locks) admissible
  | size next ih =>
      have same : locked (ρ := ρ).size w.table = plain (ρ := ρ).size v.table :=
        mirrors.stored.size
      rw [Program.run] at admissible ⊢
      rw [Program.run, ← same]
      exact ih _ (mirrors.mirrors (.counted _) mirrors.locks) admissible
  | clear next ih =>
      rw [Program.run] at admissible ⊢
      rw [Program.run]
      have rest := ih mirrors.cleared admissible
      exact ⟨rest.made, rest.mirrors, (Cache.KeepsLocks.clear _).trans rest.keeps⟩

-----------------------------------------------------------------------------------------
-- The refinement
-----------------------------------------------------------------------------------------

/-- What a program has done with the cache, beside what it does with a plain table. The latest
events come first.
-/
structure Refines (first : Except Fault Adapter × State ρ (Cache Key Adapter))
    (second : Except Fault Adapter × State ρ (Finmap fun _ : Key => Adapter))
    : Prop where
  /-- The program comes to the same. -/
  made : first.1 = second.1
  own : first.2.own = second.2.own
  /-- All adapters, errors and other answers are the same, those within builds included, and the
  same is stored after each event. -/
  seen : locked.seen first.2 = plain.seen second.2
  /-- There are as many adapters in the cache as in the table. -/
  size : first.2.table.size = second.2.table.keys.card
  /-- A call fails just after the factory has failed for its key. Its error has that failure as its
  cause, and it has stored nothing and removed nothing. -/
  failed
    : ∀ key error stored older,
        ⟨.answered key (.error error), stored⟩ :: older <:+ locked.seen first.2
        → ∃ cause before,
            error = .resolution ⟨.building, cause⟩
            ∧ older = ⟨.ended key (.error cause), stored⟩ :: before
  /-- If nothing was stored for the key then, the next call for it has the factory called again,
  unless a call for it has succeeded in between. -/
  retried
    : ∀ key error stored left between older,
        ⟨.asked key, stored⟩ :: (between ++ ⟨.answered key (.error error), left⟩ :: older)
          <:+ locked.seen first.2
        → left key = none
        → (∀ moment ∈ between, ∀ adapter, moment.event ≠ .answered key (.ok adapter))
        → ⟨.begun key, stored⟩
            :: ⟨.asked key, stored⟩ :: (between ++ ⟨.answered key (.error error), left⟩ :: older)
          <:+ locked.seen first.2
  /-- There are no locks after any event that leaves no call in progress. -/
  idle : Idle first.2.past
  /-- Nor are there at the end. -/
  locks : first.2.table.locks = []

/-- Whatever a program does with a new cache, it does with a plain table, if it asks for a key that
is being built only after a clear. -/
theorem Program.run_refines (program : Program ρ) (own : ρ)
    (admissible : Admissible (program.run locked (.start own .empty)).2.events)
    : Refines (program.run locked (.start own .empty)) (program.run plain (.start own ∅)) := by
  have new : Mirrors (State.start own .empty) (State.start own ∅) :=
    ⟨⟨rfl, rfl, .empty, .empty, fun moment older within => by simp [State.start] at within⟩, rfl⟩
  obtain ⟨made, mirrors, cleared, locks⟩ := program.simulates new admissible
  have recounts := program.run_recounts (w := .start own ∅) .start
  rw [← mirrors.seen] at recounts
  exact {
    made
    own := mirrors.own
    seen := mirrors.seen
    size := mirrors.stored.size
    failed := fun _ _ _ _ within => recounts.failed within
    retried := fun _ _ _ _ _ _ within absent unanswered =>
      recounts.retried within absent unanswered
    idle := mirrors.idle
    locks
  }

/-- A call that fails and is made again. The second build asks for another key, clears the cache,
and asks for the key that it is called for, before it ends itself. The program counts these two
builds. -/
def reentrant (key other : Key) (failure : Fault) : Program Nat :=
  .resolve key (fun _ _ => .acts (· + 1) fun _ => .ends (.error failure)) fun _ =>
  .resolve key
    (fun project options => .acts (· + 1) fun calls =>
      .resolve other (fun _ options => .ends (.ok ⟨calls, .memory, project, options⟩)) fun _ =>
      .clear <| .resolve key (fun _ _ => .ends (.error failure)) fun _ =>
      .resolve key (fun _ _ => .ends (.ok ⟨calls + 1, .memory, project, options⟩)) fun _ =>
      .size fun size => .ends (.ok ⟨calls + size + 2, .memory, project, options⟩)) fun _ =>
  .contains other fun _ => .size fun _ => .clear (.ends (.error failure))

/-- The call that has failed is made again with another build, and with the plain table too. -/
theorem run_refines_reentrant
    : let program := reentrant ⟨.standard, none⟩ ⟨.standard, some {}⟩ ⟨.system, none, []⟩
      Admissible (program.run locked (.start 0 .empty)).2.events
      ∧ Refines (program.run locked (.start 0 .empty)) (program.run plain (.start 0 ∅))
      ∧ (program.run plain (.start 0 ∅)).2.own = 2 := by
  intro program
  have admissible : Admissible (program.run locked (.start 0 .empty)).2.events := by
    decide +kernel
  have refines := Program.run_refines program 0 admissible
  have counted : (program.run locked (.start 0 .empty)).2.own = 2 := by decide +kernel
  exact ⟨admissible, refines, refines.own ▸ counted⟩

end CloudBuckets.Memo
