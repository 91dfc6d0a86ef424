import CloudBuckets.Proofs.Opening
import CloudBuckets.Proofs.Session.Evolution

/-! Sessions give back the locks that they take. Whatever is done while an adapter is built, nested
steps included, leaves no lock held that was not held before.
-/

namespace CloudBuckets.Session

-----------------------------------------------------------------------------------------
-- Caches by their names
-----------------------------------------------------------------------------------------

namespace World

/-- The cache that is put in place is there afterwards, and the others stay. -/
theorem cache_setCache (w : World) (name : String) (cache : Cache Key Adapter) (other : String)
    : (w.setCache name cache).cache other = if other = name then cache else w.cache other := by
  have replaced : ∀ entries : List (String × Cache Key Adapter),
      (setCache.replace name cache entries).lookup other
      = if other = name then some cache else entries.lookup other := by
    have cons : ∀ (first : String) (old : Cache Key Adapter) rest,
        ((first, old) :: rest).lookup other
        = if other = first then some old else rest.lookup other := by
      intro first old rest
      by_cases same : other = first
      · simp [same]
      · have apart : (other == first) = false := beq_eq_false_iff_ne.mpr same
        simp [List.lookup_cons, apart, same]
    intro entries
    induction entries with
    | nil => rw [setCache.replace, cons]
    | cons entry rest ih =>
        obtain ⟨first, old⟩ := entry
        simp only [setCache.replace]
        by_cases same : first = name
        · subst same
          rw [if_pos rfl, cons, cons]
          split <;> rfl
        · rw [if_neg same, cons, cons, ih]
          by_cases here : other = first
          · have apart : other ≠ name := here ▸ same
            rw [if_pos here, if_neg apart, if_pos here]
          · rw [if_neg here, if_neg here]
  simp only [World.cache, World.setCache, replaced]
  split <;> rfl

theorem cache_touch (w : World) (name other : String)
    : (w.touch name).cache other = w.cache other := by
  unfold World.touch
  rw [cache_setCache]
  split
  · rename_i same
    rw [same]
  · rfl

theorem cache_note (w : World) (record : LogRecord) (name : String)
    : (w.note record).cache name = w.cache name := by
  unfold World.note
  split <;> rfl

end World

/-- In every cache, the numbers of locks still tell them apart, and no lock is held that was not
held before.
-/
def GivesBack (before after : World) : Prop :=
  ∀ name,
    (before.cache name).Numbered
    → (after.cache name).Numbered
      ∧ Cache.Settles none (before.cache name) (after.cache name)

namespace GivesBack

theorem of_cache_eq {before after : World} (same : ∀ name, after.cache name = before.cache name)
    : GivesBack before after := by
  intro name numbered
  rw [same]
  exact ⟨numbered, .refl none _⟩

theorem trans {first middle last : World} (earlier : GivesBack first middle)
    (later : GivesBack middle last)
    : GivesBack first last := by
  intro name numbered
  obtain ⟨stillNumbered, settles⟩ := earlier name numbered
  obtain ⟨lastNumbered, settlesLater⟩ := later name stillNumbered
  exact ⟨lastNumbered, settles.trans settlesLater⟩

end GivesBack

-----------------------------------------------------------------------------------------
-- Steps give back locks
-----------------------------------------------------------------------------------------

section

variable {factory : Factory}

/-- What a call tells changes no cache. -/
theorem told_cache (provider : Provider) (name : String) (key : Key)
    (stage : Cache.Stage Fault Adapter) (w : World) (other : String)
    : ((World.surroundings factory provider name).access.told key stage w).cache other
      = w.cache other := by
  unfold Cache.Access.told
  split
  · rename_i notice _
    cases notice <;> exact w.cache_note _ other
  · rfl

/-- Calls are orderly if the factory gives back all locks. -/
theorem surroundings_orderly
    (nested : ∀ provider project options w, GivesBack w (factory provider project options w).2)
    (provider : Provider) (name : String)
    : (World.surroundings factory provider name).Orderly where
  access := {
    cache_setCache := fun cache w => by
      change (w.setCache name cache).cache name = cache
      rw [World.cache_setCache, if_pos rfl]
    make_numbered := fun key w numbered => (nested _ _ _ w name numbered).1
    make_settles := fun key w numbered => (nested _ _ _ w name numbered).2 }
  probe _ _ _ := rfl
  note record w := w.cache_note record name

/-- A call gives back the locks of its own cache, and all others are left to the factory. -/
theorem resolve_givesBack
    (nested : ∀ provider project options w, GivesBack w (factory provider project options w).2)
    (provider : Provider) (name : String) (key : Key) (w : World)
    : GivesBack w ((World.surroundings factory provider name).access.resolve key w).2 := by
  intro other numbered
  by_cases own : other = name
  · subst own
    exact (surroundings_orderly nested provider other).access.resolve key numbered
  · have kept : ∀ {stage next : Cache.Stage Fault Adapter} {v u : World},
        (v.cache other).Numbered ∧ Cache.Settles none (w.cache other) (v.cache other)
        → (World.surroundings factory provider name).access.Goes key stage v next u
        → (u.cache other).Numbered ∧ Cache.Settles none (w.cache other) (u.cache other) := by
      intro stage next v u ⟨known, settles⟩ goes
      cases goes with
      | @move _ _ _ cache moves =>
          have same : ((World.surroundings factory provider name).access.setCache cache
              ((World.surroundings factory provider name).access.told key stage v)).cache other
              = v.cache other := by
            change (World.setCache _ name cache).cache other = v.cache other
            rw [World.cache_setCache, if_neg own, told_cache]
          rw [same]
          exact ⟨known, settles⟩
      | make =>
          obtain ⟨stillNumbered, settlesLater⟩ := nested _ _ _ v other known
          exact ⟨stillNumbered, settles.trans settlesLater⟩
    obtain ⟨_, settled, _⟩ :=
      (World.surroundings factory provider name).access.resolve_induction
        (fun _ v => (v.cache other).Numbered ∧ Cache.Settles none (w.cache other) (v.cache other))
        kept ⟨numbered, .refl none _⟩
    exact settled

/-- All changes that actions are put together from give back locks. -/
theorem steady_givesBack
    (nested : ∀ provider project options w, GivesBack w (factory provider project options w).2)
    : Steady factory GivesBack where
  trans := GivesBack.trans
  aside caches _ := .of_cache_eq fun _ => by unfold World.cache; rw [caches]
  touch w name := .of_cache_eq (w.cache_touch name)
  clear w name := by
    intro other numbered
    rw [World.cache_setCache]
    split
    · rename_i same
      subst same
      refine ⟨numbered.clear, fun lock member held _ => ?_⟩
      obtain ⟨old, inside, rfl⟩ := List.mem_map.mp member
      exact ⟨old, inside, rfl, rfl, held, nofun⟩
    · exact ⟨numbered, .refl none _⟩
  build := nested
  resolve := resolve_givesBack nested

end

/-- However a session evolves, it gives back the locks that it takes. -/
theorem Evolves.givesBack {Honest : Factory → Prop} {before after : World}
    (evolves : Evolves Honest before after)
    : GivesBack before after := by
  induction evolves with
  | refl w => exact .of_cache_eq fun _ => rfl
  | aside _ caches _ ih =>
      exact ih.trans (.of_cache_eq fun _ => by unfold World.cache; rw [caches])
  | @step first w _ factory _ _ step ih nested =>
      have performed := Act.Does.perform (steady_givesBack nested) step.1 w
      refine ih.trans (performed.trans (.of_cache_eq fun _ => ?_))
      unfold World.cache
      rw [doStep_caches]

end CloudBuckets.Session
