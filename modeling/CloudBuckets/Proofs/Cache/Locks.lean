import CloudBuckets.Proofs.Cache.Moves
import Mathlib.Data.List.Nodup

/-! The locks of a cache agree with the calls in progress: a lock counts the calls registered on
it, it is held by one of them or by none, and calls find at most one lock for a key. This holds
whatever the order of steps, failures and clears.
-/

namespace CloudBuckets.Cache

variable {κ ε α : Type}

-----------------------------------------------------------------------------------------
-- Which lock a call is registered on, and which one it holds
-----------------------------------------------------------------------------------------

namespace Stage

/-- The lock that a call is registered on. -/
def joined? : Stage ε α → Option Nat
  | acquiring lock | rechecking lock | starting lock | making lock => some lock
  | storing lock _ | releasing lock _ | leaving lock _ => some lock
  | looking | registering | done _ => none

/-- The lock that a call holds. -/
def held? : Stage ε α → Option Nat
  | rechecking lock | starting lock | making lock => some lock
  | storing lock _ | releasing lock _ => some lock
  | looking | registering | acquiring _ | leaving _ _ | done _ => none

/-- A call holds only the lock that it is registered on. -/
theorem joined?_of_held? {stage : Stage ε α} {lock : Nat} (held : stage.held? = some lock)
    : stage.joined? = some lock := by
  cases stage <;> simp_all [held?, joined?]

/-- A call that has made a value, or failed to, is still registered on its lock and holds it. -/
@[simp] theorem joined?_made (lock : Nat) (made : Except ε α)
    : (Stage.made lock made).joined? = some lock := by
  cases made <;> rfl

@[simp] theorem held?_made (lock : Nat) (made : Except ε α)
    : (Stage.made lock made).held? = some lock := by
  cases made <;> rfl

end Stage

/-- How many calls are registered on a lock. -/
def joiners (runs : List (Run κ ε α)) (lock : Nat) : Nat :=
  runs.countP fun run => run.stage.joined? = some lock

/-- How many calls hold a lock. -/
def holders (runs : List (Run κ ε α)) (lock : Nat) : Nat :=
  runs.countP fun run => run.stage.held? = some lock

/-- Replacing an item moves a count by what the two items count for. -/
private theorem countP_set_add {β : Type} (counts : β → Bool) {items : List β} {place : Nat}
    {old : β} (found : items[place]? = some old) (new : β)
    : (items.set place new).countP counts + (if counts old then 1 else 0)
      = items.countP counts + (if counts new then 1 else 0) := by
  obtain ⟨inside, same⟩ := List.getElem?_eq_some_iff.mp found
  have counted : (if counts old then 1 else 0) ≤ items.countP counts := by
    by_cases holds : counts old
    · have positive : 0 < items.countP counts :=
        List.countP_pos_iff.mpr ⟨old, same ▸ List.getElem_mem inside, holds⟩
      simp only [holds, if_true]
      omega
    · simp [holds]
  rw [List.countP_set inside, same]
  omega

/-- Two places that count give a count of at least two, by induction on the list. -/
private theorem two_le_countP {β : Type} {counts : β → Bool} {items : List β} {i j : Nat}
    {a b : β} (atI : items[i]? = some a) (atJ : items[j]? = some b) (ha : counts a)
    (hb : counts b) (apart : i ≠ j)
    : 2 ≤ items.countP counts := by
  have later : ∀ {rest : List β} {place : Nat} {item : β},
      rest[place]? = some item → counts item → 0 < rest.countP counts :=
    fun found holds => List.countP_pos_iff.mpr ⟨_, List.mem_of_getElem? found, holds⟩
  induction items generalizing i j with
  | nil => simp at atI
  | cons head rest ih =>
      cases i with
      | zero =>
          cases j with
          | zero => exact absurd rfl apart
          | succ j =>
              obtain rfl : head = a := by simpa using atI
              have more := later (by simpa using atJ) hb
              simp only [List.countP_cons, ha, if_true]
              omega
      | succ i =>
          cases j with
          | zero =>
              obtain rfl : head = b := by simpa using atJ
              have more := later (by simpa using atI) ha
              simp only [List.countP_cons, hb, if_true]
              omega
          | succ j =>
              have more := ih (i := i) (j := j) (by simpa using atI) (by simpa using atJ)
                (fun same => apart (congrArg Nat.succ same))
              simp only [List.countP_cons]
              omega

/-- A call that moves on is counted where it goes and no longer where it was. -/
theorem joiners_set {runs : List (Run κ ε α)} {call : Nat} {run : Run κ ε α}
    (found : runs[call]? = some run) (next : Run κ ε α) (lock : Nat)
    : joiners (runs.set call next) lock + (if run.stage.joined? = some lock then 1 else 0)
      = joiners runs lock + (if next.stage.joined? = some lock then 1 else 0) := by
  simpa [joiners] using
    countP_set_add (fun run => run.stage.joined? = some lock) found next

theorem holders_set {runs : List (Run κ ε α)} {call : Nat} {run : Run κ ε α}
    (found : runs[call]? = some run) (next : Run κ ε α) (lock : Nat)
    : holders (runs.set call next) lock + (if run.stage.held? = some lock then 1 else 0)
      = holders runs lock + (if next.stage.held? = some lock then 1 else 0) := by
  simpa [holders] using
    countP_set_add (fun run => run.stage.held? = some lock) found next

/-- A registered call is the only one on its lock if it alone is counted. Without it, the count is
one less, so that a second one has to be at another place.
-/
theorem joiners_eq_one_iff {runs : List (Run κ ε α)} {call lock : Nat} {run : Run κ ε α}
    (found : runs[call]? = some run) (joined : run.stage.joined? = some lock)
    : joiners runs lock = 1
      ↔ ∀ other run, runs[other]? = some run → run.stage.joined? = some lock → other = call := by
  constructor
  · intro one other second atOther also
    by_contra apart
    have two : 2 ≤ joiners runs lock :=
      two_le_countP atOther found (by simpa using also) (by simpa using joined) apart
    omega
  · intro alone
    have moved := joiners_set found ⟨run.key, .looking⟩ lock
    have nobody : joiners (runs.set call ⟨run.key, .looking⟩) lock = 0 := by
      refine List.countP_eq_zero.mpr fun other member => ?_
      obtain ⟨place, atPlace⟩ := List.getElem?_of_mem member
      rcases Runs.set_cases atPlace with ⟨_, rfl⟩ | ⟨apart, old⟩
      · simp [Stage.joined?]
      · simpa using fun also => apart (alone place other old also)
    rw [if_pos joined, nobody] at moved
    simpa [Stage.joined?] using moved.symm

-----------------------------------------------------------------------------------------
-- The numbers of locks
-----------------------------------------------------------------------------------------

/-- A change of one lock leaves the others alone. -/
theorem mem_changeLock {cache : Cache κ α} {id : Nat} {change : Lock κ → Lock κ} {lock : Lock κ}
    : lock ∈ (cache.changeLock id change).locks
      ↔ ∃ old ∈ cache.locks, lock = if old.id = id then change old else old := by
  simp [changeLock, eq_comm]

/-- The numbers of locks tell them apart, and tell them from those that are still to be made. -/
structure Numbered (cache : Cache κ α) : Prop where
  distinct : (cache.locks.map (·.id)).Nodup
  fresh : ∀ lock ∈ cache.locks, lock.id < cache.nextLock

theorem Numbered.changeLock {cache : Cache κ α} (numbered : cache.Numbered) {id : Nat}
    {change : Lock κ → Lock κ} (keeps : ∀ lock, (change lock).id = lock.id)
    : (cache.changeLock id change).Numbered := by
  have same : ∀ old : Lock κ, (if old.id = id then change old else old).id = old.id := by
    intro old
    split
    · exact keeps old
    · rfl
  constructor
  · simpa [Cache.changeLock, Function.comp_def, same] using numbered.distinct
  · intro lock member
    obtain ⟨old, inside, rfl⟩ := mem_changeLock.mp member
    rw [same]
    exact numbered.fresh old inside

/-- A lock is found by its number. -/
theorem Numbered.lock? {cache : Cache κ α} (numbered : cache.Numbered) {lock : Lock κ}
    (member : lock ∈ cache.locks)
    : cache.lock? lock.id = some lock := by
  cases found : cache.lock? lock.id with
  | none => simpa using List.find?_eq_none.mp found lock member
  | some other =>
      have inside := List.mem_of_find?_eq_some found
      have same : other.id = lock.id := by simpa using List.find?_some found
      exact congrArg some (List.inj_on_of_nodup_map numbered.distinct inside member same)

/-- A call registers on a lock with a number that tells it from the others. -/
theorem Numbered.register [DecidableEq κ] {cache : Cache κ α} (numbered : cache.Numbered)
    (key : κ)
    : (cache.register key).2.Numbered := by
  unfold Cache.register
  split
  · exact numbered.changeLock fun _ => rfl
  · constructor
    · rw [List.map_append, List.nodup_append]
      refine ⟨numbered.distinct, by simp, ?_⟩
      intro id member other new same
      obtain ⟨lock, inside, rfl⟩ := List.mem_map.mp member
      simp only [List.map_cons, List.map_nil, List.mem_singleton] at new
      exact Nat.ne_of_lt (numbered.fresh lock inside) (same.trans new)
    · intro lock member
      rcases List.mem_append.mp member with old | new
      · exact Nat.lt_succ_of_lt (numbered.fresh lock old)
      · obtain rfl := List.mem_singleton.mp new
        exact Nat.lt_succ_self _

theorem Numbered.leave {cache : Cache κ α} (numbered : cache.Numbered) (id : Nat)
    : (cache.leave id).Numbered := by
  have changed
      : (cache.changeLock id fun lock => { lock with waiters := lock.waiters - 1 }).Numbered :=
    numbered.changeLock fun _ => rfl
  exact ⟨changed.distinct.sublist (List.filter_sublist.map _),
    fun lock member => changed.fresh lock (List.mem_filter.mp member).1⟩

theorem Numbered.empty : (Cache.empty : Cache κ α).Numbered := by
  constructor <;> simp [Cache.empty]

theorem Numbered.clear {cache : Cache κ α} (numbered : cache.Numbered) : cache.clear.Numbered := by
  constructor
  · simpa [Cache.clear, Function.comp_def] using numbered.distinct
  · intro lock member
    obtain ⟨old, inside, rfl⟩ := List.mem_map.mp member
    exact numbered.fresh old inside

-----------------------------------------------------------------------------------------
-- The invariant of the locks
-----------------------------------------------------------------------------------------

/-- The locks count the calls, and the calls are registered on locks for their own keys. -/
structure Counted (cache : Cache κ α) (runs : List (Run κ ε α)) : Prop
    extends Numbered cache where
  waiting : ∀ lock ∈ cache.locks, lock.waiters = joiners runs lock.id
  held : ∀ lock ∈ cache.locks, holders runs lock.id = if lock.held then 1 else 0
  known
    : ∀ run ∈ runs,
        ∀ id,
          run.stage.joined? = some id
          → ∃ lock ∈ cache.locks, lock.id = id ∧ lock.key = run.key
  /-- Calls for one key find one lock. -/
  single
    : ∀ a ∈ cache.locks,
        ∀ b ∈ cache.locks, a.listed → b.listed → a.key = b.key → a.id = b.id

/-- Moreover every lock has a call registered on it. -/
structure Locked (cache : Cache κ α) (runs : List (Run κ ε α)) : Prop
    extends Counted cache runs where
  needed : ∀ lock ∈ cache.locks, 0 < lock.waiters

/-- A lock is known by its number. -/
theorem Counted.eq_of_id {cache : Cache κ α} {runs : List (Run κ ε α)}
    (h : Counted cache runs) {a b : Lock κ} (ha : a ∈ cache.locks) (hb : b ∈ cache.locks)
    (same : a.id = b.id)
    : a = b :=
  List.inj_on_of_nodup_map h.distinct ha hb same

/-- At most one call holds a lock, since a held lock has one holder and a free one none. -/
theorem Counted.holder_unique {cache : Cache κ α} {runs : List (Run κ ε α)}
    (h : Counted cache runs) {i j lock : Nat} {a b : Run κ ε α}
    (atI : runs[i]? = some a) (atJ : runs[j]? = some b)
    (ha : a.stage.held? = some lock) (hb : b.stage.held? = some lock)
    : i = j := by
  obtain ⟨found, member, id, _⟩ :=
    h.known a (List.mem_of_getElem? atI) lock (Stage.joined?_of_held? ha)
  by_contra apart
  have two : 2 ≤ holders runs lock :=
    two_le_countP atI atJ (by simpa using ha) (by simpa using hb) apart
  have one := h.held found member
  rw [id] at one
  split at one <;> omega

/-- Calls that hold locks for one key are one call if other calls find their locks, since then
these are one lock.
-/
theorem Counted.holder_unique_of_listed {cache : Cache κ α} {runs : List (Run κ ε α)}
    (h : Counted cache runs) {i j a b : Nat} {first second : Run κ ε α}
    (atI : runs[i]? = some first) (atJ : runs[j]? = some second)
    (sameKey : first.key = second.key) (ha : first.stage.held? = some a)
    (hb : second.stage.held? = some b)
    (listed : ∀ lock ∈ cache.locks, lock.id = a ∨ lock.id = b → lock.listed)
    : i = j := by
  obtain ⟨lockA, insideA, rfl, keyA⟩ :=
    h.known _ (List.mem_of_getElem? atI) a (Stage.joined?_of_held? ha)
  obtain ⟨lockB, insideB, rfl, keyB⟩ :=
    h.known _ (List.mem_of_getElem? atJ) b (Stage.joined?_of_held? hb)
  have same := h.single lockA insideA lockB insideB (listed lockA insideA (.inl rfl))
    (listed lockB insideB (.inr rfl)) (keyA.trans (sameKey.trans keyB.symm))
  exact h.holder_unique atI atJ ha (same ▸ hb)

/-- Without a call registered on it, a number is not that of a lock in use. -/
theorem Counted.joiners_fresh {cache : Cache κ α} {runs : List (Run κ ε α)}
    (h : Counted cache runs) (id : Nat) (fresh : cache.nextLock ≤ id)
    : joiners runs id = 0 ∧ holders runs id = 0 := by
  have outside : ∀ run ∈ runs, run.stage.joined? ≠ some id := by
    intro run member joined
    obtain ⟨lock, inside, rfl, _⟩ := h.known run member id joined
    exact absurd (h.fresh lock inside) (by omega)
  constructor
  · exact List.countP_eq_zero.mpr fun run member => by simpa using outside run member
  · refine List.countP_eq_zero.mpr fun run member => ?_
    simpa using fun held => outside run member (Stage.joined?_of_held? held)

/-- The calls after one of them has moved on are registered on locks for their keys, if that one
is. -/
theorem Counted.known_set {cache : Cache κ α} {runs : List (Run κ ε α)}
    (h : Counted cache runs) (call : Nat) (next : Run κ ε α)
    (known
      : ∀ id,
          next.stage.joined? = some id
          → ∃ lock ∈ cache.locks, lock.id = id ∧ lock.key = next.key)
    : ∀ run ∈ runs.set call next,
        ∀ id,
          run.stage.joined? = some id
          → ∃ lock ∈ cache.locks, lock.id = id ∧ lock.key = run.key := by
  intro run member id joined
  rcases List.mem_or_eq_of_mem_set member with old | rfl
  · exact h.known run old id joined
  · exact known id joined

-----------------------------------------------------------------------------------------
-- Changes of one lock
-----------------------------------------------------------------------------------------

/-- A change that keeps what identifies a lock keeps the calls counted, if the changed lock agrees
with the calls after it and no other lock has lost or won any.
-/
theorem Counted.change {cache : Cache κ α} {runs after : List (Run κ ε α)}
    (h : Counted cache runs) {id : Nat} {change : Lock κ → Lock κ}
    (keeps
      : ∀ lock,
          (change lock).id = lock.id
          ∧ (change lock).key = lock.key
          ∧ (change lock).listed = lock.listed)
    (known
      : ∀ run ∈ after,
          ∀ number,
            run.stage.joined? = some number
            → ∃ lock ∈ cache.locks, lock.id = number ∧ lock.key = run.key)
    (others
      : ∀ other ≠ id,
          joiners after other = joiners runs other ∧ holders after other = holders runs other)
    (changed
      : ∀ lock ∈ cache.locks,
          lock.id = id
          → (change lock).waiters = joiners after id
            ∧ holders after id = if (change lock).held then 1 else 0)
    : Counted (cache.changeLock id change) after := by
  have looks : ∀ old : Lock κ,
      let lock := if old.id = id then change old else old
      lock.id = old.id ∧ lock.key = old.key ∧ lock.listed = old.listed := by
    intro old
    dsimp only
    split
    · exact keeps old
    · exact ⟨rfl, rfl, rfl⟩
  constructor
  · exact h.toNumbered.changeLock fun lock => (keeps lock).1
  · intro lock member
    obtain ⟨old, inside, rfl⟩ := mem_changeLock.mp member
    rw [(looks old).1]
    by_cases here : old.id = id
    · simpa only [here, if_true] using (changed old inside here).1
    · simpa only [here, if_false, (others old.id here).1] using h.waiting old inside
  · intro lock member
    obtain ⟨old, inside, rfl⟩ := mem_changeLock.mp member
    rw [(looks old).1]
    by_cases here : old.id = id
    · simpa only [here, if_true] using (changed old inside here).2
    · simpa only [here, if_false, (others old.id here).2] using h.held old inside
  · intro run member number joined
    obtain ⟨old, inside, sameId, sameKey⟩ := known run member number joined
    exact ⟨_, mem_changeLock.mpr ⟨old, inside, rfl⟩, (looks old).1.trans sameId,
      (looks old).2.1.trans sameKey⟩
  · intro a ha b hb listedA listedB sameKey
    obtain ⟨oldA, insideA, rfl⟩ := mem_changeLock.mp ha
    obtain ⟨oldB, insideB, rfl⟩ := mem_changeLock.mp hb
    simp only [(looks oldA).1, (looks oldA).2.1, (looks oldA).2.2, (looks oldB).1,
      (looks oldB).2.1, (looks oldB).2.2] at listedA listedB sameKey ⊢
    exact h.single oldA insideA oldB insideB listedA listedB sameKey

/-- A step that changes no lock keeps the locks in agreement, if the call stays where it is with
regard to locks.
-/
theorem Locked.quiet {cache next : Cache κ α} {runs : List (Run κ ε α)} (h : Locked cache runs)
    {call : Nat} {run : Run κ ε α} {stage : Stage ε α} (found : runs[call]? = some run)
    (locks : next.locks = cache.locks) (nextLock : next.nextLock = cache.nextLock)
    (joined : stage.joined? = run.stage.joined?) (held : stage.held? = run.stage.held?)
    : Locked next (runs.set call { run with stage }) := by
  have joiners : ∀ id, joiners (runs.set call { run with stage }) id = joiners runs id := by
    intro id
    have moved := joiners_set found { run with stage } id
    simp only [joined] at moved
    omega
  have holders : ∀ id, holders (runs.set call { run with stage }) id = holders runs id := by
    intro id
    have moved := holders_set found { run with stage } id
    simp only [held] at moved
    omega
  have known := h.known_set call { run with stage } fun id here =>
    h.known run (List.mem_of_getElem? found) id (joined ▸ here)
  constructor
  · constructor
    · exact ⟨by simpa only [locks] using h.distinct, by simpa only [locks, nextLock] using h.fresh⟩
    · simpa only [locks, joiners] using h.waiting
    · simpa only [locks, holders] using h.held
    · simpa only [locks] using known
    · simpa only [locks] using h.single
  · simpa only [locks] using h.needed

-----------------------------------------------------------------------------------------
-- Each move of a call keeps the locks in agreement
-----------------------------------------------------------------------------------------

/-- A call that registers joins the listed lock for its key, or a new one. -/
theorem Locked.register [DecidableEq κ] {cache : Cache κ α} {runs : List (Run κ ε α)}
    (h : Locked cache runs) {call : Nat} {key : κ} (found : runs[call]? = some ⟨key, .registering⟩)
    : Locked (cache.register key).2
        (runs.set call ⟨key, .acquiring (cache.register key).1⟩) := by
  have joins : ∀ joined id,
      joiners (runs.set call ⟨key, .acquiring joined⟩) id
        = joiners runs id + (if joined = id then 1 else 0) := by
    intro joined id
    simpa [Stage.joined?] using
      joiners_set found ⟨key, .acquiring joined⟩ id
  have holds : ∀ joined id,
      holders (runs.set call ⟨key, .acquiring joined⟩) id = holders runs id := by
    intro joined id
    simpa [Stage.held?] using
      holders_set found ⟨key, .acquiring joined⟩ id
  have numbered : (cache.register key).2.Numbered := h.toNumbered.register key
  unfold Cache.register at numbered ⊢
  cases listed : cache.listed? key with
  | some lock =>
      have member : lock ∈ cache.locks := List.mem_of_find?_eq_some listed
      have sameKey : lock.key = key := by
        have := List.find?_some listed
        simp_all
      refine ⟨h.change (fun _ => ⟨rfl, rfl, rfl⟩) ?_ ?_ ?_, ?_⟩
      · refine h.known_set call _ fun id joined => ⟨lock, member, ?_, sameKey⟩
        simpa [Stage.joined?] using joined
      · intro other apart
        simp [joins, holds, Ne.symm apart]
      · intro old inside here
        obtain rfl := h.eq_of_id inside member here
        have counted := h.waiting old inside
        have holding := h.held old inside
        simp_all
      · intro changed inside
        obtain ⟨old, before, rfl⟩ := mem_changeLock.mp inside
        have positive := h.needed old before
        split
        · exact Nat.succ_pos _
        · exact positive
  | none =>
      obtain ⟨noJoiner, noHolder⟩ := h.joiners_fresh cache.nextLock (Nat.le_refl _)
      have apart : ∀ lock ∈ cache.locks, cache.nextLock ≠ lock.id := fun lock member =>
        (Nat.ne_of_lt (h.fresh lock member)).symm
      simp only [listed] at numbered
      refine ⟨⟨numbered, ?_, ?_, ?_, ?_⟩, ?_⟩
      · intro lock member
        rcases List.mem_append.mp member with old | new
        · simpa [joins, apart lock old] using h.waiting lock old
        · obtain rfl := List.mem_singleton.mp new
          simp [joins, noJoiner]
      · intro lock member
        rcases List.mem_append.mp member with old | new
        · simpa only [holds] using h.held lock old
        · obtain rfl := List.mem_singleton.mp new
          simp [holds, noHolder]
      · intro run member id joined
        rcases List.mem_or_eq_of_mem_set member with old | rfl
        · obtain ⟨lock, inside, facts⟩ := h.known run old id joined
          exact ⟨lock, List.mem_append_left _ inside, facts⟩
        · refine ⟨_, List.mem_append_right _ (List.mem_singleton.mpr rfl), ?_, rfl⟩
          simpa [Stage.joined?] using joined
      · -- a listed lock for the key would have been found
        have unlisted : ∀ lock ∈ cache.locks, lock.listed → lock.key ≠ key := by
          intro lock member isListed
          simpa [isListed] using List.find?_eq_none.mp listed lock member
        intro a ha b hb listedA listedB sameKey
        rcases List.mem_append.mp ha with oldA | newA <;>
          rcases List.mem_append.mp hb with oldB | newB
        · exact h.single a oldA b oldB listedA listedB sameKey
        · obtain rfl := List.mem_singleton.mp newB
          exact absurd sameKey (unlisted a oldA listedA)
        · obtain rfl := List.mem_singleton.mp newA
          exact absurd sameKey.symm (unlisted b oldB listedB)
        · rw [List.mem_singleton.mp newA, List.mem_singleton.mp newB]
      · intro lock member
        rcases List.mem_append.mp member with old | new
        · exact h.needed lock old
        · obtain rfl := List.mem_singleton.mp new
          exact Nat.one_pos

theorem Locked.needed_changeLock {cache : Cache κ α} {runs : List (Run κ ε α)}
    (h : Locked cache runs) {id : Nat} {change : Lock κ → Lock κ}
    (kept : ∀ lock, (change lock).waiters = lock.waiters)
    : ∀ lock ∈ (cache.changeLock id change).locks, 0 < lock.waiters := by
  intro changed inside
  obtain ⟨old, before, rfl⟩ := mem_changeLock.mp inside
  have positive := h.needed old before
  split
  · rwa [kept]
  · exact positive

/-- A call that takes its lock is the only one to hold it, since nobody held it before. -/
theorem Locked.acquire {cache next : Cache κ α} {runs : List (Run κ ε α)}
    (h : Locked cache runs) {call lock : Nat} {key : κ}
    (found : runs[call]? = some ⟨key, .acquiring lock⟩)
    (free : cache.acquire? lock = some next)
    : Locked next (runs.set call ⟨key, .rechecking lock⟩) := by
  have joins := joiners_set found ⟨key, .rechecking lock⟩
  have holds := holders_set found ⟨key, .rechecking lock⟩
  simp only [Stage.joined?, Stage.held?, Option.some.injEq] at joins holds
  unfold acquire? at free
  split at free
  case h_2 => cases free
  case h_1 taken sought =>
    split at free
    · cases free
    · rename_i isFree
      cases free
      refine ⟨h.change (fun _ => ⟨rfl, rfl, rfl⟩) ?_ ?_ ?_, ?_⟩
      · exact h.known_set call _ fun id joined =>
          h.known _ (List.mem_of_getElem? found) id joined
      · intro other apart
        have joined := joins other
        have held := holds other
        simp_all [Ne.symm apart]
      · intro old inside here
        have member : taken ∈ cache.locks := List.mem_of_find?_eq_some sought
        have number : taken.id = lock := by simpa using List.find?_some sought
        obtain rfl := h.eq_of_id inside member (here.trans number.symm)
        have counted := h.waiting old inside
        have holding := h.held old inside
        have joined := joins lock
        have held := holds lock
        simp_all
      · exact h.needed_changeLock fun _ => rfl

/-- A call that gives its lock back was the only one to hold it. -/
theorem Locked.release {cache : Cache κ α} {runs : List (Run κ ε α)} (h : Locked cache runs)
    {call lock : Nat} {key : κ} {result : Except ε α}
    (found : runs[call]? = some ⟨key, .releasing lock result⟩)
    : Locked (cache.release lock) (runs.set call ⟨key, .leaving lock result⟩) := by
  have joins := joiners_set found ⟨key, .leaving lock result⟩
  have holds := holders_set found ⟨key, .leaving lock result⟩
  simp only [Stage.joined?, Stage.held?, Option.some.injEq] at joins holds
  refine ⟨h.change (fun _ => ⟨rfl, rfl, rfl⟩) ?_ ?_ ?_, ?_⟩
  · exact h.known_set call _ fun id joined => h.known _ (List.mem_of_getElem? found) id joined
  · intro other apart
    have joined := joins other
    have held := holds other
    simp_all [Ne.symm apart]
  · intro old inside rfl
    have counted := h.waiting old inside
    have holding := h.held old inside
    have joined := joins old.id
    have held := holds old.id
    simp only [if_true, reduceCtorEq, if_false, Bool.false_eq_true] at joined held ⊢
    split at holding <;> omega
  · exact h.needed_changeLock fun _ => rfl

/-- A call that leaves is no longer counted, and a lock that it leaves to nobody is dropped. -/
theorem Locked.leave {cache : Cache κ α} {runs : List (Run κ ε α)} (h : Locked cache runs)
    {call lock : Nat} {key : κ} {result : Except ε α}
    (found : runs[call]? = some ⟨key, .leaving lock result⟩)
    : Locked (cache.leave lock) (runs.set call ⟨key, .done result⟩) := by
  have joins := joiners_set found ⟨key, .done result⟩
  have holds := holders_set found ⟨key, .done result⟩
  simp only [Stage.joined?, Stage.held?, Option.some.injEq, reduceCtorEq, if_false]
    at joins holds
  have left : Counted
      (cache.changeLock lock fun old => { old with waiters := old.waiters - 1 })
      (runs.set call ⟨key, .done result⟩) := by
    refine h.change (fun _ => ⟨rfl, rfl, rfl⟩) ?_ ?_ ?_
    · exact h.known_set call _ (by simp [Stage.joined?])
    · intro other apart
      have joined := joins other
      have held := holds other
      simp_all [Ne.symm apart]
    · intro old inside rfl
      have counted := h.waiting old inside
      have holding := h.held old inside
      have joined := joins old.id
      have held := holds old.id
      simp only [if_true] at joined
      constructor
      · dsimp only
        omega
      · simpa using held.trans holding
  have kept : ∀ {old : Lock κ},
      old ∈ (cache.changeLock lock fun old => { old with waiters := old.waiters - 1 }).locks
      → 0 < old.waiters
      → old ∈ (cache.leave lock).locks := by
    intro old inside positive
    exact List.mem_filter.mpr ⟨inside, by simp [positive]⟩
  have before : ∀ {old : Lock κ},
      old ∈ (cache.leave lock).locks
      → old ∈ (cache.changeLock lock fun old => { old with waiters := old.waiters - 1 }).locks :=
    fun inside => (List.mem_filter.mp inside).1
  refine ⟨⟨h.toNumbered.leave lock, ?_, ?_, ?_, ?_⟩, ?_⟩
  · exact fun old inside => left.waiting old (before inside)
  · exact fun old inside => left.held old (before inside)
  · intro run member id joined
    obtain ⟨old, inside, rfl, sameKey⟩ := left.known run member id joined
    have positive : 0 < old.waiters := by
      rw [left.waiting old inside]
      exact List.countP_pos_iff.mpr ⟨run, member, by simpa using joined⟩
    exact ⟨old, kept inside positive, rfl, sameKey⟩
  · exact fun a ha b hb => left.single a (before ha) b (before hb)
  · intro old inside
    obtain ⟨changed, positive⟩ := List.mem_filter.mp inside
    simp only [ne_eq, Bool.or_eq_true, decide_eq_true_eq] at positive
    rcases positive with other | positive
    · obtain ⟨same, member, rfl⟩ := mem_changeLock.mp changed
      split at other
      · exact absurd ‹_› other
      · simpa only [‹¬_›, if_false] using h.needed same member
    · exact positive

-----------------------------------------------------------------------------------------
-- Every run of a pool keeps the locks in agreement
-----------------------------------------------------------------------------------------

/-- A move of a call keeps the locks in agreement, by cases on the move. -/
theorem Locked.moves [DecidableEq κ] {cache next : Cache κ α} {runs : List (Run κ ε α)}
    (h : Locked cache runs) {call : Nat} {run : Run κ ε α} {stage : Stage ε α}
    (found : runs[call]? = some run) (moves : Moves run.key run.stage cache stage next)
    : Locked next (runs.set call { run with stage }) := by
  obtain ⟨key, before⟩ := run
  cases moves with
  | find | miss | refind | remiss | start | store => exact h.quiet found rfl rfl rfl rfl
  | register => exact h.register found
  | acquire free => exact h.acquire found free
  | release => exact h.release found
  | leave => exact h.leave found

/-- Forgetting all values lets no later call find the locks in use, and changes them in nothing
else. -/
theorem Locked.clear {cache : Cache κ α} {runs : List (Run κ ε α)} (h : Locked cache runs)
    : Locked cache.clear runs := by
  have mem : ∀ {lock}, lock ∈ cache.clear.locks
      ↔ ∃ old ∈ cache.locks, { old with listed := false } = lock := by
    simp [Cache.clear]
  refine ⟨⟨h.toNumbered.clear, ?_, ?_, ?_, ?_⟩, ?_⟩
  · intro _ member
    obtain ⟨old, inside, rfl⟩ := mem.mp member
    exact h.waiting old inside
  · intro _ member
    obtain ⟨old, inside, rfl⟩ := mem.mp member
    exact h.held old inside
  · intro run member id joined
    obtain ⟨old, inside, facts⟩ := h.known run member id joined
    exact ⟨_, mem.mpr ⟨old, inside, rfl⟩, facts⟩
  · intro a ha b _ listed
    obtain ⟨old, _, rfl⟩ := mem.mp ha
    cases listed
  · intro _ member
    obtain ⟨old, inside, rfl⟩ := mem.mp member
    exact h.needed old inside

/-- A call that is started is registered on no lock. -/
theorem Locked.call {cache : Cache κ α} {runs : List (Run κ ε α)} (h : Locked cache runs)
    (key : κ)
    : Locked cache (runs ++ [⟨key, .looking⟩]) := by
  have joiners : ∀ id, joiners (runs ++ [⟨key, .looking⟩]) id = joiners runs id := by
    simp [Cache.joiners, Stage.joined?]
  have holders : ∀ id, holders (runs ++ [⟨key, .looking⟩]) id = holders runs id := by
    simp [Cache.holders, Stage.held?]
  refine ⟨⟨h.toNumbered, ?_, ?_, ?_, h.single⟩, h.needed⟩
  · simpa only [joiners] using h.waiting
  · simpa only [holders] using h.held
  · intro run member id joined
    rcases List.mem_append.mp member with old | new
    · exact h.known run old id joined
    · rw [List.mem_singleton.mp new] at joined
      cases joined

/-- After every run of a pool, clears and failures included, the locks agree with the calls. -/
theorem Pool.run_locked [DecidableEq κ] {p : Pool κ ε α} {actions : List (Pool.Action κ ε α)}
    (reached : Pool.start.run actions = some p)
    : Locked p.cache p.runs := by
  refine Pool.run_induction (fun _ q => Locked q.cache q.runs) reached ?_ ?_
  · constructor
    · refine ⟨Numbered.empty, ?_, ?_, ?_, ?_⟩ <;> simp [Pool.start, empty]
    · simp [Pool.start, empty]
  · intro _ q action _ next _ _ locked acts
    cases acts with
    | call key => exact locked.call key
    | advance found moves => exact locked.moves found moves
    | finish made found =>
        exact locked.quiet found rfl rfl (Stage.joined?_made _ made) (Stage.held?_made _ made)
    | clear => exact locked.clear

end CloudBuckets.Cache
