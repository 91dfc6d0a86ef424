import CloudBuckets.Proofs.Cache.Progress
import CloudBuckets.Proofs.Cache.Registration
import CloudBuckets.Proofs.Cache.SharedBuild

/-! Caches that are cleared while values are being made. Calls that start after a clear agree on the
value of a key, unless a call that had registered before it caches its own value late. Such a value
takes the place of a newer one that has already been returned.
-/

namespace CloudBuckets.Cache

variable {κ ε α : Type}

/-- A call that is on no lock has still to register, or has ended. -/
theorem Stage.cases_of_unjoined {stage : Stage ε α} (unjoined : stage.joined? = none)
    : (stage = .looking ∨ stage = .registering) ∨ ∃ result, stage = .done result := by
  cases stage <;> simp_all [joined?]

variable [DecidableEq κ]

namespace Pool

-----------------------------------------------------------------------------------------
-- Calls from before and after some moment
-----------------------------------------------------------------------------------------

/-- A call for a key is registered on a lock. -/
def Joined (p : Pool κ ε α) (key : κ) (call : Nat) : Prop :=
  ∃ stage id, p.runs[call]? = some ⟨key, stage⟩ ∧ stage.joined? = some id

/-- A call is going to register after this moment, if it does at all. -/
def Later (p : Pool κ ε α) (call : Nat) : Prop :=
  ∀ run, p.runs[call]? = some run → run.stage = .looking ∨ run.stage = .registering

/-- By an action, a call caches the value that it has made. -/
def isStore (p : Pool κ ε α) (call : Nat) : Action κ ε α → Bool
  | .advance other =>
      other = call
        && match p.runs[call]? with
          | some ⟨_, .storing _ _⟩ => true
          | _ => false
  | _ => false

/-- Somewhere in a run, a call caches the value that it has made. -/
def storesIn (p : Pool κ ε α) (call : Nat) : List (Action κ ε α) → Bool
  | [] => false
  | action :: rest =>
      p.isStore call action
        || match p.act action with
          | some next => next.storesIn call rest
          | none => false

/-- Calls for a key that have started and returned between two moments have returned one value. -/
def Agree (q p : Pool κ ε α) (key : κ) : Prop :=
  ∀ (i j : Nat) (v w : α),
    q.runs.length ≤ i
    → q.runs.length ≤ j
    → p.runs[i]? = some ⟨key, .done (.ok v)⟩
    → p.runs[j]? = some ⟨key, .done (.ok w)⟩
    → v = w

-----------------------------------------------------------------------------------------
-- The invariant of agreement
-----------------------------------------------------------------------------------------

/-- The calls for a key that have registered since a moment `q` fit together in a later one. -/
structure Agreeing (q : Pool κ ε α) (key : κ) (p : Pool κ ε α) : Prop where
  listed
    : ∀ {call : Nat} {stage : Stage ε α} {id : Nat},
        q.Later call
        → p.runs[call]? = some ⟨key, stage⟩
        → stage.joined? = some id
        → ∀ lock ∈ p.cache.locks, lock.id = id → lock.listed = true
  /-- None of them builds what is cached. -/
  absent
    : ∀ {call : Nat} {stage : Stage ε α},
        q.Later call
        → p.runs[call]? = some ⟨key, stage⟩
        → stage.isBuilding
        → p.cache.find? key = none
  /-- What one of them is going to return is cached. -/
  found
    : ∀ {call : Nat} {stage : Stage ε α} {value : α},
        q.Later call
        → p.runs[call]? = some ⟨key, stage⟩
        → stage.result? = some (.ok value)
        → p.cache.find? key = some value

/-- At first, none of them has registered yet. -/
theorem Agreeing.refl (q : Pool κ ε α) (key : κ) : Agreeing q key q := by
  constructor
  · intro call stage id later found joined
    rcases later _ found with rfl | rfl <;> cases joined
  · intro call stage later found building
    rcases later _ found with rfl | rfl <;> cases building
  · intro call stage value later found result
    rcases later _ found with rfl | rfl <;> cases result

/-- A call that moves on keeps the agreement if its new stage fits, and if neither what is found for
the key nor the listing of locks changes.
-/
theorem Agreeing.advance {q p : Pool κ ε α} {key : κ} (h : Agreeing q key p) {call : Nat}
    (run : Run κ ε α) {stage : Stage ε α} {cache : Cache κ α}
    (locks
      : ∀ lock ∈ cache.locks,
          lock.listed = true ∨ ∃ old ∈ p.cache.locks, old.Same lock)
    (finds : cache.find? key = p.cache.find? key)
    (listed
      : q.Later call
        → run.key = key
        → ∀ id,
            stage.joined? = some id
            → ∀ lock ∈ cache.locks, lock.id = id → lock.listed = true)
    (absent : q.Later call → run.key = key → stage.isBuilding → p.cache.find? key = none)
    (returns
      : q.Later call
        → run.key = key
        → ∀ value, stage.result? = some (.ok value) → p.cache.find? key = some value)
    : Agreeing q key ⟨cache, p.runs.set call { run with stage }⟩ := by
  constructor
  · intro other after id later atOther joined lock member same
    rcases Runs.set_cases atOther with ⟨rfl, moved⟩ | ⟨_, old⟩
    · cases moved
      exact listed later rfl id joined lock member same
    · rcases locks lock member with isListed | ⟨first, inside, kept⟩
      · exact isListed
      · exact kept.listed.symm.trans
          (h.listed later old joined first inside (kept.id.trans same))
  · intro other after later atOther building
    rw [finds]
    rcases Runs.set_cases atOther with ⟨rfl, moved⟩ | ⟨_, old⟩
    · cases moved
      exact absent later rfl building
    · exact h.absent later old building
  · intro other after value later atOther result
    rw [finds]
    rcases Runs.set_cases atOther with ⟨rfl, moved⟩ | ⟨_, old⟩
    · cases moved
      exact returns later rfl value result
    · exact h.found later old result

/-- A move of a call that does not cache a value keeps the agreement, by cases on the move. -/
theorem Agreeing.moves {q p : Pool κ ε α} {key : κ} (h : Agreeing q key p)
    (locked : Locked p.cache p.runs) {call : Nat} {run : Run κ ε α} {stage : Stage ε α}
    {cache : Cache κ α} (found : p.runs[call]? = some run)
    (moves : Moves run.key run.stage p.cache stage cache)
    (storesNot : ∀ lock value, run.stage ≠ .storing lock value)
    : Agreeing q key ⟨cache, p.runs.set call { run with stage }⟩ := by
  obtain ⟨own, before⟩ := run
  refine h.advance ⟨own, before⟩ ?_ (moves.find?_eq storesNot key) ?_ ?_ ?_
  · intro lock member
    by_cases registers : before = .registering
    · subst registers
      cases moves
      exact (register_same member).symm
    · exact .inr (moves.lock_same registers member)
  · rintro later rfl id joined lock member rfl
    by_cases registers : before = .registering
    · subst registers
      cases moves
      exact locked.register_listed member (Option.some.inj joined).symm
    · obtain ⟨old, inside, kept⟩ := moves.lock_same registers member
      have joinedBefore := moves.joined?_of_joined? registers joined
      exact kept.listed.symm.trans (h.listed later found joinedBefore old inside kept.id)
  · rintro later rfl building
    cases moves with
    | remiss absent => exact absent
    | start => exact h.absent later found rfl
    | find | miss | register | acquire | refind | store | release | leave => cases building
  · rintro later rfl value result
    cases moves with
    | find cached | refind cached =>
        cases result
        exact cached
    | store => exact absurd rfl (storesNot _ _)
    | release | leave => exact h.found later found result
    | miss | register | acquire | remiss | start => cases result

/-- A call that has registered since the moment may cache its value. No other such call builds then,
since both would hold the lock that is listed for the key.
-/
theorem Agreeing.store {q p : Pool κ ε α} {key : κ} (h : Agreeing q key p)
    (locked : Locked p.cache p.runs) {call lock : Nat} {value : α} (later : q.Later call)
    (found : p.runs[call]? = some ⟨key, .storing lock value⟩)
    : Agreeing q key
        ⟨p.cache.store key value, p.runs.set call ⟨key, .releasing lock (.ok value)⟩⟩ := by
  have absent : p.cache.find? key = none := h.absent later found rfl
  constructor
  · intro other stage id otherLater atOther joined
    rcases Runs.set_cases atOther with ⟨rfl, moved⟩ | ⟨_, old⟩
    · cases moved
      exact h.listed later found joined
    · exact h.listed otherLater old joined
  · intro other stage otherLater atOther building
    rcases Runs.set_cases atOther with ⟨_, moved⟩ | ⟨apart, old⟩
    · cases moved
      cases building
    · obtain ⟨held, holds⟩ := Stage.held?_of_isBuilding building
      refine absurd (locked.holder_unique_of_listed old found rfl holds rfl ?_) apart
      rintro this member (rfl | rfl)
      · exact h.listed otherLater old (Stage.joined?_of_held? holds) this member rfl
      · exact h.listed later found rfl this member rfl
  · intro other stage returned otherLater atOther result
    rcases Runs.set_cases atOther with ⟨_, moved⟩ | ⟨_, old⟩
    · cases moved
      cases result
      exact find?_store_self _ _ _
    · rw [h.found otherLater old result] at absent
      cases absent

/-- To cache a value for another key keeps the agreement. -/
theorem Agreeing.store_other {q p : Pool κ ε α} {key : κ} (h : Agreeing q key p)
    {call lock : Nat} {other : κ} {value : α} (apart : other ≠ key)
    : Agreeing q key
        ⟨p.cache.store other value, p.runs.set call ⟨other, .releasing lock (.ok value)⟩⟩ := by
  refine h.advance ⟨other, .storing lock value⟩ ?_ ?_ ?_ ?_ ?_
  · exact fun lock member => .inr ⟨lock, member, rfl, rfl, rfl⟩
  · exact find?_store_of_ne _ _ apart.symm
  · exact fun _ same => absurd same apart
  · exact fun _ same => absurd same apart
  · exact fun _ same => absurd same apart

/-- A call that is started has not registered yet. -/
theorem Agreeing.call {q p : Pool κ ε α} {key : κ} (h : Agreeing q key p) (other : κ)
    : Agreeing q key { p with runs := p.runs ++ [⟨other, .looking⟩] } := by
  constructor
  · intro call stage id later found joined
    rcases started_cases found with old | new
    · exact h.listed later old joined
    · cases new
      cases joined
  · intro call stage later found building
    rcases started_cases found with old | new
    · exact h.absent later old building
    · cases new
      cases building
  · intro call stage value later found result
    rcases started_cases found with old | new
    · exact h.found later old result
    · cases new
      cases result

/-- A call that caches its value has registered since the moment, if it does not do so late. -/
theorem later_of_storing {q p : Pool κ ε α} {sofar : List (Action κ ε α)}
    (reached : q.run sofar = some p) {call lock : Nat} {key : κ} {value : α}
    (found : p.runs[call]? = some ⟨key, .storing lock value⟩)
    (prompt : q.Joined key call → p.isStore call (.advance call) = false)
    : q.Later call := by
  intro run atQ
  have unjoined : run.stage.joined? = none := by
    by_contra joined
    obtain ⟨id, joins⟩ := Option.ne_none_iff_exists'.mp joined
    have known : q.key? call = some run.key := by simp [key?, atQ]
    have sameKey : run.key = key := by
      simpa [key?, found] using (run_keeps_key? reached known).symm
    have late := prompt ⟨run.stage, id, by rw [atQ, ← sameKey], joins⟩
    simp [isStore, found] at late
  refine (Stage.cases_of_unjoined unjoined).resolve_right fun ended => ?_
  obtain rfl := Option.some.inj (found.symm.trans (run_keeps_ended reached atQ ended))
  obtain ⟨result, last⟩ := ended
  cases last

/-- Every action but a clear keeps the agreement, if no call that was registered at the moment caches
a value for the key with it.
-/
theorem Agreeing.acts {q p next : Pool κ ε α} {key : κ} (h : Agreeing q key p)
    (locked : Locked p.cache p.runs) {sofar : List (Action κ ε α)} (reached : q.run sofar = some p)
    {action : Action κ ε α} (acts : p.Acts action next) (unclear : action ≠ .clear)
    (prompt : ∀ call, q.Joined key call → p.isStore call action = false)
    : Agreeing q key next := by
  cases acts with
  | call other => exact h.call other
  | @advance call run stage cache found moves =>
      by_cases stores : ∃ lock value, run.stage = .storing lock value
      · obtain ⟨lock, value, storing⟩ := stores
        obtain ⟨own, before⟩ := run
        obtain rfl : before = .storing lock value := storing
        cases moves
        by_cases same : own = key
        · subst same
          exact h.store locked (later_of_storing reached found (prompt call)) found
        · exact h.store_other same
      · exact h.moves locked found moves fun lock value same => stores ⟨lock, value, same⟩
  | @finish call own lock made found =>
      refine h.advance ⟨own, .making lock⟩ ?_ rfl ?_ ?_ ?_
      · exact fun lock member => .inr ⟨lock, member, rfl, rfl, rfl⟩
      · rintro later rfl id joined
        exact h.listed later found ((Stage.joined?_made lock made).symm.trans joined)
      · rintro later rfl building
        exact h.absent later found rfl
      · rintro later rfl value result
        cases made <;> cases result
  | clear => exact absurd rfl unclear

/-- A run without a clear keeps the agreement, by induction on what is left of it. -/
theorem Agreeing.run {q r p : Pool κ ε α} {key : κ} (h : Agreeing q key r)
    {before sofar rest : List (Action κ ε α)} (start : start.run before = some q)
    (reached : q.run sofar = some r) (goesOn : r.run rest = some p) (unclear : .clear ∉ rest)
    (prompt : ∀ call, q.Joined key call → r.storesIn call rest = false)
    : Agreeing q key p := by
  induction rest generalizing r sofar with
  | nil =>
      cases goesOn
      exact h
  | cons action rest ih =>
      obtain ⟨next, acted, goesOn⟩ := Option.bind_eq_some_iff.mp goesOn
      have both : ∀ call,
          q.Joined key call
          → r.isStore call action = false ∧ next.storesIn call rest = false := by
        intro call joined
        simpa [storesIn, acted] using prompt call joined
      have locked : Locked r.cache r.runs :=
        run_locked ((run_append before sofar).mpr ⟨q, start, reached⟩)
      have kept : action ≠ .clear := fun same => unclear (same ▸ List.mem_cons_self)
      have reachedNext : q.run (sofar ++ [action]) = some next :=
        (run_append sofar [action]).mpr ⟨r, reached, by simp [Pool.run, acted]⟩
      exact ih (h.acts locked reached (act_acts acted) kept fun call joined => (both call joined).1)
        reachedNext goesOn (fun member => unclear (List.mem_cons_of_mem _ member))
        fun call joined => (both call joined).2

-----------------------------------------------------------------------------------------
-- Stretches of a run without a clear
-----------------------------------------------------------------------------------------

/-- Calls for a key that start and return in a stretch without a clear return one value, unless a
call that was registered when the stretch began caches its own within it. Where the stretch begins
with the last clear, these are the calls whose locks that one has dropped.
-/
theorem run_agree {q p : Pool κ ε α} {before stretch : List (Action κ ε α)} {key : κ}
    (reached : start.run before = some q) (goesOn : q.run stretch = some p)
    (unclear : .clear ∉ stretch)
    (prompt : ∀ call, q.Joined key call → q.storesIn call stretch = false)
    : Agree q p key := by
  have still : q.run [] = some q := rfl
  have agreeing : Agreeing q key p :=
    (Agreeing.refl q key).run reached still goesOn unclear prompt
  have later : ∀ {call : Nat}, q.runs.length ≤ call → q.Later call := by
    intro call started run found
    simp [List.getElem?_eq_none started] at found
  intro i j v w startI startJ atI atJ
  have foundV := agreeing.found (later startI) atI rfl
  have foundW := agreeing.found (later startJ) atJ rfl
  exact Option.some.inj (foundV.symm.trans foundW)

/-- A call starts to make a value, and the cache is cleared. -/
def interrupted : List (Action Nat String Nat) :=
  [.call 7] ++ [0, 0, 0, 0, 0].map .advance ++ [.clear]

/-- After that, another call makes a value for the key and returns it, the first making ends in some
way, and a third call looks the key up.
-/
def overtaken (made : Except String Nat) : List (Action Nat String Nat) :=
  [.call 7] ++ [1, 1, 1, 1, 1].map .advance
    ++ [.finish 1 (.ok 20), .advance 1, .advance 1, .advance 1]
    ++ [.finish 0 made, .advance 0]
    ++ [.call 7, .advance 2]

/-- The calls agree where the first making has failed. -/
theorem overtaken_agree
    : ∃ q p,
        start.run interrupted = some q
        ∧ q.run (overtaken (.error "unreachable")) = some p
        ∧ p.runs
          = [
            ⟨7, .leaving 0 (.error "unreachable")⟩,
            ⟨7, .done (.ok 20)⟩,
            ⟨7, .done (.ok 20)⟩
          ]
        ∧ Agree q p 7 := by
  obtain ⟨q, reached⟩ : ∃ q, start.run interrupted = some q := ⟨_, rfl⟩
  obtain ⟨p, goesOn⟩ : ∃ p, q.run (overtaken (.error "unreachable")) = some p := by
    cases reached
    exact ⟨_, rfl⟩
  have unclear : .clear ∉ overtaken (.error "unreachable") := by simp [overtaken]
  have prompt : ∀ call,
      q.Joined 7 call → q.storesIn call (overtaken (.error "unreachable")) = false := by
    cases reached
    rintro call ⟨stage, id, found, _⟩
    match call with
    | 0 => rfl
    | call + 1 => cases found
  have agree : Agree q p 7 := run_agree reached goesOn unclear prompt
  cases reached
  cases goesOn
  exact ⟨_, _, rfl, rfl, rfl, agree⟩

/-- They do not where it has made a value, which takes the place of the newer one: of two calls that
start and return after the clear, the one returns the newer value and the other the older.
-/
theorem overtaken_disagree
    : ∃ q p,
        start.run interrupted = some q
        ∧ q.run (overtaken (.ok 10)) = some p
        ∧ .clear ∉ overtaken (.ok 10)
        ∧ p.runs
          = [⟨7, .releasing 0 (.ok 10)⟩, ⟨7, .done (.ok 20)⟩, ⟨7, .done (.ok 10)⟩]
        ∧ ¬ Agree q p 7 := by
  refine ⟨_, _, rfl, rfl, by simp [overtaken], rfl, fun agree => ?_⟩
  have same : (20 : Nat) = 10 := agree 1 2 20 10 (by decide) (by decide) rfl rfl
  cases same

end Pool

end CloudBuckets.Cache
