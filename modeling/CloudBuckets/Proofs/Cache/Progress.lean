import CloudBuckets.Proofs.Cache.Waiting

/-! Calls never wait for each other in a circle. Whatever has happened, a call that has to wait waits
for one for its own key that can go on, so that the calls for a key come to their ends whatever
becomes of the others.
-/

namespace CloudBuckets.Cache

variable {κ ε α : Type}

-----------------------------------------------------------------------------------------
-- Calls that can take a step
-----------------------------------------------------------------------------------------

/-- A call is at its end. -/
def Run.Ended (run : Run κ ε α) : Prop :=
  ∃ result, run.stage = .done result

/-- Only the first stage is as far from the end as it is. -/
theorem Stage.eq_looking_of_rank {stage : Stage ε α}
    (first : (Stage.looking : Stage ε α).rank ≤ stage.rank)
    : stage = .looking := by
  cases stage <;> simp_all [Stage.rank]

variable [DecidableEq κ]

namespace Pool

/-- A call can take a step: it can go on, or its value is being made, and that can end in every way.
-/
inductive Ready (p : Pool κ ε α) (call : Nat) : Prop
  | advance {next : Pool κ ε α} (acted : p.act (.advance call) = some next)
  | finish {key : κ} {lock : Nat} (making : p.runs[call]? = some ⟨key, .making lock⟩)
    (ends : ∀ made, (p.act (.finish call made)).isSome)

/-- A call whose stage has a step can take it. -/
theorem act_advance {p : Pool κ ε α} {call : Nat} {run : Run κ ε α} {stage : Stage ε α}
    {cache : Cache κ α} (found : p.runs[call]? = some run)
    (steps : run.stage.step run.key p.cache = some (stage, cache))
    : p.act (.advance call) = some ⟨cache, p.runs.set call { run with stage }⟩ := by
  simp [act, found, steps]

theorem act_finish {p : Pool κ ε α} {call lock : Nat} {key : κ}
    (found : p.runs[call]? = some ⟨key, .making lock⟩) (made : Except ε α)
    : p.act (.finish call made)
      = some { p with runs := p.runs.set call ⟨key, .made lock made⟩ } := by
  simp [act, found]

/-- A call has ended, can take a step, or waits for a lock. -/
theorem ready_cases {p : Pool κ ε α} {call : Nat} {run : Run κ ε α}
    (found : p.runs[call]? = some run)
    : run.Ended
      ∨ p.Ready call
      ∨ ∃ lock, run.stage = .acquiring lock ∧ p.cache.acquire? lock = none := by
  cases stepped : run.stage.step run.key p.cache with
  | some result => exact .inr (.inl (.advance (act_advance found stepped)))
  | none =>
      rcases Access.step_eq_none stepped with ⟨lock, making⟩ | ended | waits
      · obtain ⟨key, stage⟩ := run
        obtain rfl : stage = .making lock := making
        exact .inr (.inl (.finish found fun made => by simp [act_finish found made]))
      · exact .inl ended
      · exact .inr (.inr waits)

/-- Whoever holds a lock can take a step. -/
theorem ready_of_held {p : Pool κ ε α} {call lock : Nat} {run : Run κ ε α}
    (found : p.runs[call]? = some run) (held : run.stage.held? = some lock)
    : p.Ready call := by
  rcases ready_cases found with ⟨result, ended⟩ | ready | ⟨waited, waits, _⟩
  · simp [ended, Stage.held?] at held
  · exact ready
  · simp [waits, Stage.held?] at held

end Pool

-----------------------------------------------------------------------------------------
-- Who is waited for
-----------------------------------------------------------------------------------------

/-- Calls on one lock are for one key. -/
theorem Counted.key_eq {κ : Type} {cache : Cache κ α} {runs : List (Run κ ε α)}
    (h : Counted cache runs) {a b : Run κ ε α} (ha : a ∈ runs) (hb : b ∈ runs) {lock : Nat}
    (joinedA : a.stage.joined? = some lock) (joinedB : b.stage.joined? = some lock)
    : a.key = b.key := by
  obtain ⟨first, insideA, idA, keyA⟩ := h.known a ha lock joinedA
  obtain ⟨second, insideB, idB, keyB⟩ := h.known b hb lock joinedB
  obtain rfl := h.eq_of_id insideA insideB (idA.trans idB.symm)
  exact keyA.symm.trans keyB

/-- A lock that a call cannot take is held by a call. -/
theorem Counted.holder {κ : Type} {cache : Cache κ α} {runs : List (Run κ ε α)}
    (h : Counted cache runs) {run : Run κ ε α} (member : run ∈ runs) {lock : Nat}
    (waits : run.stage = .acquiring lock) (taken : cache.acquire? lock = none)
    : ∃ holder ∈ runs, holder.stage.held? = some lock := by
  obtain ⟨found, inside, rfl, _⟩ := h.known run member lock (by rw [waits]; rfl)
  have held : found.held = true := by
    by_contra free
    have isSome := h.acquire?_isSome inside (by simpa using free)
    simp [taken] at isSome
  have one : holders runs found.id = 1 := by simpa [held] using h.held found inside
  have positive : 0 < holders runs found.id := by omega
  obtain ⟨holder, isRun, holds⟩ := List.countP_pos_iff.mp positive
  exact ⟨holder, isRun, by simpa using holds⟩

namespace Pool

/-- A call that cannot take a step waits for a lock, which is held by a call that can. -/
theorem waits_for_ready {p : Pool κ ε α} (locked : Locked p.cache p.runs) {call : Nat}
    {run : Run κ ε α} (found : p.runs[call]? = some run) (unfinished : ¬ run.Ended)
    (stuck : ¬ p.Ready call)
    : ∃ lock,
        run.stage = .acquiring lock
        ∧ ∃ holder other,
            p.runs[holder]? = some other
            ∧ other.stage.held? = some lock
            ∧ p.Ready holder := by
  rcases ready_cases found with ended | ready | ⟨lock, waits, taken⟩
  · exact absurd ended unfinished
  · exact absurd ready stuck
  · obtain ⟨other, member, held⟩ := locked.holder (List.mem_of_getElem? found) waits taken
    obtain ⟨holder, atHolder⟩ := List.getElem?_of_mem member
    exact ⟨lock, waits, holder, other, atHolder, held, ready_of_held atHolder held⟩

/-- While a call for a key has not ended, one for the key can take a step. -/
theorem ready_of_unfinished {p : Pool κ ε α} (locked : Locked p.cache p.runs) {run : Run κ ε α}
    (member : run ∈ p.runs) (unfinished : ¬ run.Ended)
    : ∃ call other,
        p.runs[call]? = some other ∧ other.key = run.key ∧ ¬ other.Ended ∧ p.Ready call := by
  obtain ⟨call, found⟩ := List.getElem?_of_mem member
  by_cases ready : p.Ready call
  · exact ⟨call, run, found, rfl, unfinished, ready⟩
  · obtain ⟨lock, waits, holder, other, atHolder, held, able⟩ :=
      waits_for_ready locked found unfinished ready
    have sameKey := locked.key_eq (List.mem_of_getElem? atHolder) member
      (Stage.joined?_of_held? held) (by rw [waits]; rfl)
    refine ⟨holder, other, atHolder, sameKey, ?_, able⟩
    rintro ⟨result, ended⟩
    simp [ended, Stage.held?] at held

-----------------------------------------------------------------------------------------
-- Calls that go on without the others
-----------------------------------------------------------------------------------------

/-- Steps of calls for a key, where `ends` says how each making of a value ends. -/
inductive StepOf (p : Pool κ ε α) (key : κ) (ends : Nat → Except ε α) : Action κ ε α → Prop
  | advance {call : Nat} (known : p.key? call = some key) : StepOf p key ends (.advance call)
  | finish {call : Nat} (known : p.key? call = some key)
    : StepOf p key ends (.finish call (ends call))

/-- How many steps the calls for a key take to their ends, at most. -/
def remaining (key : κ) (runs : List (Run κ ε α)) : Nat :=
  runs.foldr (fun run steps => (if run.key = key then run.stage.rank else 0) + steps) 0

/-- A call that comes nearer to its end leaves fewer steps for its key, by induction on the calls. -/
theorem remaining_set_lt {key : κ} {runs : List (Run κ ε α)} {call : Nat} {run : Run κ ε α}
    {stage : Stage ε α} (found : runs[call]? = some run) (same : run.key = key)
    (nearer : stage.rank < run.stage.rank)
    : remaining key (runs.set call { run with stage }) < remaining key runs := by
  induction runs generalizing call with
  | nil => simp at found
  | cons head rest ih =>
      cases call with
      | zero =>
          obtain rfl : head = run := by simpa using found
          simpa [remaining, same] using nearer
      | succ call => simpa [remaining] using ih (by simpa using found)

/-- A call that can take a step takes one, which brings it nearer to its end and moves no other. -/
theorem Ready.step {p : Pool κ ε α} {call : Nat} (ready : p.Ready call) {run : Run κ ε α}
    (found : p.runs[call]? = some run) (ends : Nat → Except ε α)
    : ∃ action next stage,
        p.StepOf run.key ends action
        ∧ p.act action = some next
        ∧ next.runs = p.runs.set call { run with stage }
        ∧ stage.rank < run.stage.rank := by
  have known : p.key? call = some run.key := by simp [key?, found]
  cases ready with
  | @advance next acted =>
      cases act_acts acted with
      | advance atCall moves =>
          obtain rfl := Option.some.inj (found.symm.trans atCall)
          exact ⟨_, _, _, .advance known, acted, rfl, moves.rank_lt⟩
  | @finish key lock making _ =>
      obtain rfl := Option.some.inj (found.symm.trans making)
      exact ⟨_, _, _, .finish known, act_finish making (ends call), rfl,
        Stage.rank_made_lt lock (ends call)⟩

/-- A call that moves on is for the key that it was for. -/
theorem key?_set {κ : Type} {p next : Pool κ ε α} {call : Nat} {run : Run κ ε α} {stage : Stage ε α}
    (found : p.runs[call]? = some run) (moved : next.runs = p.runs.set call { run with stage })
    (other : Nat)
    : next.key? other = p.key? other := by
  by_cases here : other = call
  · subst here
    simp [key?, moved, set_self found, found]
  · simp [key?, moved, List.getElem?_set_ne (Ne.symm here)]

/-- The calls for a key come to their ends by steps of their own, however the makings of values
end. The induction is on the steps that remain for them.
-/
theorem run_to_ends {p : Pool κ ε α} {before : List (Action κ ε α)}
    (reached : start.run before = some p) (key : κ) (ends : Nat → Except ε α)
    : ∃ steps last,
        p.run steps = some last
        ∧ (∀ action ∈ steps, p.StepOf key ends action)
        ∧ ∀ run ∈ last.runs, run.key = key → run.Ended := by
  induction left : remaining key p.runs using Nat.strongRecOn generalizing p before with
  | ind left ih =>
      subst left
      by_cases finished : ∀ run ∈ p.runs, run.key = key → run.Ended
      · exact ⟨[], p, rfl, by simp, finished⟩
      · push Not at finished
        obtain ⟨late, member, rfl, unfinished⟩ := finished
        obtain ⟨call, run, found, same, _, ready⟩ :=
          ready_of_unfinished (run_locked reached) member unfinished
        obtain ⟨action, next, stage, stepOf, acted, moved, nearer⟩ := ready.step found ends
        have fewer : remaining late.key next.runs < remaining late.key p.runs := by
          rw [moved]
          exact remaining_set_lt found same nearer
        have reachedNext : start.run (before ++ [action]) = some next :=
          (run_append before [action]).mpr ⟨p, reached, by simp [Pool.run, acted]⟩
        obtain ⟨steps, last, ran, allOf, ended⟩ := ih _ fewer reachedNext rfl
        refine ⟨action :: steps, last, by simp [Pool.run, acted, ran], ?_, ended⟩
        intro other inside
        rcases List.mem_cons.mp inside with rfl | later
        · exact same ▸ stepOf
        · cases allOf other later with
          | advance known => exact .advance ((key?_set found moved _).symm.trans known)
          | finish known => exact .finish ((key?_set found moved _).symm.trans known)

-----------------------------------------------------------------------------------------
-- Calls that find their key at once
-----------------------------------------------------------------------------------------

/-- A call stays where it is, or comes nearer to its end. -/
theorem Acts.nearer {p next : Pool κ ε α} {action : Action κ ε α} (acts : p.Acts action next)
    {call : Nat} {run : Run κ ε α} (found : p.runs[call]? = some run)
    : next.runs[call]? = some run
      ∨ ∃ stage, next.runs[call]? = some { run with stage } ∧ stage.rank < run.stage.rank := by
  have moved : ∀ {other : Nat} {old : Run κ ε α} {after : Stage ε α},
      p.runs[other]? = some old
      → after.rank < old.stage.rank
      → (p.runs.set other { old with stage := after })[call]? = some run
        ∨ ∃ stage,
            (p.runs.set other { old with stage := after })[call]? = some { run with stage }
            ∧ stage.rank < run.stage.rank := by
    intro other old after atOther nearer
    by_cases here : other = call
    · subst here
      obtain rfl := Option.some.inj (found.symm.trans atOther)
      exact .inr ⟨after, set_self found _, nearer⟩
    · exact .inl ((List.getElem?_set_ne here).trans found)
  cases acts with
  | call key =>
      exact .inl ((List.getElem?_append_left (List.getElem?_eq_some_iff.mp found).1).trans found)
  | advance atOther moves => exact moved atOther moves.rank_lt
  | finish made atOther => exact moved atOther (Stage.rank_made_lt _ made)
  | clear => exact .inl found

/-- A call is never farther from its end than it was. -/
theorem run_rank_le {q p : Pool κ ε α} {actions : List (Action κ ε α)}
    (reached : q.run actions = some p) {call : Nat} {run : Run κ ε α}
    (found : q.runs[call]? = some run)
    : ∃ later, p.runs[call]? = some later ∧ later.stage.rank ≤ run.stage.rank := by
  refine run_induction
    (fun _ now => ∃ later, now.runs[call]? = some later ∧ later.stage.rank ≤ run.stage.rank)
    reached ⟨run, found, Nat.le_refl _⟩ ?_
  intro _ now action _ next _ _ ⟨later, atNow, near⟩ acts
  rcases acts.nearer atNow with stays | ⟨stage, goes, nearer⟩
  · exact ⟨later, stays, near⟩
  · exact ⟨_, goes, Nat.le_of_lt (Nat.lt_of_lt_of_le nearer near)⟩

/-- A call that has ended stays as it is. -/
theorem run_keeps_ended {q p : Pool κ ε α} {actions : List (Action κ ε α)}
    (reached : q.run actions = some p) {call : Nat} {run : Run κ ε α}
    (found : q.runs[call]? = some run) (ended : run.Ended)
    : p.runs[call]? = some run := by
  refine run_induction (fun _ now => now.runs[call]? = some run) reached found ?_
  intro _ now action _ next _ _ atNow acts
  rcases acts.nearer atNow with stays | ⟨stage, _, nearer⟩
  · exact stays
  · obtain ⟨result, last⟩ := ended
    rw [last] at nearer
    exact absurd nearer (Nat.not_lt_zero _)

/-- A call that finds its key at its first lookup returns what it has found. -/
theorem act_find {q : Pool κ ε α} {call : Nat} {key : κ} {value : α}
    (looking : q.runs[call]? = some ⟨key, .looking⟩) (found : q.cache.find? key = some value)
    : q.act (.advance call)
      = some { q with runs := q.runs.set call ⟨key, .done (.ok value)⟩ } :=
  act_advance looking (by simp [Stage.step, found])

/-- Such a call is registered on no lock at any moment: before its first lookup it has not done
anything, and with it, it ends.
-/
theorem unlocked_of_find {before after earlier later : List (Action κ ε α)} {q r : Pool κ ε α}
    {call : Nat} {key : κ} {value : α} {run : Run κ ε α} (reached : start.run before = some q)
    (looking : q.runs[call]? = some ⟨key, .looking⟩) (found : q.cache.find? key = some value)
    (split : before ++ .advance call :: after = earlier ++ later)
    (reachedR : start.run earlier = some r) (atR : r.runs[call]? = some run)
    : run.stage.joined? = none := by
  have first : ∀ {rest : List (Action κ ε α)},
      before = earlier ++ rest → run.stage.joined? = none := by
    intro rest same
    subst same
    obtain ⟨middle, reachedMiddle, goesOn⟩ := (run_append earlier rest).mp reached
    obtain rfl := Option.some.inj (reachedR.symm.trans reachedMiddle)
    obtain ⟨last, atQ, near⟩ := run_rank_le goesOn atR
    obtain rfl := Option.some.inj (looking.symm.trans atQ)
    rw [Stage.eq_looking_of_rank near]
    rfl
  rcases List.append_eq_append_iff.mp split with ⟨rest, rfl, same⟩ | ⟨rest, same, _⟩
  · cases rest with
    | nil =>
        have whole : before = before ++ [] ++ [] := by simp
        exact first whole
    | cons action middle =>
        obtain ⟨rfl, rfl⟩ := List.cons.inj same
        obtain ⟨_, reachedQ, goesOn⟩ := (run_append before _).mp reachedR
        obtain rfl := Option.some.inj (reached.symm.trans reachedQ)
        simp only [Pool.run, act_find looking found, Option.bind_some] at goesOn
        have ended := run_keeps_ended goesOn (set_self looking _) ⟨_, rfl⟩
        obtain rfl := Option.some.inj (ended.symm.trans atR)
        rfl
  · exact first same

-----------------------------------------------------------------------------------------
-- Every state that a pool comes to
-----------------------------------------------------------------------------------------

/-- What keeps calls going, where `actions` is all that has happened and the making of a value may
end at any time.
-/
structure Live (actions : List (Action κ ε α)) (p : Pool κ ε α) : Prop where
  /-- While some call has not ended, one that has not can take a step. -/
  goes
    : (∃ run ∈ p.runs, ¬ run.Ended)
      → ∃ (call : Nat) (run : Run κ ε α), p.runs[call]? = some run ∧ ¬ run.Ended ∧ p.Ready call
  /-- A call that cannot take a step waits for a lock that another call for its key holds, which
  can. No call for another key holds it. -/
  waits
    : ∀ (call : Nat) (run : Run κ ε α),
        p.runs[call]? = some run
        → ¬ run.Ended
        → ¬ p.Ready call
        → ∃ lock,
            run.stage = .acquiring lock
            ∧ (∃ (holder : Nat) (other : Run κ ε α),
                holder ≠ call
                ∧ p.runs[holder]? = some other
                ∧ other.stage.held? = some lock
                ∧ p.Ready holder)
            ∧ ∀ other ∈ p.runs, other.stage.held? = some lock → other.key = run.key
  /-- The calls for a key can all come to their ends while no call for another key moves. -/
  apart
    : ∀ (key : κ) (ends : Nat → Except ε α),
        ∃ steps last,
          p.run steps = some last
          ∧ (∀ action ∈ steps, p.StepOf key ends action)
          ∧ ∀ run ∈ last.runs, run.key = key → run.Ended
  /-- A call that finds its key at its first lookup returns what it has found. It leaves the cache
  with its locks as it is, and is registered on none at any moment. -/
  unlocked
    : ∀ (before after : List (Action κ ε α)) (q : Pool κ ε α) (call : Nat) (key : κ) (value : α),
        actions = before ++ .advance call :: after
        → start.run before = some q
        → q.runs[call]? = some ⟨key, .looking⟩
        → q.cache.find? key = some value
        → p.runs[call]? = some ⟨key, .done (.ok value)⟩
          ∧ (q.act (.advance call)).map (·.cache) = some q.cache
          ∧ ∀ (earlier later : List (Action κ ε α)) (r : Pool κ ε α) (run : Run κ ε α),
              actions = earlier ++ later
              → start.run earlier = some r
              → r.runs[call]? = some run
              → run.stage.joined? = none

/-- In every state that a pool comes to, calls never wait for each other in a circle, nor for calls
for other keys, and a call that finds its key at once waits for nobody.
-/
theorem run_live {p : Pool κ ε α} {actions : List (Action κ ε α)}
    (reached : start.run actions = some p)
    : Live actions p := by
  have locked : Locked p.cache p.runs := run_locked reached
  constructor
  · intro ⟨run, member, unfinished⟩
    obtain ⟨call, other, found, _, late, ready⟩ := ready_of_unfinished locked member unfinished
    exact ⟨call, other, found, late, ready⟩
  · intro call run found unfinished stuck
    obtain ⟨lock, waits, holder, other, atHolder, held, ready⟩ :=
      waits_for_ready locked found unfinished stuck
    refine ⟨lock, waits, ⟨holder, other, ?_, atHolder, held, ready⟩, fun other member holds => ?_⟩
    · rintro rfl
      exact stuck ready
    · exact locked.key_eq member (List.mem_of_getElem? found) (Stage.joined?_of_held? holds)
        (by rw [waits]; rfl)
  · exact run_to_ends reached
  · intro before after q call key value same reachedQ looking found
    subst same
    have acted := act_find looking found
    refine ⟨?_, by rw [acted]; rfl, ?_⟩
    · obtain ⟨_, reachedBefore, goesOn⟩ := (run_append before _).mp reached
      obtain rfl := Option.some.inj (reachedQ.symm.trans reachedBefore)
      simp only [Pool.run, acted, Option.bind_some] at goesOn
      exact run_keeps_ended goesOn (set_self looking _) ⟨_, rfl⟩
    · intro earlier later r run split reachedR atR
      exact unlocked_of_find reachedQ looking found split reachedR atR

/-- A value for one key is being made while another call for it waits, and a call for another key
has come to its end. A fourth call finds that one's value.
-/
def crowded : List (Action Nat String Nat) :=
  [.call 7, .call 7, .call 8]
    ++ [0, 0, 0, 0, 0, 1, 1, 2, 2, 2, 2, 2].map .advance
    ++ [.finish 2 (.ok 30), .advance 2, .advance 2, .advance 2, .call 8, .advance 3]

/-- Only the second call has to wait, for the first one. -/
theorem crowded_live
    : ∃ p,
        start.run crowded = some p
        ∧ p.runs
          = [
            ⟨7, .making 0⟩,
            ⟨7, .acquiring 0⟩,
            ⟨8, .done (.ok 30)⟩,
            ⟨8, .done (.ok 30)⟩
          ]
        ∧ ¬ p.Ready 1
        ∧ Live crowded p := by
  refine ⟨_, rfl, rfl, ?_, run_live rfl⟩
  intro ready
  cases ready with
  | advance acted => cases acted
  | finish making _ => cases making

end Pool

end CloudBuckets.Cache
