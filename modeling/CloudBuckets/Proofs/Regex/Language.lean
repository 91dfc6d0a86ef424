import CloudBuckets.Regex.Matcher
import Mathlib.Computability.Language

/-! The languages of expressions that neither remember groups nor look around. Matching by
backtracking is complete for them: it succeeds just if some text of the language comes next behind
which the rest succeeds.
-/

namespace CloudBuckets.Regex

open Computability

def CharTest.language (test : CharTest) : Language Char :=
  {text | ∃ c, text = [c] ∧ test.accepts c}

theorem CharTest.singleton_mem_language (test : CharTest) (c : Char)
    : [c] ∈ test.language ↔ test.accepts c := by
  constructor
  · rintro ⟨d, same, accepted⟩
    cases same
    exact accepted
  · exact fun accepted => ⟨c, rfl, accepted⟩

/-- Repeated tests of one character are a test of every character. -/
theorem CharTest.language_kstar (test : CharTest)
    : test.language∗ = {text | ∀ c ∈ text, test.accepts c} := by
  ext text
  rw [Language.mem_kstar]
  constructor
  · intro ⟨rounds, same, valid⟩ c member
    obtain ⟨round, member, inRound⟩ := List.mem_flatten.mp (same ▸ member)
    obtain ⟨accepted, rfl, passes⟩ := valid round member
    rwa [List.mem_singleton.mp inRound]
  · intro accepted
    refine ⟨text.map ([·]), ?_, ?_⟩
    · rw [← List.flatMap_def, List.flatMap_singleton']
    · intro round inRounds
      obtain ⟨c, member, rfl⟩ := List.mem_map.mp inRounds
      exact ⟨c, rfl, accepted c member⟩

/-- The language of an expression, if it is made of tests, sequences, alternatives and greedy
repetitions without bounds.
-/
inductive Denotes : Node → Language Char → Prop
  | empty : Denotes .empty 1
  | one (test : CharTest) : Denotes (.one test) test.language
  | seq {first rest : Node} {l m : Language Char} (start : Denotes first l)
    (finish : Denotes rest m)
    : Denotes (.seq first rest) (l * m)
  | alt {first second : Node} {l m : Language Char} (left : Denotes first l)
    (right : Denotes second m)
    : Denotes (.alt first second) (l + m)
  | star {body : Node} {l : Language Char} (round : Denotes body l)
    : Denotes (.repetition .greedy 0 none body) l∗

-----------------------------------------------------------------------------------------
-- Places
-----------------------------------------------------------------------------------------

namespace Place

/-- The place behind a text, where a given text is left. -/
def past (p : Place) (text rest : List Char) : Place :=
  { p with before := text.reverse ++ p.before, rest := rest }

@[simp]
theorem past_rest (p : Place) (text rest : List Char) : (p.past text rest).rest = rest := rfl

theorem past_nil (p : Place) : p.past [] p.rest = p := rfl

theorem past_append (p : Place) (first second rest : List Char)
    : (p.past first (second ++ rest)).past second rest = p.past (first ++ second) rest := by
  simp [past]

theorem past_position (p : Place) (text rest : List Char)
    : (p.past text rest).position = text.length + p.position := by
  simp [past, position]

theorem advance?_eq_some_iff (p q : Place) (accepts : Char → Bool)
    : p.advance? accepts = some q
      ↔ ∃ c rest, p.rest = c :: rest ∧ accepts c ∧ p.past [c] rest = q := by
  cases left : p.rest with
  | nil => simp [advance?, left]
  | cons c rest => simp [advance?, left, past]

end Place

-----------------------------------------------------------------------------------------
-- Strategies
-----------------------------------------------------------------------------------------

namespace Strategy

variable {s t : Strategy} {l m : Language Char}

/-- A strategy succeeds just if a text of a language comes next behind which the rest succeeds. -/
def Finds (s : Strategy) (l : Language Char) : Prop :=
  ∀ (k : Continuation) (p : Place),
    (s k p).isSome
      ↔ ∃ text ∈ l, ∃ rest, p.rest = text ++ rest ∧ (k (p.past text rest)).isSome

theorem Finds.seq (first : s.Finds l) (second : t.Finds m)
    : Finds (fun k => s (t k)) (l * m) := by
  intro k p
  rw [first]
  constructor
  · intro ⟨start, startIn, after, split, found⟩
    obtain ⟨finish, finishIn, rest, rfl, success⟩ := (second k _).mp found
    refine ⟨start ++ finish, Language.append_mem_mul startIn finishIn, rest, ?_, ?_⟩
    · simpa using split
    · simpa [Place.past_append] using success
  · intro ⟨text, textIn, rest, split, success⟩
    obtain ⟨start, startIn, finish, finishIn, rfl⟩ := Language.mem_mul.mp textIn
    refine ⟨start, startIn, finish ++ rest, by simpa using split, ?_⟩
    refine (second k _).mpr ⟨finish, finishIn, rest, rfl, ?_⟩
    simpa [Place.past_append] using success

/-- A strategy that tries one and then the other. -/
theorem Finds.alt (first : s.Finds l) (second : t.Finds m)
    : Finds
        (fun k p => match s k p with
          | some q => some q
          | none => t k p)
        (l + m) := by
  intro k p
  have either
      : (match s k p with
          | some q => some q
          | none => t k p).isSome
        ↔ (s k p).isSome ∨ (t k p).isSome := by
    cases s k p <;> simp
  rw [either, first, second]
  simp only [Language.mem_add, or_and_right, exists_or]

theorem upTo_again (s : Strategy) (k : Continuation) (rounds : Nat) (p : Place)
    : upTo s k rounds (some p.position) p = k p := by
  cases rounds <;> simp [upTo]

theorem mem_kstar_iff_first {l : Language Char} {text : List Char}
    : text ∈ l∗
      ↔ text = [] ∨ ∃ first ∈ l, first ≠ [] ∧ ∃ more ∈ l∗, text = first ++ more := by
  constructor
  · intro repeated
    obtain ⟨rounds, rfl, valid⟩ := Language.mem_kstar_iff_exists_nonempty.mp repeated
    cases rounds with
    | nil => exact Or.inl rfl
    | cons first rounds =>
        obtain ⟨firstIn, taken⟩ := valid first List.mem_cons_self
        have later : ∀ round ∈ rounds, round ∈ l :=
          fun round member => (valid round (List.mem_cons_of_mem _ member)).1
        exact Or.inr ⟨first, firstIn, taken, _, Language.join_mem_kstar later, rfl⟩
  · intro split
    rcases split with rfl | ⟨first, firstIn, -, more, moreIn, rfl⟩
    · exact Language.nil_mem_kstar l
    · rw [← Language.one_add_self_mul_kstar_eq_kstar]
      exact Or.inr (Language.append_mem_mul firstIn moreIn)

/-- With more rounds than characters are left, rounds may go on as long as they like: a round that
takes up nothing ends the repetition and gains nothing.
-/
theorem Finds.upTo (round : s.Finds l) (k : Continuation) {rounds : Nat} {last : Option Nat}
    {p : Place} (enough : p.rest.length < rounds) (moved : last ≠ some p.position)
    : (Strategy.upTo s k rounds last p).isSome
      ↔ ∃ text ∈ l∗, ∃ rest, p.rest = text ++ rest ∧ (k (p.past text rest)).isSome := by
  induction rounds generalizing last p with
  | zero => omega
  | succ rounds ih =>
      have either
          : (Strategy.upTo s k (rounds + 1) last p).isSome
            ↔ (s (Strategy.upTo s k rounds (some p.position)) p).isSome ∨ (k p).isSome := by
        rw [Strategy.upTo, if_neg moved]
        cases s (Strategy.upTo s k rounds (some p.position)) p <;> simp
      -- the invariant carries over to the next round only if this one takes up something
      have further {first after : List Char} (split : p.rest = first ++ after)
          (taken : first ≠ [])
          : (Strategy.upTo s k rounds (some p.position) (p.past first after)).isSome
            ↔ ∃ text ∈ l∗, ∃ rest,
                after = text ++ rest ∧ (k ((p.past first after).past text rest)).isSome := by
        have positive := List.length_pos_iff.mpr taken
        rw [split, List.length_append] at enough
        apply ih
        · rw [Place.past_rest]
          omega
        · rw [Place.past_position, ne_eq, Option.some_inj]
          omega
      rw [either, round]
      constructor
      · intro found
        rcases found with ⟨first, firstIn, after, split, found⟩ | success
        · by_cases taken : first = []
          · subst taken
            obtain rfl : p.rest = after := split
            rw [Place.past_nil, upTo_again] at found
            exact ⟨[], Language.nil_mem_kstar l, p.rest, rfl, found⟩
          · obtain ⟨text, textIn, rest, rfl, success⟩ := (further split taken).mp found
            refine ⟨first ++ text, ?_, rest, by simpa using split, ?_⟩
            · exact mem_kstar_iff_first.mpr (Or.inr ⟨first, firstIn, taken, text, textIn, rfl⟩)
            · rwa [← Place.past_append]
        · exact ⟨[], Language.nil_mem_kstar l, p.rest, rfl, success⟩
      · intro ⟨text, textIn, rest, split, success⟩
        rcases mem_kstar_iff_first.mp textIn with rfl | ⟨first, firstIn, taken, more, moreIn, rfl⟩
        · obtain rfl : p.rest = rest := split
          exact Or.inr success
        · rw [List.append_assoc] at split
          refine Or.inl ⟨first, firstIn, more ++ rest, split, ?_⟩
          refine (further split taken).mpr ⟨more, moreIn, rest, rfl, ?_⟩
          rwa [Place.past_append]

end Strategy

-----------------------------------------------------------------------------------------
-- Expressions
-----------------------------------------------------------------------------------------

theorem Denotes.finds {node : Node} {l : Language Char} (denoted : Denotes node l)
    : node.strategy.Finds l := by
  induction denoted with
  | empty =>
      intro k p
      constructor
      · intro success
        exact ⟨[], rfl, p.rest, rfl, success⟩
      · intro ⟨text, textIn, rest, split, success⟩
        obtain rfl := (Language.mem_one text).mp textIn
        obtain rfl : p.rest = rest := split
        exact success
  | one test =>
      intro k p
      simp only [Node.strategy, Option.isSome_bind, Option.any_eq_true]
      constructor
      · intro ⟨q, moved, success⟩
        obtain ⟨c, rest, split, accepted, rfl⟩ := (p.advance?_eq_some_iff q _).mp moved
        exact ⟨[c], ⟨c, rfl, accepted⟩, rest, split, success⟩
      · intro ⟨text, ⟨c, same, accepted⟩, rest, split, success⟩
        subst same
        exact ⟨_, (p.advance?_eq_some_iff _ _).mpr ⟨c, rest, split, accepted, rfl⟩, success⟩
  | seq start finish first second => exact first.seq second
  | alt left right first second => exact first.alt second
  | star round ih =>
      intro k p
      exact ih.upTo k (Nat.lt_succ_self _) (by simp)

/-- An expression matches a text just if this belongs to its language. -/
theorem Denotes.fullMatch {node : Node} {l : Language Char} (denoted : Denotes node l)
    (text : List Char)
    : node.fullMatch text ↔ text ∈ l := by
  rw [Node.fullMatch, denoted.finds]
  constructor
  · intro ⟨found, foundIn, rest, split, ended⟩
    obtain rfl : rest = [] := by
      by_contra remaining
      simp [remaining] at ended
    obtain rfl : text = found := by simpa [Place.start] using split
    exact foundIn
  · intro textIn
    exact ⟨text, textIn, [], by simp [Place.start], by simp⟩

end CloudBuckets.Regex
