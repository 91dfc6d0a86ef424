import CloudBuckets.Proofs.Regex.Locality

/-! The lexemes of plain expressions: letters, dots, classes, stars, and groups that only bracket
their content. Tokens fall into lexemes in one way at most, and a class is a single lexeme, however
far it goes.
-/

namespace CloudBuckets.Regex

-----------------------------------------------------------------------------------------
-- Lexemes
-----------------------------------------------------------------------------------------

/-- What a plain expression is made of. -/
inductive Lexeme
  | letter (c : Char)
  | dot
  /-- A class, by the test that it is read as. -/
  | charClass (test : CharTest)
  | star
  | enter
  | bar
  | leave

/-- The test of one character that a lexeme is, if it is one. -/
def Lexeme.test? : Lexeme → Option CharTest
  | letter c => some (.single (Flags.lettering []) c.toNat false)
  | dot => some .anyInLine
  | charClass test => some test
  | star | enter | bar | leave => none

/-- The first lexeme of some tokens, with what is left behind it. -/
inductive Begins : List Token → Lexeme → List Token → Prop
  | letter {c : Char} (rest : List Token) (ordinary : c ∉ signs)
    : Begins (.plain c :: rest) (.letter c) rest
  | escaped {c : Char} (rest : List Token) (sign : c.isAlphanum = false)
    : Begins (.escaped c :: rest) (.letter c) rest
  | dot (rest : List Token) : Begins (.plain '.' :: rest) .dot rest
  | charClass {body : List Token} {test : CharTest} (rest : List Token)
    (reads : CharClass.Reads body test)
    : Begins (.plain '[' :: (body ++ .plain ']' :: rest)) (.charClass test) rest
  | star {rest : List Token} (settled : Settled rest) : Begins (.plain '*' :: rest) .star rest
  | enter (rest : List Token)
    : Begins (.plain '(' :: .plain '?' :: .plain ':' :: rest) .enter rest
  | bar (rest : List Token) : Begins (.plain '|' :: rest) .bar rest
  | leave (rest : List Token) : Begins (.plain ')' :: rest) .leave rest

/-- The lexemes of some tokens. -/
inductive Lexes : List Token → List Lexeme → Prop
  | nil : Lexes [] []
  | cons {tokens rest : List Token} {x : Lexeme} {xs : List Lexeme}
    (first : Begins tokens x rest) (more : Lexes rest xs)
    : Lexes tokens (x :: xs)

variable {tokens rest whole left more : List Token} {x y : Lexeme} {xs ys : List Lexeme}

theorem CharClass.Reads.unique {body other : List Token} {test also : CharTest}
    (reads : Reads body test) (again : Reads other also) (clean : .dangling ∉ rest)
    (same : body ++ .plain ']' :: rest = other ++ .plain ']' :: left)
    : test = also ∧ rest = left := by
  have leftClean : .dangling ∉ left := by
    have whole : .dangling ∉ other ++ .plain ']' :: left := by
      rw [← same]
      simp [reads.clean, clean]
    simp_all
  obtain ⟨last, read⟩ := reads.reads 0 0 rest clean
  obtain ⟨final, readAgain⟩ := again.reads 0 0 left leftClean
  rw [same, readAgain] at read
  cases read
  exact ⟨rfl, rfl⟩

/-- Tokens begin with the same lexeme when others are put behind them. -/
theorem Begins.unique (first : Begins tokens x rest) (second : Begins whole y left)
    (same : whole = tokens ++ more) (clean : .dangling ∉ rest ++ more)
    : y = x ∧ left = rest ++ more := by
  cases first <;> cases second
  case charClass.charClass reads _ _ again =>
    simp only [List.cons_append, List.cons.injEq, true_and, List.append_assoc] at same
    obtain ⟨rfl, rfl⟩ := reads.unique again clean same.symm
    exact ⟨rfl, rfl⟩
  all_goals simp_all [signs]
  all_goals
    obtain ⟨rfl, -⟩ := same
    simp_all

theorem Begins.nonempty (first : Begins tokens x rest) : tokens ≠ [] := by
  cases first <;> exact List.cons_ne_nil _ _

theorem Begins.length_lt (first : Begins tokens x rest) : rest.length < tokens.length := by
  cases first
  all_goals
    simp only [List.length_cons, List.length_append]
    omega

theorem Begins.sound_iff (first : Begins tokens x rest)
    : .dangling ∉ tokens ↔ .dangling ∉ rest := by
  cases first
  case charClass reads => simp [reads.clean]
  all_goals simp

theorem Begins.settled (first : Begins tokens x rest) : Settled tokens := by
  cases first
  case letter ordinary =>
    simp only [signs, List.mem_cons, List.not_mem_nil, or_false, not_or] at ordinary
    simp [Settled, ordinary]
  all_goals simp [Settled]

theorem Begins.append (first : Begins tokens x rest) (settled : Settled more)
    : Begins (tokens ++ more) x (rest ++ more) := by
  cases first with
  | letter _ ordinary => exact .letter _ ordinary
  | escaped _ sign => exact .escaped _ sign
  | dot => exact .dot _
  | charClass _ reads =>
      rw [List.cons_append, List.append_assoc]
      exact .charClass _ reads
  | star before => exact .star (before.append settled)
  | enter => exact .enter _
  | bar => exact .bar _
  | leave => exact .leave _

-----------------------------------------------------------------------------------------
-- Sequences of lexemes
-----------------------------------------------------------------------------------------

namespace Lexes

theorem sound (lexes : Lexes tokens xs) : .dangling ∉ tokens := by
  induction lexes with
  | nil => exact List.not_mem_nil
  | cons first more ih => exact first.sound_iff.mpr ih

theorem settled (lexes : Lexes tokens xs) : Settled tokens := by
  cases lexes with
  | nil => simp [Settled]
  | cons first more => exact first.settled

theorem append (first : Lexes tokens xs) (second : Lexes more ys)
    : Lexes (tokens ++ more) (xs ++ ys) := by
  induction first with
  | nil => exact second
  | cons first _ ih => exact .cons (first.append second.settled) ih

/-- Where the first part of some tokens falls into lexemes, the lexemes of all of them begin with
these.
-/
theorem split (first : Lexes tokens xs) (all : Lexes whole ys) (same : whole = tokens ++ more)
    : ∃ zs, ys = xs ++ zs ∧ Lexes more zs := by
  induction first generalizing whole ys with
  | nil =>
      subst same
      exact ⟨ys, rfl, all⟩
  | cons first later ih =>
      have clean := all.sound
      rw [same, List.mem_append, not_or, first.sound_iff, ← not_or, ← List.mem_append] at clean
      cases all with
      | nil => exact absurd (List.append_eq_nil_iff.mp same.symm).1 first.nonempty
      | cons second others =>
          obtain ⟨rfl, rfl⟩ := first.unique second same clean
          obtain ⟨zs, rfl, lexes⟩ := ih others rfl
          exact ⟨zs, rfl, lexes⟩

theorem unique (first : Lexes tokens xs) (second : Lexes tokens ys) : xs = ys := by
  obtain ⟨zs, rfl, rest⟩ := first.split second (List.append_nil tokens).symm
  cases rest with
  | nil => exact (List.append_nil xs).symm
  | cons first => exact absurd rfl first.nonempty

/-- Behind an opening bracket there is a class. -/
theorem charClass (lexes : Lexes (.plain '[' :: tokens) xs)
    : ∃ body test rest ys,
        tokens = body ++ .plain ']' :: rest
        ∧ CharClass.Reads body test
        ∧ Lexes rest ys
        ∧ xs = .charClass test :: ys := by
  cases lexes with
  | cons first more =>
      cases first with
      | letter _ ordinary => exact absurd (by decide) ordinary
      | charClass _ reads => exact ⟨_, _, _, _, rfl, reads, more, rfl⟩

end Lexes

end CloudBuckets.Regex
