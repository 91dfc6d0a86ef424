import CloudBuckets.Proofs.Glob.Lexemes
import CloudBuckets.Proofs.Regex.Congruence

/-! Which patterns stay within a component. Besides a slash that is written out, only two stars and
classes can match one; so a pattern without these matches no path that has one.
-/

namespace CloudBuckets.Glob

open Computability
open Regex (CharTest Congruence Lexeme Lexes)

-----------------------------------------------------------------------------------------
-- Languages without slashes
-----------------------------------------------------------------------------------------

/-- No text of a language has a slash. -/
def Slashless (l : Language Char) : Prop :=
  ∀ text ∈ l, '/' ∉ text

theorem slashless_congruence : Congruence fun l _ => Slashless l where
  zero := fun _ member => False.elim member
  one := by
    rintro _ rfl
    exact List.not_mem_nil
  add := by
    intro l m l' m' left right text member
    exact member.elim (left text) (right text)
  mul := by
    intro l m l' m' left right text member
    obtain ⟨start, startIn, finish, finishIn, rfl⟩ := Language.mem_mul.mp member
    rw [List.mem_append, not_or]
    exact ⟨left start startIn, right finish finishIn⟩
  star := by
    intro l m rounds text member slash
    obtain ⟨parts, rfl, valid⟩ := Language.mem_kstar.mp member
    obtain ⟨part, inParts, inPart⟩ := List.mem_flatten.mp slash
    exact rounds part (valid part inParts) inPart

theorem slashless_of_test {test : CharTest} (other : test.accepts '/' = false)
    : Slashless test.language := by
  rintro text ⟨c, rfl, accepted⟩ slash
  rw [List.mem_singleton] at slash
  rw [← slash, other] at accepted
  cases accepted

-----------------------------------------------------------------------------------------
-- Patterns without slashes
-----------------------------------------------------------------------------------------

/-- A class in the expression for a pattern, by the test that it is read as. -/
def HasClass (pattern : List Char) (test : CharTest) : Prop :=
  ∃ tokens xs,
    Glob.tokens pattern = .ok tokens
    ∧ Lexes (tokens.flatMap (·.regex)) xs
    ∧ .charClass test ∈ xs

variable {pattern : List Char}

/-- A lexeme that a pattern asks for matches no slash, unless the pattern has one or two stars
together, or it is a class that does.
-/
theorem Asks.slashless {tokens : List Token} {x : Lexeme} {test : CharTest}
    (asks : Asks tokens x) (scanned : Glob.tokens pattern = .ok tokens) (slash : '/' ∉ pattern)
    (stars : ¬ ['*', '*'] <:+: pattern)
    (classes : ∀ test, x = .charClass test → test.accepts '/' = false) (is : x.test? = some test)
    : test.accepts '/' = false := by
  have written := (tokens_eq_ok_iff.mp scanned).written
  cases x with
  | letter c =>
      cases is
      have inPattern : c ∈ pattern := written _ asks
      rw [← Bool.not_eq_true, CharTest.single_accepts]
      intro same
      rw [Char.toNat_inj.mp (same.mpr rfl)] at slash
      exact slash inPattern
  | dot => exact absurd (written _ asks) stars
  | charClass given =>
      cases is
      exact classes _ rfl
  | star | enter | bar | leave => cases is

end CloudBuckets.Glob

namespace CloudBuckets.PathMatcher

open Regex (Lexeme Lexes)

variable {pattern path : List Char} {m : PathMatcher}

/-- A pattern that has neither a slash nor two stars together, and no class that holds a slash,
accepts no path with a slash.
-/
theorem accepts_slashless (given : ofText (Form.glob.name ++ ':' :: pattern) = .ok m)
    (slash : '/' ∉ pattern) (stars : ¬ ['*', '*'] <:+: pattern)
    (classes : ∀ test, Glob.HasClass pattern test → test.accepts '/' = false)
    (accepted : m.accepts path = true)
    : '/' ∉ path := by
  obtain ⟨tokens, scanned⟩ := scanned_of_ofText given
  obtain ⟨xs, lexes, asks⟩ := lexes_of_ofText scanned given
  obtain ⟨l, completes, accepts⟩ := completes_of_ofText scanned lexes given
  have slashless : List.Forall₂ (Lexeme.Related fun l _ => Glob.Slashless l) xs xs := by
    apply Lexeme.related_self
    intro x inLexemes test is
    apply Glob.slashless_of_test
    apply (asks x inLexemes).slashless scanned slash stars _ is
    rintro test rfl
    exact classes test ⟨tokens, xs, scanned, lexes, inLexemes⟩
  obtain ⟨m, -, free⟩ := Glob.slashless_congruence.completes slashless completes
  exact free path ((accepts path).mp accepted)

/-- A class of letters, a character and a part of a component. -/
theorem range_accepts_slashless
    : ∃ m,
        ofText (Form.glob.name ++ ':' :: ['[', 'a', '-', 'c', ']', '?', '*']) = .ok m
        ∧ m.accepts ['b', '1', '2'] = true
        ∧ '/' ∉ ['b', '1', '2'] := by
  have spells : Glob.Spells ['a', '-', 'c'] false [.range 'a' 'c'] := by
    refine ⟨rfl, List.cons_ne_nil _ _, ?_⟩
    simp [Glob.ClassMember.Valid, Glob.ClassMember.Ordinary]
  have range
      : Lexes (Glob.Token.charClass ['a', '-', 'c']).regex
          [.charClass (Regex.CharClass.test (Regex.Flags.lettering [])
            [.range 'a'.toNat 'c'.toNat] false)] :=
    .cons (.charClass _ spells.reads) .nil
  have lexes := range.append (Glob.Token.anyCharacter_lexes.append Glob.Token.anyPart_lexes)
  have slash : '/' ∉ ['[', 'a', '-', 'c', ']', '?', '*'] := by decide
  have stars : ¬ ['*', '*'] <:+: ['[', 'a', '-', 'c', ']', '?', '*'] := by decide
  refine ⟨_, rfl, rfl, accepts_slashless rfl slash stars ?_ rfl⟩
  rintro test ⟨tokens, xs, scanned, given, member⟩
  cases scanned
  have same := lexes.unique given
  rw [← same] at member
  simp only [List.mem_append, List.mem_cons, Lexeme.charClass.injEq, List.not_mem_nil, or_false,
    reduceCtorEq] at member
  rcases member with rfl | rfl | rfl <;> rfl

/-- A negated class holds the slash, though the pattern has none. -/
theorem negated_accepts_slash
    : '/' ∉ ['[', '!', 'a', ']']
      ∧ ¬ ['*', '*'] <:+: ['[', '!', 'a', ']']
      ∧ ∃ m,
          ofText (Form.glob.name ++ ':' :: ['[', '!', 'a', ']']) = .ok m
          ∧ m.accepts ['/'] = true :=
  ⟨by decide, by decide, _, rfl, rfl⟩

end CloudBuckets.PathMatcher
