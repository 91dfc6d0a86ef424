import CloudBuckets.Proofs.Glob.Lexemes
import CloudBuckets.Proofs.Regex.Congruence

/-! Two stars in place of one. One star stands for any characters but slashes, two stand for any but
newlines; so two match more than one does, but only in paths without newlines.
-/

namespace CloudBuckets.Glob

open Computability
open Regex (CharTest Congruence Lexeme Lexes)

-----------------------------------------------------------------------------------------
-- Languages within a line
-----------------------------------------------------------------------------------------

/-- The texts of a language that have no newline belong to another one. -/
def Widens (l m : Language Char) : Prop :=
  ∀ text ∈ l, '\n' ∉ text → text ∈ m

theorem Widens.refl (l : Language Char) : Widens l l :=
  fun _ member _ => member

theorem widens_congruence : Congruence Widens where
  zero := Widens.refl 0
  one := Widens.refl 1
  add := by
    intro l m l' m' left right text member inLine
    exact member.imp (left text · inLine) (right text · inLine)
  mul := by
    intro l m l' m' left right text member inLine
    obtain ⟨start, startIn, finish, finishIn, rfl⟩ := Language.mem_mul.mp member
    rw [List.mem_append, not_or] at inLine
    exact Language.append_mem_mul (left start startIn inLine.1) (right finish finishIn inLine.2)
  star := by
    intro l m rounds text member inLine
    obtain ⟨parts, rfl, valid⟩ := Language.mem_kstar.mp member
    apply Language.join_mem_kstar
    intro part inParts
    apply rounds part (valid part inParts)
    exact fun newline => inLine (List.mem_flatten_of_mem inParts newline)

theorem noSlash_widens : Widens Token.noSlash.language CharTest.anyInLine.language := by
  rintro text ⟨c, rfl, -⟩ inLine
  refine ⟨c, rfl, (CharTest.anyInLine_accepts c).mpr ?_⟩
  exact fun newline => inLine (by simp [newline])

theorem lexemes_widen (xs : List Lexeme) : List.Forall₂ (Lexeme.Related Widens) xs xs :=
  Lexeme.related_self fun _ _ _ _ => Widens.refl _

-----------------------------------------------------------------------------------------
-- Lone stars
-----------------------------------------------------------------------------------------

/-- A star that stands for a part of a component: it is not escaped, outside classes, and no other
one follows. The text before it makes some tokens.
-/
structure LoneStar (before after : List Char) (front : List Token) : Prop where
  single : after.head? ≠ some '*'
  reached : ∃ grouped, Passes false (before ++ '*' :: after) front grouped ('*' :: after)

variable {before after : List Char} {front : List Token}

/-- The tokens before and behind a star are the same if there are two in its place. -/
theorem LoneStar.tokens (lone : LoneStar before after front) {tokens : List Token}
    (scanned : Glob.tokens (before ++ '*' :: after) = .ok tokens)
    : ∃ back,
        tokens = front ++ .anyPart :: back
        ∧ Glob.tokens (before ++ '*' :: '*' :: after) = .ok (front ++ .anything :: back) := by
  obtain ⟨single, grouped, reached⟩ := lone
  have one := reached.append (.atom (.anyPart single) (.done grouped after))
  obtain ⟨back, rfl, rest⟩ := one.split (tokens_eq_ok_iff.mp scanned)
  obtain ⟨passed, same, alike⟩ := reached.piece
  obtain rfl := List.append_cancel_right same
  have asks : AsksNoMore ('*' :: '*' :: after) ('*' :: after) := by simp [AsksNoMore]
  have two := (alike _ asks).append (.atom (.anything after) rest)
  exact ⟨back, List.append_assoc .., tokens_eq_ok_iff.mpr two⟩

end CloudBuckets.Glob

namespace CloudBuckets.PathMatcher

open Glob (LoneStar escaped letters)
open Regex (Lexes Lexeme)

variable {before after path : List Char} {front : List Glob.Token} {xs : List Lexeme}
variable {m : PathMatcher}

/-- With two stars in place of one, a pattern matches all paths of a line that it matched before, as
long as no class before the star goes on over it.
-/
theorem ofText_doubled (lone : LoneStar before after front)
    (ended : Lexes (front.flatMap (·.regex)) xs)
    (given : ofText (Form.glob.name ++ ':' :: (before ++ '*' :: after)) = .ok m)
    : ∃ wider,
        ofText (Form.glob.name ++ ':' :: (before ++ '*' :: '*' :: after)) = .ok wider
        ∧ ∀ path, '\n' ∉ path → m.accepts path → wider.accepts path := by
  obtain ⟨tokens, scanned⟩ := scanned_of_ofText given
  obtain ⟨back, rfl, doubled⟩ := lone.tokens scanned
  obtain ⟨all, lexes, -⟩ := lexes_of_ofText scanned given
  obtain ⟨ys, rfl, later⟩ := ended.split lexes (List.flatMap_append ..)
  obtain ⟨zs, rfl, rest⟩ := Glob.Token.anyPart_lexes.split later List.flatMap_cons
  have two
      : Lexes ((front ++ .anything :: back).flatMap (·.regex))
          (xs ++ ([.dot, .star] ++ zs)) := by
    rw [List.flatMap_append, List.flatMap_cons]
    exact ended.append (Glob.Token.anything_lexes.append rest)
  have related
      : List.Forall₂ (Lexeme.Related Glob.Widens)
          (xs ++ ([.charClass Glob.Token.noSlash, .star] ++ zs)) (xs ++ ([.dot, .star] ++ zs)) := by
    apply List.rel_append (Glob.lexemes_widen xs)
    exact .cons (.test rfl rfl Glob.noSlash_widens) (.cons (.sign rfl) (Glob.lexemes_widen zs))
  obtain ⟨l, completes, accepts⟩ := completes_of_ofText scanned lexes given
  obtain ⟨wide, widerCompletes, widens⟩ := Glob.widens_congruence.completes related completes
  obtain ⟨wider, same, widerAccepts⟩ := ofText_of_completes doubled two widerCompletes
  refine ⟨wider, same, ?_⟩
  intro path inLine accepted
  exact (widerAccepts path).mpr (widens path ((accepts path).mp accepted) inLine)

/-- A wildcard between escaped texts matches its own texts between these. -/
theorem ofText_between {atom : Glob.Atom} {sign after : List Char} (before : List Char)
    (read : atom.Reads false (sign ++ escaped after) (escaped after)) (spelled : atom.Spelled)
    : ∃ m,
        ofText (Form.glob.name ++ ':' :: (escaped before ++ (sign ++ escaped after))) = .ok m
        ∧ ∀ path, m.accepts path ↔ ∃ part ∈ atom.language, path = before ++ part ++ after := by
  have last : Glob.Reads (escaped after) (letters after) := by
    simpa using Glob.Reads.nil.escaped after
  have all := (Glob.Reads.atom read last).escaped before
  have allSpelled
      : ∀ item ∈ letters before ++ .atom atom :: letters after, item.Spelled := by
    rw [List.forall_mem_append, List.forall_mem_cons]
    exact ⟨Glob.letters_spelled before, spelled, Glob.letters_spelled after⟩
  have whole
      : Glob.language (letters before ++ .atom atom :: letters after)
        = {before} * (atom.language * {after}) := by
    rw [Glob.language_append, Glob.language_letters, ← Glob.language_letters after]
    exact congrArg _ List.prod_cons
  obtain ⟨m, given, accepts⟩ := ofText_glob all allSpelled
  refine ⟨m, given, ?_⟩
  intro path
  rw [accepts, whole]
  constructor
  · rintro ⟨_, rfl, _, ⟨part, partIn, _, rfl, rfl⟩, rfl⟩
    exact ⟨part, partIn, (List.append_assoc ..).symm⟩
  · rintro ⟨part, partIn, rfl⟩
    rw [List.append_assoc]
    exact ⟨before, rfl, _, ⟨part, partIn, after, rfl, rfl⟩, rfl⟩

/-- Between the escaped parts of a path around a newline, one star matches it and two do not. -/
theorem ofText_newline (before after : List Char)
    : ∃ m wider,
        ofText (Form.glob.name ++ ':' :: (escaped before ++ '*' :: escaped after)) = .ok m
        ∧ ofText (Form.glob.name ++ ':' :: (escaped before ++ '*' :: '*' :: escaped after))
          = .ok wider
        ∧ m.accepts (before ++ '\n' :: after) = true
        ∧ wider.accepts (before ++ '\n' :: after) = false := by
  have single : (escaped after).head? ≠ some '*' := by cases after <;> simp [escaped]
  have one : Glob.Atom.Reads false (['*'] ++ escaped after) .anyPart (escaped after) :=
    .anyPart single
  have two : Glob.Atom.Reads false (['*', '*'] ++ escaped after) .anything (escaped after) :=
    .anything _
  obtain ⟨m, given, accepts⟩ := ofText_between before one trivial
  obtain ⟨wider, widerGiven, widerAccepts⟩ := ofText_between before two trivial
  refine ⟨m, wider, given, widerGiven, ?_, ?_⟩
  · have other : '/' ∉ ['\n'] := by decide
    exact (accepts _).mpr ⟨['\n'], other, by simp⟩
  · rw [← Bool.not_eq_true, widerAccepts]
    rintro ⟨part, inLine, same⟩
    rw [List.append_assoc, List.append_cancel_left_eq] at same
    obtain rfl : ['\n'] = part := List.append_cancel_right same
    exact inLine List.mem_cons_self

/-- With two stars in place of one, a pattern matches every path without newlines that it matched
before, as long as no class before the star goes on over it; and of paths with newlines this is
not so. Two stars alone match just the paths without newlines.
-/
theorem doubled_accepts_iff (path : List Char)
    : ((∀ before after front xs m,
          LoneStar before after front
          → Lexes (front.flatMap (·.regex)) xs
          → ofText (Form.glob.name ++ ':' :: (before ++ '*' :: after)) = .ok m
          → ∃ wider,
              ofText (Form.glob.name ++ ':' :: (before ++ '*' :: '*' :: after)) = .ok wider
              ∧ (m.accepts path → wider.accepts path))
        ↔ '\n' ∉ path)
      ∧ ∃ m,
          ofText (Form.glob.name ++ ':' :: ['*', '*']) = .ok m
          ∧ (m.accepts path ↔ '\n' ∉ path) := by
  refine ⟨⟨?_, ?_⟩, ?_⟩
  · intro widens newline
    obtain ⟨before, after, rfl⟩ := List.append_of_mem newline
    obtain ⟨m, wider, given, widerGiven, accepted, refused⟩ := ofText_newline before after
    have lone : LoneStar (escaped before) (escaped after) (before.map .literal) := by
      refine ⟨by cases after <;> simp [escaped], false, ?_⟩
      simpa using (Glob.Passes.done false ('*' :: escaped after)).escaped before
    obtain ⟨found, same, wide⟩ := widens _ _ _ _ m lone (Glob.literals_lex _) given
    rw [widerGiven] at same
    cases same
    rw [wide accepted] at refused
    cases refused
  · intro inLine before after front xs m lone ended given
    obtain ⟨wider, same, widens⟩ := ofText_doubled lone ended given
    exact ⟨wider, same, widens path inLine⟩
  · have read : Glob.Reads ['*', '*'] [.atom .anything] := .atom (.anything []) .nil
    obtain ⟨m, given, accepts⟩ := ofText_glob read (by simp [Glob.Item.Spelled, Glob.Atom.Spelled])
    have whole : Glob.language [.atom .anything] = {text | '\n' ∉ text} := mul_one _
    refine ⟨m, given, ?_⟩
    rw [accepts, whole]
    rfl

/-- One star matches a newline, two do not. And where an empty class goes on up to the next closing
bracket, a second star takes this bracket away from it.
-/
theorem doubled_narrower
    : (∃ m wider,
        ofText (Form.glob.name ++ ':' :: ['*']) = .ok m
        ∧ ofText (Form.glob.name ++ ':' :: ['*', '*']) = .ok wider
        ∧ m.accepts ['\n'] = true
        ∧ wider.accepts ['\n'] = false)
      ∧ ∃ m wider,
          ofText (Form.glob.name ++ ':' :: ['[', ']', '*', '?', ']']) = .ok m
          ∧ ofText (Form.glob.name ++ ':' :: ['[', ']', '*', '*', '?', ']']) = .ok wider
          ∧ m.accepts ['a', ']'] = true
          ∧ wider.accepts ['a', ']'] = false :=
  ⟨⟨_, _, rfl, rfl, rfl, rfl⟩, _, _, rfl, rfl, rfl, rfl⟩

end CloudBuckets.PathMatcher
