import CloudBuckets.Proofs.Glob.Classes
import CloudBuckets.Proofs.Glob.Scan

/-! The expression for a glob pattern is read back as an expression for the language of the items
of the pattern: each atom adds its own language, whatever stands around it.
-/

namespace CloudBuckets.Glob

open Regex

-----------------------------------------------------------------------------------------
-- Atoms
-----------------------------------------------------------------------------------------

/-- The tokens of the expression for a token. -/
def Token.regex (token : Token) : List Regex.Token :=
  Regex.Token.ofText token.expression

theorem signs_special {c : Char} (sign : c ∈ signs) : c ∈ specialCharacters := by
  have all : signs.all specialCharacters.contains = true := rfl
  exact List.contains_iff_mem.mp (List.all_eq_true.mp all c sign)

/-- A character that is neither a letter nor a digit and has no meaning behind a backslash. -/
def Meaningless (c : Char) : Prop :=
  Escape.category? c = none
  ∧ Escape.anchor? false c = none
  ∧ Escape.control? c = none
  ∧ c.isAlpha = false
  ∧ c.isDigit = false

instance (c : Char) : Decidable (Meaningless c) :=
  inferInstanceAs (Decidable (_ ∧ _))

theorem special_meaningless {c : Char} (special : c ∈ specialCharacters) : Meaningless c := by
  have all : specialCharacters.all (fun c => decide (Meaningless c)) = true := rfl
  exact of_decide_eq_true (List.all_eq_true.mp all c special)

/-- An escaped character is read as this character. -/
theorem escape_single (c : Char)
    : Single (Regex.Token.ofText (escape c)) (.single (Flags.lettering []) c.toNat false) := by
  by_cases special : c ∈ specialCharacters
  · obtain ⟨category, anchor, control, letter, digit⟩ := special_meaningless special
    have escaped : escape c = ['\\', c] := by simp [escape, special]
    rw [escaped]
    exact Single.escaped category anchor control letter digit
  · have plain : escape c = [c] := by simp [escape, special]
    have backslash : c ≠ '\\' := by
      intro same
      subst same
      exact special (by decide)
    rw [plain, Regex.Token.ofText_cons backslash]
    exact Single.letter (fun sign => special (signs_special sign))

/-- A character that is no slash, as a class. -/
theorem noSlash_spells : Spells ['!', '/'] true [.one '/'] where
  text := rfl
  nonempty := List.cons_ne_nil _ _
  valid := by simp [ClassMember.Valid, ClassMember.Ordinary]

theorem noSlash_accepts (c : Char)
    : (CharClass.test (Flags.lettering []) [ClassMember.member (.one '/')] true).accepts c
      ↔ c ≠ '/' := by
  have accepts := classTest_accepts [.one '/'] true c
  simpa [ClassMember.Holds] using accepts

/-- What the expression for an atom adds to an expression. -/
theorem Atom.adds {atom : Atom} (spelled : atom.Spelled)
    : Adds atom.token.regex atom.language := by
  cases atom with
  | letter c =>
      have adds := Adds.single (escape_single c)
      rw [CharTest.letter_language] at adds
      exact adds
  | anyCharacter =>
      have adds := Adds.single noSlash_spells.single
      simp only [CharTest.language, List.map_cons, List.map_nil, noSlash_accepts] at adds
      exact adds
  | anyPart =>
      have adds := Adds.star noSlash_spells.single
      simp only [List.map_cons, List.map_nil, noSlash_accepts, List.forall_mem_ne'] at adds
      exact adds
  | anything =>
      have adds := Adds.star Single.anyInLine
      simp only [CharTest.anyInLine_accepts, ne_eq, List.forall_mem_ne'] at adds
      exact adds
  | charClass body =>
      obtain ⟨negated, members, spells⟩ := spelled
      have adds := Adds.single spells.single
      have same
          : (CharClass.test (Flags.lettering []) (members.map (·.member)) negated).language
            = (Atom.charClass body).language := by
        ext text
        constructor
        · intro ⟨c, single, accepted⟩
          exact ⟨c, negated, members, single, spells, (classTest_accepts _ _ _).mp accepted⟩
        · intro ⟨c, also, others, single, again, held⟩
          obtain ⟨rfl, rfl⟩ := spells.unique again
          exact ⟨c, single, (classTest_accepts _ _ _).mpr held⟩
      rw [same] at adds
      exact adds

-----------------------------------------------------------------------------------------
-- Sequences and alternatives
-----------------------------------------------------------------------------------------

theorem sequence_adds {atoms : List Atom} (spelled : ∀ atom ∈ atoms, atom.Spelled)
    : Adds (atoms.flatMap (·.token.regex)) (sequenceLanguage atoms) := by
  induction atoms with
  | nil => exact Adds.nil
  | cons atom atoms ih =>
      obtain ⟨first, rest⟩ := List.forall_mem_cons.mp spelled
      rw [List.flatMap_cons, sequenceLanguage, List.map_cons, List.prod_cons]
      exact (Atom.adds first).append (ih rest)

theorem branchTokens_regex (branches : List (List Atom))
    : (branchTokens branches).flatMap (·.regex)
        = Regex.closedBranches
            (branches.map fun branch => branch.flatMap (·.token.regex)) := by
  induction branches with
  | nil => rfl
  | cons branch rest ih =>
      cases rest with
      | nil => simp [branchTokens, closedBranches, List.flatMap_map]; rfl
      | cons second rest =>
          simp only [branchTokens, List.flatMap_append, List.flatMap_cons, ih]
          simp [closedBranches, List.flatMap_map]
          rfl

theorem choice_adds {branches : List (List Atom)} (nonempty : branches ≠ [])
    (spelled : ∀ branch ∈ branches, ∀ atom ∈ branch, atom.Spelled)
    : Adds ((Item.choice branches).tokens.flatMap (·.regex)) (choiceLanguage branches) := by
  have each
      : List.Forall₂ Adds (branches.map fun branch => branch.flatMap (·.token.regex))
          (branches.map sequenceLanguage) := by
    rw [List.forall₂_map_left_iff, List.forall₂_map_right_iff, List.forall₂_same]
    exact fun branch member => sequence_adds (spelled branch member)
  rw [Item.tokens, List.flatMap_cons, branchTokens_regex]
  exact Adds.group each (by simpa using nonempty)

/-- The expression for a pattern adds up to the language of its items. -/
theorem Reads.adds {pattern : List Char} {items : List Item} (read : Reads pattern items)
    (spelled : ∀ item ∈ items, item.Spelled)
    : Adds ((items.flatMap (·.tokens)).flatMap (·.regex)) (language items) := by
  induction read with
  | nil => exact Adds.nil
  | @atom _ _ atom _ first more ih =>
      obtain ⟨atomSpelled, rest⟩ := List.forall_mem_cons.mp spelled
      have single : (Item.atom atom).tokens.flatMap (·.regex) = atom.token.regex :=
        List.flatMap_singleton _ _
      rw [List.flatMap_cons, List.flatMap_append, single, language, List.map_cons,
        List.prod_cons]
      exact (Atom.adds atomSpelled).append (ih rest)
  | choice group more ih =>
      obtain ⟨groupSpelled, rest⟩ := List.forall_mem_cons.mp spelled
      rw [List.flatMap_cons, List.flatMap_append, language, List.map_cons, List.prod_cons]
      exact (choice_adds group.nonempty groupSpelled).append (ih rest)

-----------------------------------------------------------------------------------------
-- Whole patterns
-----------------------------------------------------------------------------------------

theorem ofText_expressions {tokens : List Token}
    (sound : ∀ token ∈ tokens, .dangling ∉ token.regex)
    : Regex.Token.ofText (tokens.flatMap (·.expression)) = tokens.flatMap (·.regex) := by
  induction tokens with
  | nil => rfl
  | cons token tokens ih =>
      obtain ⟨first, rest⟩ := List.forall_mem_cons.mp sound
      rw [List.flatMap_cons, Regex.Token.ofText_append _ first, ih rest, List.flatMap_cons]
      rfl

/-- The expression for a pattern is read as an expression for the language of its items. -/
theorem Reads.parse {pattern : List Char} {items : List Item} (read : Reads pattern items)
    (spelled : ∀ item ∈ items, item.Spelled)
    : ∃ text node,
        expression pattern = .ok text
        ∧ Regex.parse text = .ok node
        ∧ Denotes node (language items) := by
  have adds := read.adds spelled
  have sound : ∀ token ∈ items.flatMap (·.tokens), .dangling ∉ token.regex := by
    intro token member dangling
    exact adds.sound (List.mem_flatMap.mpr ⟨token, member, dangling⟩)
  rw [← ofText_expressions sound] at adds
  obtain ⟨node, parsed, denotes⟩ := adds.parse
  refine ⟨_, node, ?_, parsed, denotes⟩
  rw [expression, read.tokens]
  rfl

end CloudBuckets.Glob
