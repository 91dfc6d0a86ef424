import CloudBuckets.PathMatcher
import CloudBuckets.Proofs.Glob.Expression

/-! A path matcher for a glob pattern accepts the paths in the language of the pattern. -/

namespace CloudBuckets.PathMatcher

open Glob (Reads language)

variable {pattern : List Char} {items : List Glob.Item}

theorem ofText_glob_eq (pattern : List Char)
    : ofText (Form.glob.name ++ ':' :: pattern)
        = (expression .glob pattern).bind fun text =>
            ((Regex.parse text).mapError (.regex text)).bind fun node => .ok ⟨node⟩ :=
  rfl

/-- A pattern whose classes spell members is accepted, and its matcher decides its language. -/
theorem ofText_glob (read : Reads pattern items) (spelled : ∀ item ∈ items, item.Spelled)
    : ∃ m,
        ofText (Form.glob.name ++ ':' :: pattern) = .ok m
        ∧ ∀ path, m.accepts path ↔ path ∈ language items := by
  obtain ⟨text, node, translated, parsed, denotes⟩ := read.parse spelled
  refine ⟨⟨node⟩, ?_, denotes.fullMatch⟩
  have written : expression .glob pattern = .ok text := by
    rw [expression, translated]
    rfl
  rw [ofText_glob_eq, written, Except.bind, parsed]
  rfl

/-- Each pattern that is accepted reads as a sequence of items. -/
theorem readable_of_ofText {m : PathMatcher}
    (given : ofText (Form.glob.name ++ ':' :: pattern) = .ok m)
    : ∃ items, Reads pattern items := by
  cases scanned : Glob.tokens pattern with
  | ok found => exact Glob.tokens_readable scanned
  | error refusal =>
      have refused : expression .glob pattern = .error (.glob pattern refusal) := by
        rw [expression, Glob.expression, scanned]
        rfl
      rw [ofText_glob_eq, refused] at given
      cases given

/-- A glob pattern that is accepted reads as items in just one way, and if its classes spell
members, its matcher accepts just the paths in the language of these items.
-/
theorem glob_accepts_iff {m : PathMatcher}
    (given : ofText (Form.glob.name ++ ':' :: pattern) = .ok m)
    : (∃! items, Reads pattern items)
      ∧ ∀ items,
          Reads pattern items
          → (∀ item ∈ items, item.Spelled)
          → ∀ path, m.accepts path = true ↔ path ∈ language items := by
  obtain ⟨first, firstRead⟩ := readable_of_ofText given
  refine ⟨⟨first, firstRead, fun _ read => read.unique firstRead⟩, ?_⟩
  intro items read spelled
  obtain ⟨found, same, accepts⟩ := ofText_glob read spelled
  rw [given] at same
  cases same
  exact accepts

/-- A pattern of two alternatives, an escaped star, a negated class and anything behind it. -/
theorem glob_accepts_alternatives
    : ∃ m,
        ofText
            (Form.glob.name
              ++ ':' :: [
                '\x7b', 'a', ',', 'b', '?', '\x7d', '\\', '*',
                '[', '!', 'x', '-', 'z', ']', '*', '*'
              ])
          = .ok m
        ∧ m.accepts ['b', 'c', '*', 'q', '/', 'r'] = true
        ∧ m.accepts ['a', '*', 'y', 'r'] = false
        ∧ ∀ path,
            m.accepts path = true
              ↔ path ∈ language
                  [
                    .choice [[.letter 'a'], [.letter 'b', .anyCharacter]],
                    .atom (.letter '*'),
                    .atom (.charClass ['!', 'x', '-', 'z']),
                    .atom .anything
                  ] := by
  have group
      : Glob.BranchesRead
          ['a', ',', 'b', '?', '\x7d', '\\', '*', '[', '!', 'x', '-', 'z', ']', '*', '*']
          [[.letter 'a'], [.letter 'b', .anyCharacter]]
          ['\\', '*', '[', '!', 'x', '-', 'z', ']', '*', '*'] := by
    apply Glob.BranchesRead.atom (.letter _ (by decide))
    apply Glob.BranchesRead.comma
    apply Glob.BranchesRead.atom (.letter _ (by decide))
    apply Glob.BranchesRead.atom (.anyCharacter _)
    exact .close _
  have rest
      : Reads ['\\', '*', '[', '!', 'x', '-', 'z', ']', '*', '*']
          [.atom (.letter '*'), .atom (.charClass ['!', 'x', '-', 'z']), .atom .anything] := by
    have first : ']' ∉ ['!', 'x', '-', 'z'] := by decide
    exact .atom (.escaped _ _) (.atom (.charClass _ first) (.atom (.anything _) .nil))
  have spells : Glob.Spells ['!', 'x', '-', 'z'] true [.range 'x' 'z'] := by
    refine ⟨rfl, List.cons_ne_nil _ _, ?_⟩
    simp [Glob.ClassMember.Valid, Glob.ClassMember.Ordinary]
  refine ⟨_, rfl, rfl, rfl, ?_⟩
  apply (glob_accepts_iff ?_).2 _ (.choice group rest) ?_
  · rfl
  · simp [Glob.Item.Spelled, Glob.Atom.Spelled]
    exact Or.inr ⟨_, spells⟩

end CloudBuckets.PathMatcher
