import CloudBuckets.Proofs.Regex.Layers

/-! Expressions that differ in their tests alone. A relation of languages that holds between the
tests, and agrees with sequences, alternatives and repetitions, holds between the wholes.
-/

namespace CloudBuckets.Regex

open Computability

-----------------------------------------------------------------------------------------
-- Related languages
-----------------------------------------------------------------------------------------

/-- A relation of languages that agrees with putting them together. -/
structure Congruence (related : Language Char → Language Char → Prop) : Prop where
  zero : related 0 0
  one : related 1 1
  add {l m l' m' : Language Char} : related l m → related l' m' → related (l + l') (m + m')
  mul {l m l' m' : Language Char} : related l m → related l' m' → related (l * l') (m * m')
  star {l m : Language Char} : related l m → related l∗ m∗

/-- Lexemes that are tests with related languages, or else the same. -/
inductive Lexeme.Related (related : Language Char → Language Char → Prop)
    : Lexeme → Lexeme → Prop
  | test {x y : Lexeme} {test other : CharTest} (first : x.test? = some test)
    (second : y.test? = some other) (languages : related test.language other.language)
    : Related related x y
  | sign {x : Lexeme} (noTest : x.test? = none) : Related related x x

/-- Lexemes are related to themselves if the languages of their tests are. -/
theorem Lexeme.related_self {related : Language Char → Language Char → Prop} {xs : List Lexeme}
    (tests : ∀ x ∈ xs, ∀ test, x.test? = some test → related test.language test.language)
    : List.Forall₂ (Related related) xs xs := by
  rw [List.forall₂_same]
  intro x inLexemes
  cases is : x.test? with
  | none => exact .sign is
  | some test => exact .test is is (tests x inLexemes test is)

structure Layer.Related (related : Language Char → Language Char → Prop) (l m : Layer)
    : Prop where
  branches : List.Forall₂ related l.branches m.branches
  parts : List.Forall₂ (fun p q => related p.language q.language ∧ p.role = q.role) l.parts m.parts

structure Stack.Related (related : Language Char → Language Char → Prop) (s t : Stack)
    : Prop where
  current : s.current.Related related t.current
  outer : List.Forall₂ (Layer.Related related) s.outer t.outer

theorem Stack.start_related (related : Language Char → Language Char → Prop)
    : start.Related related start where
  current := ⟨.nil, .nil⟩
  outer := .nil

namespace Congruence

variable {related : Language Char → Language Char → Prop} {l m : Layer} {s t : Stack}

theorem sequence (congruence : Congruence related) (layers : l.Related related m)
    : related l.sequence m.sequence := by
  rw [Layer.sequence, Layer.sequence]
  have each := List.rel_reverse layers.parts
  generalize l.parts.reverse = parts, m.parts.reverse = others at each ⊢
  induction each with
  | nil => exact congruence.one
  | cons first rest ih => exact congruence.mul first.1 ih

theorem content (congruence : Congruence related) (layers : l.Related related m)
    : related l.content m.content := by
  have all : List.Forall₂ related (l.sequence :: l.branches) (m.sequence :: m.branches) :=
    .cons (congruence.sequence layers) layers.branches
  have each := List.rel_reverse all
  rw [Layer.content, Layer.content]
  generalize (l.sequence :: l.branches).reverse = branches,
    (m.sequence :: m.branches).reverse = others at each ⊢
  induction each with
  | nil => exact congruence.zero
  | cons first rest ih => exact congruence.add first ih

theorem repeatLast (congruence : Congruence related) (layers : l.Related related m)
    : Option.Rel (Layer.Related related) l.repeatLast? m.repeatLast? := by
  obtain ⟨branches, parts⟩ := l
  obtain ⟨others, more⟩ := m
  obtain ⟨alike, each⟩ := layers
  cases each with
  | nil => exact .none
  | @cons part other before earlier first rest =>
      obtain ⟨language, role⟩ := part
      obtain ⟨also, otherRole⟩ := other
      obtain ⟨languages, rfl⟩ := first
      cases role with
      | atom => exact .some ⟨alike, .cons ⟨congruence.star languages, rfl⟩ rest⟩
      | anchor | repetition => exact .none

/-- Related lexemes make related stacks of related ones. -/
theorem step (congruence : Congruence related) (linked : s.Related related t) {x y : Lexeme}
    (lexemes : x.Related related y)
    : Option.Rel (Stack.Related related) (s.step x) (t.step y) := by
  obtain ⟨here, around⟩ := linked
  cases lexemes with
  | @test _ test other first second languages =>
      have pushed
          : (s.current.push test.language).Related related (t.current.push other.language) :=
        ⟨here.branches, .cons ⟨languages, rfl⟩ here.parts⟩
      rw [Stack.step_test first, Stack.step_test second]
      exact .some ⟨pushed, around⟩
  | sign noTest =>
      cases x with
      | letter | dot | charClass => cases noTest
      | star =>
          have repeated := congruence.repeatLast here
          rw [Stack.step, Stack.step]
          generalize s.current.repeatLast? = left, t.current.repeatLast? = right at repeated
          cases repeated with
          | none => exact .none
          | some layers => exact .some ⟨layers, around⟩
      | enter => exact .some ⟨⟨.nil, .nil⟩, .cons here around⟩
      | bar => exact .some ⟨⟨.cons (congruence.sequence here) here.branches, .nil⟩, around⟩
      | leave =>
          obtain ⟨current, layers⟩ := s
          obtain ⟨also, others⟩ := t
          cases around with
          | nil => exact .none
          | cons shows around =>
              have content := congruence.content here
              exact .some ⟨⟨shows.branches, .cons ⟨content, rfl⟩ shows.parts⟩, around⟩

theorem languages (congruence : Congruence related) {xs ys : List Lexeme}
    (linked : s.Related related t) (lexemes : List.Forall₂ (Lexeme.Related related) xs ys)
    : Option.Rel related (s.language? xs) (t.language? ys) := by
  induction lexemes generalizing s t with
  | nil =>
      obtain ⟨current, layers⟩ := s
      obtain ⟨also, others⟩ := t
      obtain ⟨here, around⟩ := linked
      cases around with
      | nil => exact .some (congruence.content here)
      | cons => exact .none
  | cons first rest ih =>
      have both := congruence.step linked first
      rw [Stack.language?_cons, Stack.language?_cons]
      generalize s.step _ = after, t.step _ = other at both ⊢
      cases both with
      | none => exact .none
      | some later => exact ih later

/-- Where some lexemes complete a language, related ones complete a related language. -/
theorem completes (congruence : Congruence related) {xs ys : List Lexeme} {l : Language Char}
    (lexemes : List.Forall₂ (Lexeme.Related related) xs ys)
    (completed : Stack.start.language? xs = some l)
    : ∃ m, Stack.start.language? ys = some m ∧ related l m := by
  have both := congruence.languages (Stack.start_related related) lexemes
  generalize Stack.start.language? xs = left, Stack.start.language? ys = right at both completed
  cases both with
  | none => cases completed
  | some languages =>
      cases completed
      exact ⟨_, rfl, languages⟩

end Congruence

end CloudBuckets.Regex
