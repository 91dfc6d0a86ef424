import CloudBuckets.Proofs.Glob.Lexemes
import CloudBuckets.Proofs.Regex.EscapedMembers

/-! Classes with a backslash before each character. The body of a class goes into the expression as
it stands, and there a backslash keeps only signs to themselves; and the class of the pattern ends
at the first closing bracket, with or without a backslash.
-/

namespace CloudBuckets.Glob

open Regex (CharClass.escapedTokens)

variable {cs front back : List Char}

theorem ofText_escaped (cs text : List Char)
    : Regex.Token.ofText (escaped cs ++ text) = cs.map .escaped ++ Regex.Token.ofText text := by
  induction cs with
  | nil => rfl
  | cons c cs ih => exact congrArg (Regex.Token.escaped c :: ·) ih

/-- A class is taken over as it is unless it begins with an exclamation mark. -/
theorem charClass_regex {body : List Char} (unmarked : body.head? ≠ some '!')
    : (Token.charClass body).regex = .plain '[' :: Regex.Token.ofText (body ++ [']']) := by
  have same : (Token.charClass body).expression = '[' :: (body ++ [']']) := by
    cases body with
    | nil => rfl
    | cons c body =>
        have other : c ≠ '!' := fun mark => unmarked (congrArg some mark)
        simp [Token.expression, other]
  rw [Token.regex, same, Regex.Token.ofText_cons (by decide)]

theorem escaped_head (cs : List Char) {text : List Char} (unmarked : text.head? ≠ some '!')
    : (escaped cs ++ text).head? ≠ some '!' := by
  cases cs with
  | nil => exact unmarked
  | cons c cs => simp [escaped]

theorem escaped_unclosed (closing : ']' ∉ cs) : ']' ∉ escaped cs := by
  simpa [escaped] using closing

/-- Without a closing bracket among the characters, the class ends where it should. -/
theorem escapedClass_tokens (closing : ']' ∉ cs)
    : Glob.tokens ('[' :: (escaped cs ++ [']'])) = .ok [.charClass (escaped cs)] :=
  tokens_eq_ok_iff.mpr (.atom (.charClass [] (escaped_unclosed closing)) (.done false []))

theorem escapedClass_regex (cs : List Char)
    : [Token.charClass (escaped cs)].flatMap (·.regex)
        = .plain '[' :: CharClass.escapedTokens cs [] := by
  have unmarked : (escaped cs).head? ≠ some '!' := by
    simpa using escaped_head cs (by simp : [].head? ≠ some '!')
  rw [List.flatMap_singleton, charClass_regex unmarked, ofText_escaped]
  rfl

/-- A closing bracket ends the class of the pattern, in spite of its backslash. -/
theorem brokenClass_tokens (closing : ']' ∉ front) (back : List Char)
    : Glob.tokens ('[' :: (escaped (front ++ ']' :: back) ++ [']']))
        = .ok (.charClass (escaped front ++ ['\\']) :: (back.map .literal ++ [.literal ']'])) := by
  have first : ']' ∉ escaped front ++ ['\\'] := by simp [escaped_unclosed closing]
  have last : Passes false [']'] [.literal ']'] false [] :=
    .atom (.letter [] (by decide)) (.done false [])
  have all : Passes false _ _ false [] := .atom (.charClass _ first) (last.escaped back)
  rw [tokens_eq_ok_iff]
  simpa [escaped, Atom.token] using all

/-- No bracket of the expression ends the class then. -/
theorem brokenClass_regex (front back : List Char)
    : ∃ tokens,
        (Token.charClass (escaped front ++ ['\\'])
            :: (back.map .literal ++ [.literal ']'])).flatMap (·.regex) = .plain '[' :: tokens
        ∧ .plain ']' ∉ tokens := by
  have unmarked := escaped_head front (by simp : ['\\'].head? ≠ some '!')
  have first
      : (Token.charClass (escaped front ++ ['\\'])).regex
        = .plain '[' :: (front.map .escaped ++ [.escaped ']']) := by
    rw [charClass_regex unmarked, List.append_assoc, ofText_escaped]
    rfl
  refine ⟨_, by rw [List.flatMap_cons, first, List.cons_append], ?_⟩
  simp [List.flatMap_append, Token.literal_unclosed]

end CloudBuckets.Glob

namespace CloudBuckets.PathMatcher

open Glob (escaped)
open Regex (CharClass.Reads Lexes)

variable {cs : List Char} {m : PathMatcher}

theorem escapedClass_refused (closing : ']' ∈ cs)
    : ofText (Form.glob.name ++ ':' :: '[' :: (escaped cs ++ [']'])) ≠ .ok m := by
  intro given
  obtain ⟨front, back, rfl, first⟩ := List.eq_append_cons_of_mem closing
  obtain ⟨xs, lexes, -⟩ := lexes_of_ofText (Glob.brokenClass_tokens first back) given
  obtain ⟨tokens, same, never⟩ := Glob.brokenClass_regex front back
  rw [same] at lexes
  obtain ⟨body, test, rest, ys, rfl, -⟩ := lexes.charClass
  exact never (by simp)

/-- A class of escapes matches what it is read as. -/
theorem escapedClass_accepts (closing : ']' ∉ cs)
    (given : ofText (Form.glob.name ++ ':' :: '[' :: (escaped cs ++ [']'])) = .ok m)
    : ∃ test,
        CharClass.Reads (cs.map .escaped) test
        ∧ ∀ path, m.accepts path ↔ path ∈ test.language := by
  obtain ⟨xs, lexes, -⟩ := lexes_of_ofText (Glob.escapedClass_tokens closing) given
  obtain ⟨l, completes, accepts⟩ :=
    completes_of_ofText (Glob.escapedClass_tokens closing) lexes given
  rw [Glob.escapedClass_regex] at lexes
  obtain ⟨body, test, rest, ys, same, reads, later, rfl⟩ := lexes.charClass
  have outside : .plain ']' ∉ cs.map Regex.Token.escaped := by simp
  obtain ⟨rfl, -, rfl⟩ := (List.append_cons_inj_of_notMem outside List.not_mem_nil).mp same
  cases later with
  | cons first => exact absurd rfl first.nonempty
  | nil =>
    rw [Regex.Stack.language?_single rfl] at completes
    cases completes
    exact ⟨test, reads, accepts⟩

theorem ofText_of_reads {test : Regex.CharTest} (closing : ']' ∉ cs)
    (reads : CharClass.Reads (cs.map .escaped) test)
    : ∃ m,
        ofText (Form.glob.name ++ ':' :: '[' :: (escaped cs ++ [']'])) = .ok m
        ∧ ∀ path, m.accepts path ↔ path ∈ test.language := by
  have lexes
      : Lexes ([Glob.Token.charClass (escaped cs)].flatMap (·.regex)) [.charClass test] := by
    rw [Glob.escapedClass_regex]
    exact .cons (.charClass [] reads) .nil
  exact ofText_of_completes (Glob.escapedClass_tokens closing) lexes
    (Regex.Stack.language?_single rfl)

/-- A class of escapes is accepted and matches just the characters behind its backslashes if and
only if these are neither letters nor digits of ASCII, nor a closing bracket.
-/
theorem escapedClass_iff (c : Char) (cs : List Char)
    : (∃ m,
        ofText (Form.glob.name ++ ':' :: '[' :: (escaped (c :: cs) ++ [']'])) = .ok m
        ∧ ∀ path, m.accepts path ↔ ∃ d ∈ c :: cs, path = [d])
      ↔ ∀ d ∈ c :: cs, d.isAlphanum = false ∧ d ≠ ']' := by
  constructor
  · intro ⟨m, given, exactly⟩
    have closing : ']' ∉ c :: cs := fun closing => escapedClass_refused closing given
    obtain ⟨test, reads, accepts⟩ := escapedClass_accepts closing given
    obtain ⟨pairs, same, rfl, means⟩ := reads.escaped (List.cons_ne_nil _ _)
    have holds (d : Char)
        : (∃ member ∈ pairs.map (·.2), member.holds (Regex.Flags.lettering []) d.toNat)
          ↔ d ∈ pairs.map (·.1) := by
      rw [← same]
      calc
        (∃ member ∈ pairs.map (·.2), member.holds (Regex.Flags.lettering []) d.toNat)
          ↔ m.accepts [d] := by
            rw [accepts, Regex.CharTest.singleton_mem_language, Regex.CharClass.test_accepts]
            simp
        _ ↔ d ∈ c :: cs := by
            rw [exactly]
            simp
    have signs := Regex.signs_of_exact means holds
    rw [← same] at signs
    intro d member
    refine ⟨signs d member, ?_⟩
    rintro rfl
    exact closing member
  · intro signs
    have closing : ']' ∉ c :: cs := fun member => (signs _ member).2 rfl
    have reads :=
      Regex.CharClass.reads_signs (fun d member => (signs d member).1) (List.cons_ne_nil c cs)
    obtain ⟨m, given, accepts⟩ := ofText_of_reads closing reads
    have holds (d : Char)
        : (Regex.CharClass.test (Regex.Flags.lettering [])
              ((c :: cs).map fun d => .code d.toNat) false).accepts d
          ↔ d ∈ c :: cs := by
      rw [Regex.CharClass.test_accepts]
      simp only [List.mem_map, exists_exists_and_eq_and, Regex.Member.holds_code, Char.toNat_inj,
        exists_eq_right', iff_true]
    refine ⟨m, given, ?_⟩
    intro path
    rw [accepts]
    constructor
    · rintro ⟨d, rfl, accepted⟩
      exact ⟨d, (holds d).mp accepted, rfl⟩
    · rintro ⟨d, member, rfl⟩
      exact ⟨d, rfl, (holds d).mpr member⟩

/-- An escaped `d` is read as the class of the digits, and behind an escaped bracket the class has
no end.
-/
theorem escapedClass_digits
    : (∃ m,
        ofText (Form.glob.name ++ ':' :: '[' :: (escaped ['d'] ++ [']'])) = .ok m
        ∧ m.accepts ['d'] = false
        ∧ m.accepts ['5'] = true)
      ∧ ∃ error, ofText (Form.glob.name ++ ':' :: '[' :: (escaped [']'] ++ [']'])) = .error error :=
  ⟨⟨_, rfl, rfl, rfl⟩, _, rfl⟩

end CloudBuckets.PathMatcher
