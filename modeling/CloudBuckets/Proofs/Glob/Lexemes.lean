import CloudBuckets.Proofs.Glob.Matching
import CloudBuckets.Proofs.Glob.Passes
import CloudBuckets.Proofs.Regex.Layers

/-! The lexemes of the expression for a pattern. A class of the pattern may not end where it should:
an empty one, or one that ends on a backslash, goes on in the expression over the tokens behind it.
Yet it ends on the closing bracket of one of them, so that what is accepted falls into lexemes all
the same, and each lexeme but a class is where the pattern asks for it.
-/

namespace CloudBuckets.Glob

open Regex (Begins Lexeme Lexes Settled Stack)

-----------------------------------------------------------------------------------------
-- Tokens
-----------------------------------------------------------------------------------------

/-- No closing bracket stands inside a class. -/
def Token.Closed : Token → Prop
  | charClass body => ']' ∉ body
  | _ => True

theorem Token.WrittenIn.closed {token : Token} {pattern : List Char}
    (written : token.WrittenIn pattern)
    : token.Closed := by
  cases token with
  | charClass body => exact written
  | _ => trivial

/-- A letter is there for a literal of the pattern, and a dot for two stars. -/
def Asks (tokens : List Token) : Lexeme → Prop
  | .letter c => .literal c ∈ tokens
  | .dot => .anything ∈ tokens
  | _ => True

theorem Asks.mono {tokens more : List Token} {x : Lexeme} (asks : Asks tokens x)
    (subset : tokens ⊆ more)
    : Asks more x := by
  cases x with
  | letter | dot => exact subset asks
  | _ => trivial

namespace Token

variable {token : Token}

theorem charClass_expression (body : List Char)
    : ∃ inner,
        (charClass body).expression = '[' :: (inner ++ [']'])
        ∧ (']' ∉ body → ']' ∉ inner) := by
  cases body with
  | nil => exact ⟨[], rfl, id⟩
  | cons c body =>
      by_cases mark : c = '!'
      · subst mark
        exact ⟨'^' :: body, rfl, by simp⟩
      · exact ⟨c :: body, by simp [expression, mark], id⟩

theorem literal_regex (c : Char)
    : ((literal c).regex = [.escaped c] ∧ c.isAlphanum = false)
      ∨ ((literal c).regex = [.plain c] ∧ c ∉ specialCharacters) := by
  by_cases special : c ∈ specialCharacters
  · obtain ⟨-, -, -, letter, digit⟩ := special_meaningless special
    refine Or.inl ⟨by simp [regex, expression, escape, special, Regex.Token.ofText], ?_⟩
    rw [Char.isAlphanum, letter, digit]
    rfl
  · refine Or.inr ⟨?_, special⟩
    have backslash : c ≠ '\\' := by
      intro same
      subst same
      exact special (by decide)
    simp [regex, expression, escape, special, Regex.Token.ofText_cons backslash, Regex.Token.ofText]

theorem literal_unclosed (c : Char) : .plain ']' ∉ (literal c).regex := by
  rcases literal_regex c with ⟨same, -⟩ | ⟨same, ordinary⟩
  · simp [same]
  · have other : ']' ≠ c := by
      rintro rfl
      exact ordinary (by decide)
    simp [same, other]

/-- The test for a character that is no slash. -/
def noSlash : Regex.CharTest :=
  Regex.CharClass.test (Regex.Flags.lettering []) [ClassMember.member (.one '/')] true

theorem noSlash_reads : Regex.CharClass.Reads [.plain '^', .plain '/'] noSlash :=
  noSlash_spells.reads

theorem anyCharacter_lexes : Lexes anyCharacter.regex [.charClass noSlash] :=
  .cons (.charClass _ noSlash_reads) .nil

theorem anyPart_lexes : Lexes anyPart.regex [.charClass noSlash, .star] :=
  .cons (.charClass _ noSlash_reads) (.cons (.star Lexes.nil.settled) .nil)

theorem anything_lexes : Lexes anything.regex [.dot, .star] :=
  .cons (.dot _) (.cons (.star Lexes.nil.settled) .nil)

theorem literal_lexes (c : Char) : Lexes (literal c).regex [.letter c] := by
  rcases literal_regex c with ⟨same, sign⟩ | ⟨same, ordinary⟩
  · rw [same]
    exact .cons (.escaped [] sign) .nil
  · rw [same]
    exact .cons (.letter [] fun sign => ordinary (signs_special sign)) .nil

theorem sound (token : Token) : .dangling ∉ token.regex := by
  cases token with
  | literal c => rcases literal_regex c with ⟨same, -⟩ | ⟨same, -⟩ <;> simp [same]
  | charClass body =>
      obtain ⟨inner, same, -⟩ := charClass_expression body
      apply Regex.Token.ofText_sound
      rw [same, ← List.cons_append, List.getLast?_concat]
      decide
  | anyCharacter | anyPart | anything | openGroup | alternative | closeGroup => decide

/-- Behind the closing bracket that the expression for a token may have, there is nothing but
perhaps a star.
-/
theorem regex_closing (closed : token.Closed)
    : .plain ']' ∉ token.regex
      ∨ ∃ front back,
          token.regex = front ++ .plain ']' :: back
          ∧ .plain ']' ∉ front
          ∧ (back = [] ∨ back = [.plain '*']) := by
  cases token with
  | literal c => exact Or.inl (literal_unclosed c)
  | anyCharacter =>
      exact Or.inr ⟨[.plain '[', .plain '^', .plain '/'], [], rfl, by decide, Or.inl rfl⟩
  | anyPart =>
      exact Or.inr ⟨[.plain '[', .plain '^', .plain '/'], [.plain '*'], rfl, by decide, Or.inr rfl⟩
  | charClass body =>
      obtain ⟨inner, same, unclosed⟩ := charClass_expression body
      have other : ']' ∉ '[' :: inner := by simpa using unclosed closed
      rw [regex, same, ← List.cons_append]
      rcases Regex.Token.ofText_concat other (by decide) with never | ⟨front, split, never⟩
      · exact Or.inl never
      · exact Or.inr ⟨front, [], split, never, Or.inl rfl⟩
  | anything | openGroup | alternative | closeGroup => exact Or.inl (by decide)

/-- The expression for a token begins with a class, or else it is one lexeme, perhaps with a star
behind it.
-/
theorem begins (token : Token)
    : (∃ inner, token.regex = .plain '[' :: inner)
      ∨ ∃ x back,
          (∀ more, Begins (token.regex ++ more) x (back ++ more))
          ∧ (back = [] ∨ back = [.plain '*'])
          ∧ Asks [token] x := by
  cases token with
  | literal c =>
      rcases literal_regex c with ⟨same, sign⟩ | ⟨same, ordinary⟩
      · refine Or.inr ⟨.letter c, [], ?_, Or.inl rfl, List.mem_singleton_self _⟩
        rw [same]
        exact fun more => .escaped more sign
      · refine Or.inr ⟨.letter c, [], ?_, Or.inl rfl, List.mem_singleton_self _⟩
        rw [same]
        exact fun more => .letter more fun sign => ordinary (signs_special sign)
  | anyCharacter | anyPart => exact Or.inl ⟨_, rfl⟩
  | charClass body =>
      obtain ⟨inner, same, -⟩ := charClass_expression body
      rw [regex, same, Regex.Token.ofText_cons (by decide)]
      exact Or.inl ⟨_, rfl⟩
  | anything =>
      exact Or.inr ⟨.dot, [.plain '*'], fun more => .dot _, Or.inr rfl, List.mem_singleton_self _⟩
  | openGroup => exact Or.inr ⟨.enter, [], fun more => .enter more, Or.inl rfl, trivial⟩
  | alternative => exact Or.inr ⟨.bar, [], fun more => .bar more, Or.inl rfl, trivial⟩
  | closeGroup => exact Or.inr ⟨.leave, [], fun more => .leave more, Or.inl rfl, trivial⟩

theorem settled (token : Token) : Settled token.regex := by
  rcases token.begins with ⟨inner, same⟩ | ⟨x, back, first, -⟩
  · rw [same]
    simp [Settled]
  · have alone := first []
    rw [List.append_nil] at alone
    exact alone.settled

end Token

-----------------------------------------------------------------------------------------
-- What is left behind a lexeme
-----------------------------------------------------------------------------------------

variable {tokens others : List Token} {rest : List Regex.Token}

theorem regex_sound (tokens : List Token) : .dangling ∉ tokens.flatMap (·.regex) := by
  simp [Token.sound]

theorem regex_settled (tokens : List Token) : Settled (tokens.flatMap (·.regex)) := by
  induction tokens with
  | nil => simp [Settled]
  | cons token tokens ih => exact token.settled.append ih

theorem literals_lex (text : List Char)
    : Lexes ((text.map Token.literal).flatMap (·.regex)) (text.map .letter) := by
  induction text with
  | nil => exact .nil
  | cons c text ih => exact (Token.literal_lexes c).append ih

/-- What may be left of the expression for some tokens: the expression for the last ones of them,
perhaps with a star before it.
-/
inductive Remains (tokens : List Token) : List Regex.Token → Prop
  | rest {left : List Token} (suffix : left <:+ tokens)
    : Remains tokens (left.flatMap (·.regex))
  | star {left : List Token} (suffix : left <:+ tokens)
    : Remains tokens (.plain '*' :: left.flatMap (·.regex))

theorem Remains.mono (remains : Remains tokens rest) (suffix : tokens <:+ others)
    : Remains others rest := by
  cases remains with
  | rest last => exact .rest (last.trans suffix)
  | star last => exact .star (last.trans suffix)

theorem Remains.sound (remains : Remains tokens rest) : .dangling ∉ rest := by
  cases remains with
  | rest => exact regex_sound _
  | star => simpa using regex_sound _

/-- What is left is left behind a token, but perhaps for its star. -/
theorem Remains.behind {token : Token} {back : List Regex.Token}
    (star : back = [] ∨ back = [.plain '*'])
    : Remains (token :: tokens) (back ++ tokens.flatMap (·.regex)) := by
  rcases star with rfl | rfl
  · exact .rest (List.suffix_cons _ _)
  · exact .star (List.suffix_cons _ _)

/-- Behind a closing bracket of the expression for some tokens, one of them is over. -/
theorem remains_of_closing (closed : ∀ token ∈ tokens, token.Closed) {front : List Regex.Token}
    (same : tokens.flatMap (·.regex) = front ++ .plain ']' :: rest)
    : Remains tokens rest := by
  induction tokens generalizing front with
  | nil => simp at same
  | cons token tokens ih =>
      obtain ⟨first, later⟩ := List.forall_mem_cons.mp closed
      have further {front : List Regex.Token}
          (same : tokens.flatMap (·.regex) = front ++ .plain ']' :: rest)
          : Remains (token :: tokens) rest :=
        (ih later same).mono (List.suffix_cons _ _)
      rw [List.flatMap_cons] at same
      rcases List.append_eq_append_iff.mp same with ⟨more, rfl, split⟩ | ⟨inside, split, behind⟩
      · exact further split
      · cases inside with
        | nil =>
            rw [List.nil_append] at behind
            exact further (behind.symm.trans (List.nil_append _).symm)
        | cons bracket back =>
            obtain ⟨rfl, rfl⟩ := List.cons.inj behind
            rcases Token.regex_closing first with never | ⟨start, last, only, never, star⟩
            · exact absurd (by simp [split]) never
            · have lone : .plain ']' ∉ last := by rcases star with rfl | rfl <;> simp
              rw [only] at split
              obtain ⟨-, -, rfl⟩ := (List.append_cons_inj_of_notMem never lone).mp split
              exact .behind star

-----------------------------------------------------------------------------------------
-- Accepted expressions
-----------------------------------------------------------------------------------------

/-- What is left begins with a lexeme, behind which something is left again, as long as the class
that may come first can be read.
-/
theorem Remains.begins (remains : Remains tokens rest) (nonempty : rest ≠ [])
    (closed : ∀ token ∈ tokens, token.Closed)
    (classRead : ∀ inner, rest = .plain '[' :: inner →
      ∃ start position test after,
        Regex.CharClass.read (Regex.Flags.lettering []) start ⟨position, inner⟩
          = .ok (test, after))
    : ∃ x left, Begins rest x left ∧ Remains tokens left ∧ Asks tokens x := by
  cases remains with
  | @star left suffix =>
      exact ⟨_, _, .star (regex_settled left), .rest suffix, trivial⟩
  | @rest left suffix =>
      cases left with
      | nil => exact absurd rfl nonempty
      | cons token left =>
          have member : token ∈ tokens := suffix.subset List.mem_cons_self
          rcases token.begins with ⟨inner, same⟩ | ⟨x, back, first, star, asks⟩
          · have whole
                : (token :: left).flatMap (·.regex)
                  = .plain '[' :: (inner ++ left.flatMap (·.regex)) := by
              rw [List.flatMap_cons, same, List.cons_append]
            obtain ⟨start, position, test, after, read⟩ := classRead _ whole
            have clean : .dangling ∉ inner ++ left.flatMap (·.regex) := by
              have sound := regex_sound (token :: left)
              rw [whole] at sound
              exact List.not_mem_of_not_mem_cons sound
            obtain ⟨body, split, reads⟩ := Regex.CharClass.reads_of_read clean read
            have leftClosed : ∀ given ∈ token :: left, given.Closed :=
              fun given inLeft => closed given (suffix.subset inLeft)
            have bracketed
                : (token :: left).flatMap (·.regex)
                  = (.plain '[' :: body) ++ .plain ']' :: after.tokens := by
              rw [whole, split, List.cons_append]
            have remains := (remains_of_closing leftClosed bracketed).mono suffix
            refine ⟨.charClass test, _, ?_, remains, trivial⟩
            rw [bracketed, List.cons_append]
            exact .charClass _ reads
          · refine ⟨x, _, first _, (Remains.behind star).mono suffix, ?_⟩
            exact asks.mono (by simpa using member)

/-- What is read to the end falls into lexemes. -/
theorem lexes_of_run {s : Stack} {outer : List Regex.Frame} {f : Regex.Frame} {node : Regex.Node}
    {position limit : Nat} (shown : s.ShownBy outer f) (remains : Remains tokens rest)
    (closed : ∀ token ∈ tokens, token.Closed)
    (done : (Regex.Reader.bare outer f ⟨position, rest⟩).run limit = .ok node)
    : ∃ xs, Lexes rest xs ∧ ∀ x ∈ xs, Asks tokens x := by
  induction limit generalizing s outer f rest position with
  | zero =>
      cases rest with
      | nil => exact ⟨[], .nil, by simp⟩
      | cons token rest => cases done
  | succ limit ih =>
      by_cases ended : rest = []
      · subst ended
        exact ⟨[], .nil, by simp⟩
      · have classRead (inner : List Regex.Token) (same : rest = .plain '[' :: inner)
            : ∃ start position test after,
                Regex.CharClass.read (Regex.Flags.lettering []) start ⟨position, inner⟩
                  = .ok (test, after) := by
          subst same
          have clean := List.not_mem_of_not_mem_cons remains.sound
          rw [Regex.Reader.run_bare clean (shown.goes (by simp)),
            Regex.Reader.step_class shown.current.unflagged] at done
          obtain ⟨reader, read, -⟩ := Regex.Parse.ok_of_bind done
          obtain ⟨⟨test, after⟩, read, -⟩ := Regex.Parse.ok_of_bind read
          exact ⟨_, _, test, after, read⟩
        obtain ⟨x, left, first, remains, asks⟩ := remains.begins ended closed classRead
        rcases shown.step first remains.sound position limit with
          ⟨-, refusal, refused⟩ | ⟨after, outer, f, last, -, later, same⟩
        · rw [refused] at done
          cases done
        · rw [same] at done
          obtain ⟨xs, lexes, asked⟩ := ih later remains done
          exact ⟨x :: xs, .cons first lexes, List.forall_mem_cons.mpr ⟨asks, asked⟩⟩

end CloudBuckets.Glob

namespace CloudBuckets.PathMatcher

open Regex (Lexes Stack)

variable {pattern : List Char} {tokens : List Glob.Token} {m : PathMatcher}

/-- The matcher of a pattern is the node that the expression for its tokens is read as. -/
theorem ofText_eq_ok_iff (scanned : Glob.tokens pattern = .ok tokens)
    : ofText (Form.glob.name ++ ':' :: pattern) = .ok m
      ↔ Regex.parse (tokens.flatMap (·.expression)) = .ok m.node := by
  have written : expression .glob pattern = .ok (tokens.flatMap (·.expression)) := by
    rw [expression, Glob.expression, scanned]
    rfl
  rw [ofText_glob_eq, written, Except.bind]
  cases Regex.parse (tokens.flatMap (·.expression)) with
  | error refusal => simp [Except.mapError, Except.bind]
  | ok node =>
      obtain ⟨other⟩ := m
      simp [Except.mapError, Except.bind]

theorem scanned_of_ofText (given : ofText (Form.glob.name ++ ':' :: pattern) = .ok m)
    : ∃ tokens, Glob.tokens pattern = .ok tokens := by
  obtain ⟨items, read⟩ := readable_of_ofText given
  exact ⟨_, read.tokens⟩

theorem ofText_regex (tokens : List Glob.Token)
    : Regex.Token.ofText (tokens.flatMap (·.expression)) = tokens.flatMap (·.regex) :=
  Glob.ofText_expressions fun token _ => token.sound

/-- A pattern that is accepted has an expression that falls into lexemes. -/
theorem lexes_of_ofText (scanned : Glob.tokens pattern = .ok tokens)
    (given : ofText (Form.glob.name ++ ':' :: pattern) = .ok m)
    : ∃ xs, Lexes (tokens.flatMap (·.regex)) xs ∧ ∀ x ∈ xs, Glob.Asks tokens x := by
  have passes := Glob.tokens_eq_ok_iff.mp scanned
  have read := (ofText_eq_ok_iff scanned).mp given
  have clean := Glob.regex_sound tokens
  rw [← ofText_regex] at clean
  rw [Regex.parse_eq_run clean, ofText_regex] at read
  apply Glob.lexes_of_run Stack.start_shown (.rest (List.suffix_refl _)) _ read
  exact fun token member => (passes.written token member).closed

/-- A pattern is accepted if the lexemes of its expression complete a language, which its matcher
decides then.
-/
theorem ofText_of_completes (scanned : Glob.tokens pattern = .ok tokens) {xs : List Regex.Lexeme}
    {l : Language Char} (lexes : Lexes (tokens.flatMap (·.regex)) xs)
    (completes : Stack.start.language? xs = some l)
    : ∃ m,
        ofText (Form.glob.name ++ ':' :: pattern) = .ok m
        ∧ ∀ path, m.accepts path ↔ path ∈ l := by
  rw [← ofText_regex] at lexes
  have amounts := Regex.parse_amounts lexes
  rw [completes] at amounts
  obtain ⟨node, read, denotes⟩ := amounts
  exact ⟨⟨node⟩, (ofText_eq_ok_iff scanned).mpr read, denotes.fullMatch⟩

/-- The lexemes of a pattern that is accepted complete a language. -/
theorem completes_of_ofText (scanned : Glob.tokens pattern = .ok tokens) {xs : List Regex.Lexeme}
    (lexes : Lexes (tokens.flatMap (·.regex)) xs)
    (given : ofText (Form.glob.name ++ ':' :: pattern) = .ok m)
    : ∃ l, Stack.start.language? xs = some l ∧ ∀ path, m.accepts path ↔ path ∈ l := by
  cases completes : Stack.start.language? xs with
  | none =>
      have amounts := Regex.parse_amounts ((ofText_regex tokens).symm ▸ lexes)
      rw [completes] at amounts
      obtain ⟨refusal, refused⟩ := amounts
      rw [ofText_eq_ok_iff scanned, refused] at given
      cases given
  | some l =>
      obtain ⟨found, same, accepts⟩ := ofText_of_completes scanned lexes completes
      rw [given] at same
      cases same
      exact ⟨l, rfl, accepts⟩

end CloudBuckets.PathMatcher
