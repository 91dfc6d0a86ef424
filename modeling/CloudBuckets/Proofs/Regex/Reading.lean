import CloudBuckets.Proofs.Regex.Language
import CloudBuckets.Regex.Parser

/-! How expressions without flags or remembered groups are read. What the reader makes of some
tokens is told by what they add to the open group, so that readings of parts are put together.
-/

namespace CloudBuckets.Regex

-----------------------------------------------------------------------------------------
-- Tokens
-----------------------------------------------------------------------------------------

theorem Token.ofText_cons {c : Char} (ordinary : c ≠ '\\') (rest : List Char)
    : ofText (c :: rest) = .plain c :: ofText rest := by
  cases rest <;> simp [ofText, ordinary]

@[simp]
theorem Token.ofText_nil : ofText [] = [] := rfl

@[simp]
theorem Token.ofText_dangling : ofText ['\\'] = [.dangling] := rfl

@[simp]
theorem Token.ofText_escape (c : Char) (rest : List Char)
    : ofText ('\\' :: c :: rest) = .escaped c :: ofText rest := rfl

/-- What comes neither at the end nor before another character as a backslash is none. -/
theorem Token.ordinary_of_unescaped {c : Char} {text : List Char}
    (lone : c = '\\' → text = [] → False)
    (escape : ∀ d rest, c = '\\' → text = d :: rest → False)
    : c ≠ '\\' := by
  intro same
  cases text with
  | nil => exact lone same rfl
  | cons d rest => exact escape d rest same rfl

/-- Texts are read apart unless the first one ends on a backslash that takes up more. -/
theorem Token.ofText_append {text : List Char} (rest : List Char)
    (sound : .dangling ∉ ofText text)
    : ofText (text ++ rest) = ofText text ++ ofText rest := by
  induction text using ofText.induct with
  | case1 => rfl
  | case2 => exact absurd List.mem_cons_self sound
  | case3 c text ih =>
      have later := ih (fun member => sound (List.mem_cons_of_mem _ member))
      simp [later]
  | case4 c text lone escape ih =>
      have ordinary := ordinary_of_unescaped lone escape
      rw [ofText_cons ordinary] at sound
      have later := ih (fun member => sound (List.mem_cons_of_mem _ member))
      rw [List.cons_append, ofText_cons ordinary, ofText_cons ordinary, later, List.cons_append]

theorem Token.ofText_plain {text : List Char} (ordinary : '\\' ∉ text)
    : ofText text = text.map .plain := by
  induction text with
  | nil => rfl
  | cons c text ih =>
      rw [List.mem_cons, not_or] at ordinary
      rw [ofText_cons (fun same => ordinary.1 same.symm), ih ordinary.2, List.map_cons]

/-- A backslash dangles only at the very end. -/
theorem Token.ofText_sound {text : List Char} (last : text.getLast? ≠ some '\\')
    : .dangling ∉ ofText text := by
  induction text using ofText.induct with
  | case1 => exact List.not_mem_nil
  | case2 => exact absurd rfl last
  | case3 c text ih =>
      cases text with
      | nil => simp
      | cons d text => simpa using ih (by simpa using last)
  | case4 c text lone escape ih =>
      have ordinary := ordinary_of_unescaped lone escape
      cases text with
      | nil => simp [ofText_cons ordinary]
      | cons d text => simpa [ofText_cons ordinary] using ih (by simpa using last)

/-- Behind a text without a certain character, this is the last token and the only one of its kind,
unless a backslash takes it up.
-/
theorem Token.ofText_concat {text : List Char} {c : Char} (other : c ∉ text) (sign : c ≠ '\\')
    : .plain c ∉ ofText (text ++ [c])
      ∨ ∃ front, ofText (text ++ [c]) = front ++ [.plain c] ∧ .plain c ∉ front := by
  induction text using ofText.induct with
  | case1 => exact Or.inr ⟨[], ofText_cons sign [], List.not_mem_nil⟩
  | case2 => exact Or.inl (by simp)
  | case3 d text ih =>
      simp only [List.mem_cons, not_or] at other
      rcases ih other.2.2 with never | ⟨front, same, never⟩
      · exact Or.inl (by simpa using never)
      · exact Or.inr ⟨.escaped d :: front, by simp [same], by simpa using never⟩
  | case4 d text lone escape ih =>
      have ordinary := ordinary_of_unescaped lone escape
      simp only [List.mem_cons, not_or] at other
      rw [List.cons_append, ofText_cons ordinary]
      rcases ih other.2 with never | ⟨front, same, never⟩
      · exact Or.inl (by simp [other.1, never])
      · exact Or.inr ⟨.plain d :: front, by simp [same], by simp [other.1, never]⟩

-----------------------------------------------------------------------------------------
-- Cursors
-----------------------------------------------------------------------------------------

@[simp]
theorem Parse.ok_bind {α β : Type} (value : α) (next : α → Parse β)
    : ((.ok value : Parse α) >>= next) = next value := rfl

theorem Parse.ok_of_bind {α β : Type} {value : Parse α} {next : α → Parse β} {result : β}
    (done : (value >>= next) = .ok result)
    : ∃ middle, value = .ok middle ∧ next middle = .ok result := by
  cases value with
  | error refusal => cases done
  | ok middle => exact ⟨middle, rfl, done⟩

namespace Cursor

variable {position : Nat} {rest : List Token}

theorem checked_eq (clean : .dangling ∉ rest)
    : checked ⟨position, rest⟩ = .ok ⟨position, rest⟩ := by
  cases rest with
  | nil => rfl
  | cons token rest =>
      cases token with
      | plain c | escaped c => rfl
      | dangling => exact absurd List.mem_cons_self clean

theorem next_cons (token : Token) (clean : .dangling ∉ rest)
    : next ⟨position, token :: rest⟩
        = .ok (some token, ⟨position + token.text.length, rest⟩) := by
  simp only [next, checked_eq clean, Parse.ok_bind]
  rfl

theorem skip_cons (c : Char) (clean : .dangling ∉ rest)
    : skip ⟨position, .plain c :: rest⟩ c = .ok (true, ⟨position + 1, rest⟩) := by
  simp [skip, sees, next_cons _ clean, Token.text]

theorem skip_other {c : Char} (other : rest.head? ≠ some (.plain c))
    : skip ⟨position, rest⟩ c = .ok (false, ⟨position, rest⟩) := by
  simp [skip, sees, other]

end Cursor

-----------------------------------------------------------------------------------------
-- Languages of several expressions
-----------------------------------------------------------------------------------------

theorem Denotes.append {nodes others : List Node} {l m : Language Char}
    (first : Denotes (.ofList nodes) l) (second : Denotes (.ofList others) m)
    : Denotes (.ofList (nodes ++ others)) (l * m) := by
  induction nodes generalizing l with
  | nil =>
      cases first
      rw [one_mul]
      exact second
  | cons node nodes ih =>
      cases first with
      | seq start finish =>
          rw [mul_assoc]
          exact .seq start (ih finish)

theorem Denotes.singleton {node : Node} {l : Language Char} (denoted : Denotes node l)
    : Denotes (.ofList [node]) l := by
  rw [← mul_one l]
  exact .seq denoted .empty

/-- The language of some branches, which are not empty. -/
theorem Denotes.joinBranches {branches : List (List Node)} {languages : List (Language Char)}
    (each : List.Forall₂ (fun nodes l => Denotes (.ofList nodes) l) branches languages)
    (nonempty : branches ≠ [])
    : Denotes (.ofList (Node.joinBranches (Flags.lettering []) branches)) languages.sum := by
  have choice : Denotes (Node.ofBranches branches) languages.sum := by
    induction each with
    | nil => exact absurd rfl nonempty
    | cons branch rest ih =>
        cases rest with
        | nil =>
            rw [List.sum_singleton]
            exact branch
        | cons second rest => exact .alt branch (ih (List.cons_ne_nil _ _))
  cases each with
  | nil => exact absurd rfl nonempty
  | cons branch rest =>
      cases rest with
      | nil => exact choice
      | cons second rest => exact choice.singleton

/-- Nothing forbids an expression that denotes a language. -/
theorem Denotes.unobjected {node : Node} {l : Language Char} (denoted : Denotes node l)
    : ∀ inner ∈ node.inspect, Reader.objection? [] inner = none := by
  induction denoted with
  | empty | one test => exact fun inner member => absurd member List.not_mem_nil
  | seq start finish first second | alt left right first second =>
      intro inner member
      rcases List.mem_append.mp member with member | member
      · exact first inner member
      · exact second inner member
  | star round ih =>
      intro inner member
      rcases List.mem_cons.mp member with rfl | member
      · rfl
      · exact ih inner member

-----------------------------------------------------------------------------------------
-- Reading on
-----------------------------------------------------------------------------------------

/-- A reader that has met no flags, no remembered groups and no mentions of groups. -/
def Reader.bare (outer : List Frame) (current : Frame) (cursor : Cursor) : Reader where
  cursor := cursor
  current := current
  outer := outer
  groups := []
  bound := none
  mentions := []
  flags := []

/-- A reader takes a token by its step, unless something stops it. -/
theorem Reader.run_bare {outer : List Frame} {current : Frame} {position : Nat} {token : Token}
    {rest : List Token} (clean : .dangling ∉ rest)
    (goes : (bare outer current ⟨position, token :: rest⟩).stop? token = none) (limit : Nat)
    : (bare outer current ⟨position, token :: rest⟩).run (limit + 1)
        = (bare outer current ⟨position, token :: rest⟩).step token position
              ⟨position + token.text.length, rest⟩
            >>= fun after => after.run limit := by
  have next : Cursor.next ⟨position, token :: rest⟩ = _ := Cursor.next_cons token clean
  rw [bare] at goes ⊢
  simp only [run, goes, next, Parse.ok_bind]

/-- What is left to read completes the open groups to an expression with a language. -/
def Completes (outer : List Frame) (current : Frame) (tokens : List Token)
    (l : Language Char) : Prop :=
  .dangling ∉ tokens
  ∧ ∀ position limit,
      tokens.length < limit
      → ∃ node,
          Denotes node l ∧ (Reader.bare outer current ⟨position, tokens⟩).run limit = .ok node

namespace Completes

variable {outer : List Frame} {current : Frame} {token : Token} {tokens : List Token}
variable {l : Language Char}

theorem finish (denoted : Denotes (.ofList current.content) l)
    : Completes [] current [] l := by
  refine ⟨List.not_mem_nil, ?_⟩
  intro position limit positive
  refine ⟨_, denoted, ?_⟩
  obtain ⟨limit, rfl⟩ := Nat.exists_eq_add_of_lt positive
  have allowed
      : (Node.ofList current.content).inspect.findSome? (Reader.objection? []) = none :=
    List.findSome?_eq_none_iff.mpr denoted.unobjected
  simp only [Reader.run, Reader.bare, Reader.finish]
  simp [allowed]

/-- What completes the reading behind a step of the reader completes it before that step. -/
theorem step (clean : .dangling ∉ token :: tokens)
    (goes : ∀ position, (Reader.bare outer current ⟨position, token :: tokens⟩).stop? token = none)
    (steps : ∀ position after, ∃ outer' current' last more,
      Completes outer' current' more l
      ∧ more.length ≤ tokens.length
      ∧ (Reader.bare outer current ⟨position, token :: tokens⟩).step token position
            ⟨after, tokens⟩
          = .ok (Reader.bare outer' current' ⟨last, more⟩))
    : Completes outer current (token :: tokens) l := by
  refine ⟨clean, ?_⟩
  intro position limit enough
  obtain ⟨limit, rfl⟩ : ∃ fewer, limit = fewer + 1 := ⟨limit - 1, by omega⟩
  have sound : .dangling ∉ tokens := fun member => clean (List.mem_cons_of_mem _ member)
  obtain ⟨outer', current', last, more, rest, fewer, steps⟩ :=
    steps position (position + token.text.length)
  rw [Reader.run_bare sound (goes position), steps, Parse.ok_bind]
  apply rest.2
  rw [List.length_cons] at enough
  omega

end Completes

-----------------------------------------------------------------------------------------
-- Steps without flags
-----------------------------------------------------------------------------------------

/-- The characters that do not stand for themselves outside a class. -/
def signs : List Char :=
  ['^', '$', '[', '(', ')', '|', '.', '*', '+', '?', '\x7b']

/-- Behind a backslash, only letters and digits have a meaning. -/
theorem Escape.meaningless_of_sign {c : Char} (sign : c.isAlphanum = false)
    : category? c = none ∧ anchor? false c = none ∧ control? c = none := by
  refine ⟨?_, ?_, ?_⟩
  · unfold category?
    split <;> first | rfl | cases sign
  · unfold anchor?
    split <;> first | rfl | cases sign
  · unfold control?
    split <;> first | rfl | cases sign

theorem Escape.single_eq_self {c : Char} (control : control? c = none)
    (letter : c.isAlpha = false) (after : Cursor)
    : Escape.single c after = .ok (c.toNat, after) := by
  have differs {other : Char} (alpha : other.isAlpha) : c ≠ other := by
    intro same
    rw [same, alpha] at letter
    cases letter
  have x : c ≠ 'x' := differs rfl
  have u : c ≠ 'u' := differs rfl
  have upperU : c ≠ 'U' := differs rfl
  have n : c ≠ 'N' := differs rfl
  simp [Escape.single, control, letter]

namespace Reader

variable {r : Reader} {position : Nat} {c : Char} {after : Cursor}

theorem stop?_eq_none {token : Token} (closing : token ≠ .plain ')') (bar : token ≠ .plain '|')
    : r.stop? token = none := by
  simp [stop?, closing, bar]

/-- With its flags written out, a reader's step on a given sign can be carried out. -/
theorem eq_unflagged (unflagged : r.current.flags = [])
    : r = { r with current := { r.current with flags := [] } } := by
  rw [← unflagged]

theorem step_letter (unflagged : r.current.flags = []) (ordinary : c ∉ signs)
    : r.step (.plain c) position after
        = .ok (r.push after (.one (.single (Flags.lettering []) c.toNat false))) := by
  simp only [signs, List.mem_cons, List.not_mem_nil, or_false, not_or] at ordinary
  simp [step, unflagged, Anchor.ofSign?, ordinary, pushCode]
  rfl

/-- A character behind a backslash that has no special meaning there stands for itself. -/
theorem step_escaped (unflagged : r.current.flags = []) (category : Escape.category? c = none)
    (anchor : Escape.anchor? false c = none) (control : Escape.control? c = none)
    (letter : c.isAlpha = false) (digit : c.isDigit = false)
    : r.step (.escaped c) position after
        = .ok (r.push after (.one (.single (Flags.lettering []) c.toNat false))) := by
  have zero : c ≠ '0' := by
    intro same
    rw [same] at digit
    cases digit
  change r.escape c after = _
  simp only [escape, unflagged, category]
  simp [anchor, zero, digit, Escape.single_eq_self control letter, pushCode, unflagged]

theorem step_dot (unflagged : r.current.flags = [])
    : r.step (.plain '.') position after = .ok (r.push after (.one .anyInLine)) := by
  rw [eq_unflagged unflagged]
  rfl

theorem step_class (unflagged : r.current.flags = [])
    : r.step (.plain '[') position after
        = (CharClass.read (Flags.lettering []) position after).bind fun read =>
            .ok (r.push read.2 (.one read.1)) := by
  rw [eq_unflagged unflagged]
  rfl

theorem step_star (unflagged : r.current.flags = [])
    : r.step (.plain '*') position after = r.repetition '*' position after := by
  rw [eq_unflagged unflagged]
  rfl

theorem step_bar (unflagged : r.current.flags = [])
    : r.step (.plain '|') position after = .ok (r.bar after) := by
  rw [eq_unflagged unflagged]
  rfl

theorem step_leave {around : Frame} {rest : List Frame} (unflagged : r.current.flags = [])
    (inGroup : r.outer = around :: rest)
    : r.step (.plain ')') position after = .ok (r.leave around rest after) := by
  obtain ⟨cursor, current, outer, groups, bound, mentions, flags⟩ := r
  obtain rfl : outer = around :: rest := inGroup
  rw [eq_unflagged unflagged]
  rfl

theorem extension_bracket (r : Reader) (start position : Nat) {more : List Token}
    (clean : .dangling ∉ more)
    : r.extension start ⟨position, .plain ':' :: more⟩
        = .ok (r.enter ⟨position + 1, more⟩ start .bracket r.current.flags) := by
  rw [extension, Cursor.next_cons _ clean]
  rfl

theorem step_open (unflagged : r.current.flags = [])
    : r.step (.plain '(') position after
        = (after.skip '?').bind fun marked =>
            if marked.1 then r.extension position marked.2
            else r.enterCapture position none marked.2 := by
  rw [eq_unflagged unflagged]
  rfl

theorem step_enter {more : List Token} {start : Nat} (unflagged : r.current.flags = [])
    (clean : .dangling ∉ more)
    : r.step (.plain '(') start ⟨position, .plain '?' :: .plain ':' :: more⟩
        = .ok (r.enter ⟨position + 1 + 1, more⟩ start .bracket []) := by
  have sound : .dangling ∉ .plain ':' :: more := by simp [clean]
  have mark
      : Cursor.skip ⟨position, .plain '?' :: .plain ':' :: more⟩ '?'
        = .ok (true, ⟨position + 1, .plain ':' :: more⟩) :=
    Cursor.skip_cons '?' sound
  rw [step_open unflagged, mark, ← unflagged]
  exact extension_bracket r start (position + 1) clean

end Reader

-----------------------------------------------------------------------------------------
-- Single characters
-----------------------------------------------------------------------------------------

/-- No sign comes first that would tell how a repetition before it chooses. -/
def Settled (tokens : List Token) : Prop :=
  tokens.head? ≠ some (.plain '?') ∧ tokens.head? ≠ some (.plain '+')

theorem Settled.append {tokens more : List Token} (first : Settled tokens)
    (rest : Settled more)
    : Settled (tokens ++ more) := by
  cases tokens with
  | nil => exact rest
  | cons token tokens => exact first

/-- Nothing that follows turns a star into a repetition of another kind. -/
theorem Reader.greed_settled {position : Nat} {tokens : List Token} (settled : Settled tokens)
    : greed ⟨position, tokens⟩ = .ok (.greedy, ⟨position, tokens⟩) := by
  simp only [greed, Cursor.skip_other settled.1, Cursor.skip_other settled.2, Parse.ok_bind]
  rfl

/-- A star repeats the last piece. -/
theorem Reader.repetition_star {outer : List Frame} {f : Frame} {nodes : List Node}
    {before : List Piece} {cursor : Cursor} {position after : Nat} {tokens : List Token}
    (last : f.pieces = ⟨nodes, .atom⟩ :: before) (settled : Settled tokens)
    : (bare outer f cursor).repetition '*' position ⟨after, tokens⟩
        = .ok
            (bare outer
              { f with
                pieces := ⟨[.repetition .greedy 0 none (.ofList nodes)], .repetition⟩ :: before }
              ⟨after, tokens⟩) := by
  simp [repetition, rounds?, bare, last, greed_settled settled]

theorem Reader.repetition_star_refused {outer : List Frame} {f : Frame} {cursor after : Cursor}
    {position : Nat} (last : ∀ nodes before, f.pieces ≠ ⟨nodes, .atom⟩ :: before)
    : ∃ refusal, (bare outer f cursor).repetition '*' position after = .error refusal := by
  cases pieces : f.pieces with
  | nil => exact ⟨_, by simp [repetition, rounds?, bare, pieces, fail]; rfl⟩
  | cons piece before =>
      obtain ⟨nodes, role⟩ := piece
      cases role with
      | atom => exact absurd pieces (last nodes before)
      | anchor | repetition => exact ⟨_, by simp [repetition, rounds?, bare, pieces, fail]; rfl⟩

/-- Some tokens are read as a test of one character. -/
structure Single (tokens : List Token) (test : CharTest) : Prop where
  sound : .dangling ∉ tokens
  settled : Settled tokens
  reads {outer : List Frame} {f : Frame} {more : List Token} {l : Language Char}
    (unflagged : f.flags = []) (rest : Completes outer (f.push [.one test] .atom) more l)
    : Completes outer f (tokens ++ more) l

/-- A token that the reader turns into a test in one step. -/
theorem Single.of_step {token : Token} {test : CharTest} (settled : Settled [token])
    (closing : token ≠ .plain ')') (bar : token ≠ .plain '|') (sound : token ≠ .dangling)
    (steps : ∀ (r : Reader) (position : Nat) (c : Cursor),
      r.current.flags = [] → r.step token position c = .ok (r.push c (.one test)))
    : Single [token] test := by
  constructor
  · simpa using sound.symm
  · exact settled
  · intro outer f more l unflagged rest
    apply Completes.step
    · simpa [sound.symm] using rest.1
    · intro position
      exact Reader.stop?_eq_none closing bar
    · intro position after
      exact ⟨_, _, after, more, rest, Nat.le_refl _, steps _ position _ unflagged⟩

theorem Single.letter {c : Char} (ordinary : c ∉ signs)
    : Single [.plain c] (.single (Flags.lettering []) c.toNat false) := by
  have differs := ordinary
  simp only [signs, List.mem_cons, List.not_mem_nil, or_false, not_or] at differs
  apply Single.of_step
  · simp [Settled, differs]
  · simp [differs]
  · simp [differs]
  · simp
  · intro r position after unflagged
    exact Reader.step_letter unflagged ordinary

theorem Single.anyInLine : Single [.plain '.'] .anyInLine := by
  apply Single.of_step
  · simp [Settled]
  · simp
  · simp
  · simp
  · intro r position after unflagged
    exact Reader.step_dot unflagged

theorem Single.escaped {c : Char} (category : Escape.category? c = none)
    (anchor : Escape.anchor? false c = none) (control : Escape.control? c = none)
    (letter : c.isAlpha = false) (digit : c.isDigit = false)
    : Single [.escaped c] (.single (Flags.lettering []) c.toNat false) := by
  apply Single.of_step
  · simp [Settled]
  · simp
  · simp
  · simp
  · intro r position after unflagged
    exact Reader.step_escaped unflagged category anchor control letter digit

/-- What stands between the brackets of a class, and the test that it is read as, at every place and
whatever follows.
-/
structure CharClass.Reads (body : List Token) (test : CharTest) : Prop where
  clean : .dangling ∉ body
  reads : ∀ (start position : Nat) (more : List Token), .dangling ∉ more →
    ∃ last,
      CharClass.read (Flags.lettering []) start ⟨position, body ++ .plain ']' :: more⟩
        = .ok (test, ⟨last, more⟩)

theorem Single.charClass {body : List Token} {test : CharTest} (reads : CharClass.Reads body test)
    : Single (.plain '[' :: (body ++ [.plain ']'])) test := by
  obtain ⟨sound, reads⟩ := reads
  constructor
  · simp [sound]
  · simp [Settled]
  · intro outer f more l unflagged rest
    rw [List.cons_append, List.append_assoc]
    apply Completes.step
    · simp [sound, rest.1]
    · intro position
      exact Reader.stop?_eq_none (by simp) (by simp)
    · intro position after
      obtain ⟨last, reads⟩ := reads position after more rest.1
      refine ⟨_, _, last, more, rest, ?_, ?_⟩
      · rw [List.length_append, List.singleton_append, List.length_cons]
        omega
      · rw [Reader.step_class unflagged, List.singleton_append, reads]
        rfl

-----------------------------------------------------------------------------------------
-- Sequences
-----------------------------------------------------------------------------------------

/-- The open group with some more pieces, the last one first. -/
def Frame.extend (f : Frame) (added : List Piece) : Frame :=
  { f with pieces := added ++ f.pieces }

theorem Frame.sequence_extend (f : Frame) (added : List Piece)
    : (f.extend added).sequence = f.sequence ++ added.reverse.flatMap (·.nodes) := by
  simp [sequence, extend]

/-- What some tokens add to the open group has a language. -/
structure Adds (tokens : List Token) (l : Language Char) : Prop where
  sound : .dangling ∉ tokens
  settled : Settled tokens
  pieces : ∃ added : List Piece,
    Denotes (.ofList (added.reverse.flatMap (·.nodes))) l
    ∧ ∀ {outer : List Frame} {f : Frame} {more : List Token} {m : Language Char},
        f.flags = []
        → Settled more
        → Completes outer (f.extend added) more m
        → Completes outer f (tokens ++ more) m

namespace Adds

variable {tokens others : List Token} {l m : Language Char} {test : CharTest}

theorem nil : Adds [] 1 := by
  constructor
  · exact List.not_mem_nil
  · simp [Settled]
  · exact ⟨[], .empty, fun _ _ rest => rest⟩

theorem append (first : Adds tokens l) (second : Adds others m)
    : Adds (tokens ++ others) (l * m) := by
  obtain ⟨added, denoted, reads⟩ := first.pieces
  obtain ⟨later, laterDenoted, laterReads⟩ := second.pieces
  constructor
  · simp [first.sound, second.sound]
  · exact first.settled.append second.settled
  · refine ⟨later ++ added, ?_, ?_⟩
    · rw [List.reverse_append, List.flatMap_append]
      exact denoted.append laterDenoted
    · intro outer f more n unflagged settled rest
      rw [List.append_assoc]
      apply reads unflagged (second.settled.append settled)
      apply laterReads (f := f.extend added) unflagged settled
      simpa [Frame.extend] using rest

theorem single (read : Single tokens test) : Adds tokens test.language := by
  constructor
  · exact read.sound
  · exact read.settled
  · refine ⟨[⟨[.one test], .atom⟩], (Denotes.one test).singleton, ?_⟩
    intro outer f more m unflagged settled rest
    exact read.reads unflagged rest

/-- A star repeats the test before it. -/
theorem star (read : Single tokens test)
    : Adds (tokens ++ [.plain '*']) {text | ∀ c ∈ text, test.accepts c} := by
  constructor
  · simp [read.sound]
  · exact read.settled.append (by simp [Settled])
  · let node : Node := .repetition .greedy 0 none (.ofList [.one test])
    have denoted : Denotes node {text | ∀ c ∈ text, test.accepts c} := by
      rw [← CharTest.language_kstar]
      exact .star (Denotes.one test).singleton
    refine ⟨[⟨[node], .repetition⟩], denoted.singleton, ?_⟩
    intro outer f more m unflagged settled rest
    rw [List.append_assoc]
    apply read.reads unflagged
    apply Completes.step
    · simpa using rest.1
    · intro position
      exact Reader.stop?_eq_none (by simp) (by simp)
    · intro position after
      refine ⟨_, _, after, more, rest, Nat.le_refl _, ?_⟩
      rw [Reader.step_star unflagged]
      exact Reader.repetition_star rfl settled

end Adds

-----------------------------------------------------------------------------------------
-- Groups
-----------------------------------------------------------------------------------------

/-- Some branches with bars between them, and a closing parenthesis. -/
def closedBranches : List (List Token) → List Token
  | [] => [.plain ')']
  | [branch] => branch ++ [.plain ')']
  | branch :: rest => branch ++ .plain '|' :: closedBranches rest

variable {outer : List Frame} {around f : Frame} {more : List Token} {l : Language Char}

/-- A closing parenthesis makes the branches of a group a piece of the group around it. -/
theorem Completes.close (bracket : f.opening = .bracket) (unflagged : f.flags = [])
    (rest : Completes outer
      (around.push (Node.joinBranches (Flags.lettering []) (f.branches.reverse ++ [f.sequence]))
        .atom)
      more l)
    : Completes (around :: outer) f (.plain ')' :: more) l := by
  apply Completes.step
  · simpa using rest.1
  · intro position
    simp [Reader.stop?, Reader.bare]
  · intro position after
    refine ⟨_, _, after, more, rest, Nat.le_refl _, ?_⟩
    rw [Reader.step_leave unflagged rfl]
    simp [Reader.bare, Reader.leave, bracket, Reader.closing, Frame.content, unflagged]

/-- The open group at the beginning of its next branch. -/
def Frame.nextBranch (f : Frame) : Frame :=
  { f with branches := f.sequence :: f.branches, pieces := [] }

theorem Completes.bar (bracket : f.opening = .bracket) (unflagged : f.flags = [])
    (rest : Completes outer f.nextBranch more l)
    : Completes outer f (.plain '|' :: more) l := by
  apply Completes.step
  · simpa using rest.1
  · intro position
    simp [Reader.stop?, Reader.bare, bracket]
  · intro position after
    refine ⟨_, _, after, more, rest, Nat.le_refl _, ?_⟩
    rw [Reader.step_bar unflagged]
    simp [Reader.bare, Reader.bar, bracket, Frame.nextBranch]

theorem Completes.enter (unflagged : f.flags = [])
    (rest : ∀ start, Completes (f :: outer) ⟨.bracket, start, [], [], []⟩ more l)
    : Completes outer f (.plain '(' :: .plain '?' :: .plain ':' :: more) l := by
  have clean : .dangling ∉ more := (rest 0).1
  apply Completes.step
  · simp [clean]
  · intro position
    exact Reader.stop?_eq_none (by simp) (by simp)
  · intro position after
    refine ⟨_, _, after + 1 + 1, more, rest position, ?_, Reader.step_enter unflagged clean⟩
    rw [List.length_cons, List.length_cons]
    omega

/-- What is read up to the closing parenthesis of a group. -/
theorem Adds.closedBranches {branches : List (List Token)} {languages : List (Language Char)}
    (each : List.Forall₂ Adds branches languages) (nonempty : branches ≠ [])
    : ∃ nodes,
        List.Forall₂ (fun nodes l => Denotes (.ofList nodes) l) nodes languages
        ∧ ∀ {outer : List Frame} {around f : Frame} {more : List Token} {m : Language Char},
            f.opening = .bracket
            → f.flags = []
            → f.pieces = []
            → Completes outer
                (around.push
                  (Node.joinBranches (Flags.lettering []) (f.branches.reverse ++ nodes))
                  .atom)
                more m
            → Completes (around :: outer) f (Regex.closedBranches branches ++ more) m := by
  induction each with
  | nil => exact absurd rfl nonempty
  | cons branch others ih =>
      obtain ⟨added, denoted, reads⟩ := branch.pieces
      have sequence {f : Frame} (empty : f.pieces = [])
          : (f.extend added).sequence = added.reverse.flatMap (·.nodes) := by
        rw [Frame.sequence_extend]
        simp [Frame.sequence, empty]
      cases others with
      | nil =>
          refine ⟨_, .cons denoted .nil, ?_⟩
          intro outer around f more m bracket unflagged empty rest
          rw [Regex.closedBranches, List.append_assoc]
          apply reads unflagged (by simp [Settled])
          apply Completes.close (f := f.extend added) bracket unflagged
          rw [sequence empty]
          exact rest
      | cons second others =>
          obtain ⟨nodes, denotes, later⟩ := ih (List.cons_ne_nil _ _)
          refine ⟨_, .cons denoted denotes, ?_⟩
          intro outer around f more m bracket unflagged empty rest
          rw [Regex.closedBranches, List.append_assoc, List.cons_append]
          · apply reads unflagged (by simp [Settled])
            apply Completes.bar (f := f.extend added) bracket unflagged
            apply later (f := (f.extend added).nextBranch) bracket unflagged rfl
            have branches
                : (f.extend added).nextBranch.branches.reverse
                  = f.branches.reverse ++ [added.reverse.flatMap (·.nodes)] := by
              simp only [Frame.nextBranch, List.reverse_cons, sequence empty]
              rfl
            rw [branches, List.append_assoc]
            exact rest
          · exact List.cons_ne_nil _ _

theorem closedBranches_sound {branches : List (List Token)} {languages : List (Language Char)}
    (each : List.Forall₂ Adds branches languages)
    : .dangling ∉ closedBranches branches := by
  induction each with
  | nil => simp [closedBranches]
  | cons branch others ih =>
      cases others with
      | nil => simp [closedBranches, branch.sound]
      | cons second others =>
          rw [closedBranches]
          · simp [branch.sound, ih]
          · exact List.cons_ne_nil _ _

theorem Adds.group {branches : List (List Token)} {languages : List (Language Char)}
    (each : List.Forall₂ Adds branches languages) (nonempty : branches ≠ [])
    : Adds (.plain '(' :: .plain '?' :: .plain ':' :: Regex.closedBranches branches)
        languages.sum := by
  obtain ⟨nodes, denotes, reads⟩ := Adds.closedBranches each nonempty
  have denoted
      : Denotes (.ofList (Node.joinBranches (Flags.lettering []) nodes)) languages.sum := by
    apply Denotes.joinBranches denotes
    intro empty
    subst empty
    cases denotes
    cases each
    exact nonempty rfl
  constructor
  · simpa using closedBranches_sound each
  · simp [Settled]
  · refine ⟨[⟨Node.joinBranches (Flags.lettering []) nodes, .atom⟩], by simpa using denoted, ?_⟩
    intro outer f more m unflagged settled rest
    apply Completes.enter unflagged
    intro start
    exact reads rfl rfl rfl rest

-----------------------------------------------------------------------------------------
-- Whole expressions
-----------------------------------------------------------------------------------------

/-- An expression whose tokens add up to a language is read as an expression for this language. -/
theorem Adds.parse {pattern : List Char} {l : Language Char}
    (adds : Adds (Token.ofText pattern) l)
    : ∃ node, Regex.parse pattern = .ok node ∧ Denotes node l := by
  obtain ⟨added, denoted, reads⟩ := adds.pieces
  let first : Frame := ⟨.whole, 0, [], [], []⟩
  have content : (first.extend added).content = added.reverse.flatMap (·.nodes) := by
    rw [Frame.content, Frame.sequence_extend]
    rfl
  have completes : Completes [] first (Token.ofText pattern ++ []) l := by
    apply reads rfl (by simp [Settled])
    apply Completes.finish
    rw [content]
    exact denoted
  rw [List.append_nil] at completes
  obtain ⟨node, denotes, run⟩ := completes.2 0 _ (Nat.lt_succ_self _)
  refine ⟨node, ?_, denotes⟩
  rw [Regex.parse, Cursor.start, Cursor.checked_eq adds.sound]
  exact run

end CloudBuckets.Regex
