import CloudBuckets.Proofs.Regex.Lexemes

/-! What plain expressions amount to. In place of expressions, a stack keeps the languages of what
has been read, with one layer for each open group. It takes one lexeme after the other, and gives
up just where the reader does.
-/

namespace CloudBuckets.Regex

open Computability

-----------------------------------------------------------------------------------------
-- Stacks of languages
-----------------------------------------------------------------------------------------

/-- The language of a piece of a sequence, and whether it may be repeated. -/
structure Part where
  language : Language Char
  role : Role

/-- The languages read in an open group. Branches and parts are kept with the last one first. -/
structure Layer where
  branches : List (Language Char)
  parts : List Part

namespace Layer

def empty : Layer where
  branches := []
  parts := []

/-- The language since the last bar. -/
def sequence (l : Layer) : Language Char :=
  (l.parts.reverse.map (·.language)).prod

/-- The language of a group. -/
def content (l : Layer) : Language Char :=
  (l.sequence :: l.branches).reverse.sum

def push (l : Layer) (language : Language Char) : Layer :=
  { l with parts := ⟨language, .atom⟩ :: l.parts }

def nextBranch (l : Layer) : Layer where
  branches := l.sequence :: l.branches
  parts := []

/-- Repeats the last part, if it is an atom. -/
def repeatLast? (l : Layer) : Option Layer :=
  match l.parts with
  | ⟨language, .atom⟩ :: before => some { l with parts := ⟨language∗, .repetition⟩ :: before }
  | _ => none

end Layer

/-- The languages read in all open groups. -/
structure Stack where
  current : Layer
  outer : List Layer

namespace Stack

def start : Stack where
  current := .empty
  outer := []

/-- What one more lexeme makes of a stack, unless it is out of place. -/
def step (s : Stack) : Lexeme → Option Stack
  | .star => s.current.repeatLast?.map fun layer => { s with current := layer }
  | .enter => some ⟨.empty, s.current :: s.outer⟩
  | .bar => some { s with current := s.current.nextBranch }
  | .leave =>
      match s.outer with
      | [] => none
      | around :: rest => some ⟨around.push s.current.content, rest⟩
  | x => x.test?.map fun test => { s with current := s.current.push test.language }

theorem step_test {s : Stack} {x : Lexeme} {test : CharTest} (is : x.test? = some test)
    : s.step x = some { s with current := s.current.push test.language } := by
  cases x <;> cases is <;> rfl

/-- The language of the whole, if no group is open. -/
def finish? (s : Stack) : Option (Language Char) :=
  if s.outer.isEmpty then some s.current.content else none

/-- The language that some more lexemes complete, if they do. -/
def language? (s : Stack) (xs : List Lexeme) : Option (Language Char) :=
  (xs.foldlM step s).bind finish?

theorem language?_cons (s : Stack) (x : Lexeme) (xs : List Lexeme)
    : s.language? (x :: xs) = (s.step x).bind fun after => after.language? xs := by
  rw [language?, List.foldlM_cons]
  cases s.step x <;> rfl

theorem language?_single {x : Lexeme} {test : CharTest} (is : x.test? = some test)
    : start.language? [x] = some test.language := by
  rw [language?_cons, step_test is]
  simp [language?, finish?, start, Layer.empty, Layer.push, Layer.content, Layer.sequence]

end Stack

-----------------------------------------------------------------------------------------
-- Frames that show layers
-----------------------------------------------------------------------------------------

/-- An open group without flags whose expressions have the languages of a layer. -/
structure Frame.Shows (f : Frame) (l : Layer) : Prop where
  unflagged : f.flags = []
  plain : f.opening = .whole ∨ f.opening = .bracket
  branches : List.Forall₂ (fun nodes l => Denotes (.ofList nodes) l) f.branches l.branches
  pieces : List.Forall₂
    (fun piece part => Denotes (.ofList piece.nodes) part.language ∧ piece.role = part.role)
    f.pieces l.parts

namespace Frame.Shows

variable {f around : Frame} {l outer : Layer}

theorem sequence (shows : f.Shows l) : Denotes (.ofList f.sequence) l.sequence := by
  rw [Frame.sequence, Layer.sequence]
  have each := List.rel_reverse shows.pieces
  generalize f.pieces.reverse = pieces, l.parts.reverse = parts at each ⊢
  induction each with
  | nil => exact .empty
  | cons piece rest ih =>
      rw [List.flatMap_cons, List.map_cons, List.prod_cons]
      exact piece.1.append ih

theorem content (shows : f.Shows l) : Denotes (.ofList f.content) l.content := by
  rw [Frame.content, shows.unflagged]
  apply Denotes.joinBranches
  · exact List.rel_reverse (.cons shows.sequence shows.branches)
  · simp

theorem empty (start : Nat) : Shows ⟨.bracket, start, [], [], []⟩ .empty where
  unflagged := rfl
  plain := Or.inr rfl
  branches := .nil
  pieces := .nil

theorem push {nodes : List Node} {language : Language Char} (shows : f.Shows l)
    (denoted : Denotes (.ofList nodes) language)
    : (f.push nodes .atom).Shows (l.push language) :=
  { shows with pieces := .cons ⟨denoted, rfl⟩ shows.pieces }

theorem nextBranch (shows : f.Shows l) : f.nextBranch.Shows l.nextBranch :=
  { shows with
    branches := .cons shows.sequence shows.branches
    pieces := .nil }

/-- Where the last piece is an atom, it can be repeated on both sides. -/
theorem repeatLast {nodes : List Node} {before : List Piece} (shows : f.Shows l)
    (last : f.pieces = ⟨nodes, .atom⟩ :: before)
    : ∃ layer,
        l.repeatLast? = some layer
        ∧ Shows
            { f with
              pieces := ⟨[.repetition .greedy 0 none (.ofList nodes)], .repetition⟩ :: before }
            layer := by
  obtain ⟨languages, parts⟩ := l
  have each := shows.pieces
  rw [last] at each
  cases each with
  | @cons _ part _ earlier same rest =>
      obtain ⟨language, role⟩ := part
      obtain ⟨denoted, rfl⟩ := same
      refine ⟨_, rfl, { shows with pieces := .cons ⟨?_, rfl⟩ rest }⟩
      exact denoted.star.singleton

theorem repeatLast_eq_none (shows : f.Shows l)
    (last : ∀ nodes before, f.pieces ≠ ⟨nodes, .atom⟩ :: before)
    : l.repeatLast? = none := by
  obtain ⟨languages, parts⟩ := l
  have each := shows.pieces
  generalize same : f.pieces = pieces at each
  cases each with
  | nil => rfl
  | @cons piece part before earlier first rest =>
      obtain ⟨nodes, role⟩ := piece
      obtain ⟨language, partRole⟩ := part
      obtain ⟨denoted, rfl⟩ := first
      cases role with
      | atom => exact absurd same (last nodes before)
      | anchor | repetition => rfl

end Frame.Shows

/-- A reader that stands before some tokens has read what a stack keeps. -/
structure Stack.ShownBy (s : Stack) (outer : List Frame) (f : Frame) : Prop where
  current : f.Shows s.current
  around : List.Forall₂ Frame.Shows outer s.outer

-----------------------------------------------------------------------------------------
-- One lexeme
-----------------------------------------------------------------------------------------

namespace Stack

variable {s : Stack} {outer : List Frame} {f : Frame} {tokens rest : List Token} {x : Lexeme}
variable {position limit : Nat}

/-- A stack takes a lexeme just if the reader reads on behind it. -/
def Follows (s : Stack) (x : Lexeme) (rest : List Token) (limit : Nat) (outcome : Parse Node)
    : Prop :=
  (s.step x = none ∧ ∃ refusal, outcome = .error refusal)
  ∨ ∃ after outer f position,
      s.step x = some after
      ∧ after.ShownBy outer f
      ∧ outcome = (Reader.bare outer f ⟨position, rest⟩).run limit

theorem Follows.test {test : CharTest} (shown : s.ShownBy outer f) (is : x.test? = some test)
    (position : Nat)
    : s.Follows x rest limit
        ((Reader.bare outer (f.push [.one test] .atom) ⟨position, rest⟩).run limit) := by
  have current := shown.current.push (Denotes.one test).singleton
  exact Or.inr ⟨_, _, _, position, step_test is, ⟨current, shown.around⟩, rfl⟩

theorem Follows.refuse {refusal : Refusal} (stuck : s.step x = none)
    : s.Follows x rest limit (.error refusal) :=
  Or.inl ⟨stuck, refusal, rfl⟩

/-- Nothing stops a reader without choices by groups but a parenthesis that closes no group. -/
theorem ShownBy.goes {token : Token} (shown : s.ShownBy outer f)
    (closing : token = .plain ')' → outer ≠ [])
    : (Reader.bare outer f ⟨position, token :: rest⟩).stop? token = none := by
  by_cases leaving : token = .plain ')'
  · subst leaving
    simp [Reader.stop?, Reader.bare, closing rfl]
  · by_cases bar : token = .plain '|'
    · subst bar
      rcases shown.current.plain with whole | bracket
      · simp [Reader.stop?, Reader.bare, whole]
      · simp [Reader.stop?, Reader.bare, bracket]
    · exact Reader.stop?_eq_none leaving bar

theorem ShownBy.star (shown : s.ShownBy outer f) (settled : Settled rest)
    (clean : .dangling ∉ rest)
    : s.Follows .star rest limit
        ((Reader.bare outer f ⟨position, .plain '*' :: rest⟩).run (limit + 1)) := by
  rw [Reader.run_bare clean (shown.goes (by simp)), Reader.step_star shown.current.unflagged]
  by_cases last : ∃ nodes before, f.pieces = ⟨nodes, .atom⟩ :: before
  · obtain ⟨nodes, before, last⟩ := last
    obtain ⟨layer, repeated, current⟩ := shown.current.repeatLast last
    have stepped : s.step .star = some { s with current := layer } := by simp [step, repeated]
    rw [Reader.repetition_star last settled]
    exact Or.inr ⟨_, _, _, _, stepped, ⟨current, shown.around⟩, rfl⟩
  · simp only [not_exists] at last
    have stuck : s.step .star = none := by
      simp [step, shown.current.repeatLast_eq_none last]
    obtain ⟨refusal, refused⟩ := Reader.repetition_star_refused last
    rw [refused]
    exact .refuse stuck

theorem ShownBy.bar (shown : s.ShownBy outer f) (clean : .dangling ∉ rest)
    : s.Follows .bar rest limit
        ((Reader.bare outer f ⟨position, .plain '|' :: rest⟩).run (limit + 1)) := by
  rw [Reader.run_bare clean (shown.goes (by simp)), Reader.step_bar shown.current.unflagged]
  have moved (c : Cursor)
      : (Reader.bare outer f ⟨position, .plain '|' :: rest⟩).bar c
        = .bare outer f.nextBranch c := by
    rcases shown.current.plain with whole | bracket
    · simp [Reader.bar, Reader.bare, whole, Frame.nextBranch]
    · simp [Reader.bar, Reader.bare, bracket, Frame.nextBranch]
  rw [moved]
  exact Or.inr ⟨_, _, _, _, rfl, ⟨shown.current.nextBranch, shown.around⟩, rfl⟩

theorem ShownBy.leave (shown : s.ShownBy outer f) (clean : .dangling ∉ rest)
    : s.Follows .leave rest limit
        ((Reader.bare outer f ⟨position, .plain ')' :: rest⟩).run (limit + 1)) := by
  obtain ⟨current, layers⟩ := s
  obtain ⟨here, around⟩ := shown
  cases around with
  | nil =>
      exact .refuse rfl
  | @cons frame layer frames layers shows around =>
      rw [Reader.run_bare clean (ShownBy.goes ⟨here, .cons shows around⟩ (by simp)),
        Reader.step_leave here.unflagged rfl]
      have moved (c : Cursor)
          : (Reader.bare (frame :: frames) f ⟨position, .plain ')' :: rest⟩).leave frame frames c
            = .bare frames (frame.push f.content .atom) c := by
        rcases here.plain with whole | bracket
        · simp [Reader.leave, Reader.closing, Reader.bare, whole]
        · simp [Reader.leave, Reader.closing, Reader.bare, bracket]
      rw [moved]
      exact Or.inr ⟨_, _, _, _, rfl, ⟨shows.push here.content, around⟩, rfl⟩

/-- The reader and the stack keep together over a lexeme. -/
theorem ShownBy.step (shown : s.ShownBy outer f) (first : Begins tokens x rest)
    (clean : .dangling ∉ rest) (position limit : Nat)
    : s.Follows x rest limit ((Reader.bare outer f ⟨position, tokens⟩).run (limit + 1)) := by
  have unflagged := shown.current.unflagged
  cases first with
  | @letter c _ ordinary =>
      have other : Token.plain c = .plain ')' → outer ≠ [] := by
        intro same
        rw [Token.plain.inj same] at ordinary
        exact absurd (by decide) ordinary
      rw [Reader.run_bare clean (shown.goes other), Reader.step_letter unflagged ordinary]
      exact .test shown rfl _
  | escaped _ sign =>
      obtain ⟨category, anchor, control⟩ := Escape.meaningless_of_sign sign
      rw [Char.isAlphanum, Bool.or_eq_false_iff] at sign
      rw [Reader.run_bare clean (shown.goes (by simp)),
        Reader.step_escaped unflagged category anchor control sign.1 sign.2]
      exact .test shown rfl _
  | dot =>
      rw [Reader.run_bare clean (shown.goes (by simp)), Reader.step_dot unflagged]
      exact .test shown rfl _
  | charClass _ reads =>
      obtain ⟨last, read⟩ := reads.reads position (position + 1) rest clean
      rw [Reader.run_bare (by simp [reads.clean, clean]) (shown.goes (by simp)),
        Reader.step_class unflagged, Token.text, List.length_singleton, read]
      exact .test shown rfl _
  | star settled => exact shown.star settled clean
  | enter =>
      rw [Reader.run_bare (by simpa using clean) (shown.goes (by simp)),
        Reader.step_enter unflagged clean]
      exact Or.inr ⟨_, _, _, _, rfl, ⟨.empty position, .cons shown.current shown.around⟩, rfl⟩
  | bar => exact shown.bar clean
  | leave => exact shown.leave clean

-----------------------------------------------------------------------------------------
-- Whole expressions
-----------------------------------------------------------------------------------------

/-- An expression with a given language has been read, or if there is none, it has been refused. -/
def Amounts (outcome : Parse Node) : Option (Language Char) → Prop
  | some l => ∃ node, outcome = .ok node ∧ Denotes node l
  | none => ∃ refusal, outcome = .error refusal

theorem ShownBy.finish (shown : s.ShownBy outer f) (position limit : Nat)
    : Amounts ((Reader.bare outer f ⟨position, []⟩).run (limit + 1)) s.finish? := by
  obtain ⟨current, layers⟩ := s
  obtain ⟨here, around⟩ := shown
  cases around with
  | nil =>
      obtain ⟨node, denotes, run⟩ :=
        (Completes.finish here.content).2 position (limit + 1) (Nat.zero_lt_succ limit)
      exact ⟨node, run, denotes⟩
  | cons => exact ⟨_, rfl⟩

/-- The reader and the stack keep together over all lexemes. -/
theorem ShownBy.run (shown : s.ShownBy outer f) {xs : List Lexeme} (lexes : Lexes tokens xs)
    (enough : tokens.length < limit) (position : Nat)
    : Amounts ((Reader.bare outer f ⟨position, tokens⟩).run limit) (s.language? xs) := by
  induction lexes generalizing s outer f limit position with
  | nil =>
      obtain ⟨limit, rfl⟩ := Nat.exists_eq_add_of_lt enough
      exact shown.finish position _
  | cons first more ih =>
      have shorter := first.length_lt
      obtain ⟨limit, rfl⟩ : ∃ fewer, limit = fewer + 1 := ⟨limit - 1, by omega⟩
      rw [language?_cons]
      rcases shown.step first more.sound position limit with
        ⟨stuck, refused⟩ | ⟨after, _, _, _, stepped, later, same⟩
      · rw [stuck]
        exact refused
      · rw [stepped, same]
        exact ih later (by omega) _

theorem start_shown : start.ShownBy [] ⟨.whole, 0, [], [], []⟩ where
  current := { Frame.Shows.empty 0 with plain := Or.inl rfl }
  around := .nil

end Stack

theorem parse_eq_run {text : List Char} (clean : .dangling ∉ Token.ofText text)
    : parse text
        = (Reader.bare [] ⟨.whole, 0, [], [], []⟩ ⟨0, Token.ofText text⟩).run
            ((Token.ofText text).length + 1) := by
  rw [parse, Cursor.start, Cursor.checked_eq clean]
  rfl

/-- A plain expression is read just if its lexemes complete a language, which it denotes then. -/
theorem parse_amounts {text : List Char} {xs : List Lexeme}
    (lexes : Lexes (Token.ofText text) xs)
    : Stack.Amounts (parse text) (Stack.start.language? xs) := by
  rw [parse_eq_run lexes.sound]
  exact Stack.start_shown.run lexes (Nat.lt_succ_self _) 0

end CloudBuckets.Regex
