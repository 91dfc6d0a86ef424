import Mathlib.Computability.Language

/-! The language of glob patterns, apart from any way to match them: how a pattern reads as a
sequence of items, which it does in one way at most, and which texts these match.
-/

namespace CloudBuckets.Glob

-----------------------------------------------------------------------------------------
-- Classes
-----------------------------------------------------------------------------------------

/-- A member of a class. -/
inductive ClassMember
  | one (c : Char)
  | range (first last : Char)
deriving DecidableEq

namespace ClassMember

def text : ClassMember → List Char
  | one c => [c]
  | range first last => [first, '-', last]

/-- The characters that stand for themselves in a class. -/
def Ordinary (c : Char) : Prop :=
  c ∉ ['\\', '[', ']', '^', '!', '-']

/-- The characters of a member stand for themselves, and those of a range are in order. -/
def Valid : ClassMember → Prop
  | one c => Ordinary c
  | range first last => Ordinary first ∧ Ordinary last ∧ first ≤ last

def Holds (c : Char) : ClassMember → Prop
  | one given => c = given
  | range first last => first ≤ c ∧ c ≤ last

end ClassMember

/-- What stands between the brackets of a class spells some members, or with an exclamation mark
before them, all characters but these.
-/
structure Spells (body : List Char) (negated : Bool) (members : List ClassMember) : Prop where
  text : body = (if negated then ['!'] else []) ++ members.flatMap (·.text)
  nonempty : members ≠ []
  valid : ∀ member ∈ members, member.Valid

-----------------------------------------------------------------------------------------
-- Items
-----------------------------------------------------------------------------------------

/-- An item without alternatives. -/
inductive Atom
  | letter (c : Char)
  | anyCharacter
  | anyPart
  | anything
  /-- A class, by what stands between the brackets. -/
  | charClass (body : List Char)

/-- An item of a pattern: an atom, or alternatives, each of which is a sequence of atoms. -/
inductive Item
  | atom (atom : Atom)
  | choice (branches : List (List Atom))

/-- The first atom of a pattern, with what is left behind it. In a group, braces do not open
another one, and outside one, closing braces and commas stand for themselves.
-/
inductive Atom.Reads (grouped : Bool) : List Char → Atom → List Char → Prop
  | escaped (c : Char) (rest : List Char) : Reads grouped ('\\' :: c :: rest) (.letter c) rest
  | anything (rest : List Char) : Reads grouped ('*' :: '*' :: rest) .anything rest
  | anyPart {rest : List Char} (single : rest.head? ≠ some '*')
    : Reads grouped ('*' :: rest) .anyPart rest
  | anyCharacter (rest : List Char) : Reads grouped ('?' :: rest) .anyCharacter rest
  | charClass {body : List Char} (rest : List Char) (first : ']' ∉ body)
    : Reads grouped ('[' :: (body ++ ']' :: rest)) (.charClass body) rest
  | bracket {rest : List Char} (unclosed : ']' ∉ rest)
    : Reads grouped ('[' :: rest) (.letter '[') rest
  | brace (rest : List Char) (inside : grouped = true)
    : Reads grouped ('\x7b' :: rest) (.letter '\x7b') rest
  | closing (rest : List Char) (outside : grouped = false)
    : Reads grouped ('\x7d' :: rest) (.letter '\x7d') rest
  | comma (rest : List Char) (outside : grouped = false)
    : Reads grouped (',' :: rest) (.letter ',') rest
  | letter {c : Char} (rest : List Char)
    (ordinary : c ∉ ['\\', '*', '?', '[', '\x7b', '\x7d', ','])
    : Reads grouped (c :: rest) (.letter c) rest

/-- The branches of a group from somewhere inside its first branch, with what is left behind the
group.
-/
inductive BranchesRead : List Char → List (List Atom) → List Char → Prop
  | close (rest : List Char) : BranchesRead ('\x7d' :: rest) [[]] rest
  | comma {text rest : List Char} {branches : List (List Atom)}
    (more : BranchesRead text branches rest)
    : BranchesRead (',' :: text) ([] :: branches) rest
  | atom {text after rest : List Char} {atom : Atom} {branch : List Atom}
    {branches : List (List Atom)} (first : atom.Reads true text after)
    (more : BranchesRead after (branch :: branches) rest)
    : BranchesRead text ((atom :: branch) :: branches) rest

/-- A pattern reads as a sequence of items. -/
inductive Reads : List Char → List Item → Prop
  | nil : Reads [] []
  | atom {text after : List Char} {atom : Atom} {items : List Item}
    (first : atom.Reads false text after) (more : Reads after items)
    : Reads text (.atom atom :: items)
  | choice {text after : List Char} {branches : List (List Atom)} {items : List Item}
    (group : BranchesRead text branches after) (more : Reads after items)
    : Reads ('\x7b' :: text) (.choice branches :: items)

-----------------------------------------------------------------------------------------
-- A pattern has one reading
-----------------------------------------------------------------------------------------

/-- A class ends at the first closing bracket. -/
theorem class_unique {body other rest after : List Char} (first : ']' ∉ body)
    (also : ']' ∉ other) (same : body ++ ']' :: rest = other ++ ']' :: after)
    : body = other ∧ rest = after := by
  induction body generalizing other with
  | nil =>
      cases other with
      | nil => exact ⟨rfl, (List.cons.inj same).2⟩
      | cons c other => simp [← (List.cons.inj same).1] at also
  | cons c body ih =>
      cases other with
      | nil => simp [(List.cons.inj same).1] at first
      | cons d other =>
          obtain ⟨rfl, tails⟩ := List.cons.inj same
          have inBody := List.not_mem_of_not_mem_cons first
          obtain ⟨rfl, rfl⟩ := ih inBody (List.not_mem_of_not_mem_cons also) tails
          exact ⟨rfl, rfl⟩

theorem Atom.Reads.unique {grouped : Bool} {text other rest after : List Char} {a b : Atom}
    (first : a.Reads grouped text rest) (second : b.Reads grouped other after)
    (same : text = other)
    : a = b ∧ rest = after := by
  cases first <;> cases second
  case charClass.charClass inBody _ inOther =>
    obtain ⟨rfl, rfl⟩ := class_unique inBody inOther (List.cons.inj same).2
    exact ⟨rfl, rfl⟩
  all_goals grind

/-- A sign for groups begins no atom where it is a sign. -/
theorem Atom.Reads.no_sign {grouped : Bool} {rest after : List Char} {c : Char} {atom : Atom}
    (read : atom.Reads grouped (c :: rest) after)
    (sign : if grouped then c = '\x7d' ∨ c = ',' else c = '\x7b')
    : False := by
  generalize same : c :: rest = text at read
  cases read <;> grind

theorem BranchesRead.unique {text rest after : List Char} {branches others : List (List Atom)}
    (first : BranchesRead text branches rest) (second : BranchesRead text others after)
    : branches = others ∧ rest = after := by
  induction first generalizing others after with
  | close rest =>
      cases second with
      | close => exact ⟨rfl, rfl⟩
      | atom read more => exact (read.no_sign (by simp)).elim
  | comma more ih =>
      cases second with
      | comma again =>
          obtain ⟨rfl, rfl⟩ := ih again
          exact ⟨rfl, rfl⟩
      | atom read more => exact (read.no_sign (by simp)).elim
  | atom read more ih =>
      cases second with
      | close | comma => exact (read.no_sign (by simp)).elim
      | atom again later =>
          obtain ⟨rfl, rfl⟩ := read.unique again rfl
          obtain ⟨same, rfl⟩ := ih later
          obtain ⟨rfl, rfl⟩ := List.cons.inj same
          exact ⟨rfl, rfl⟩

theorem Reads.unique {pattern : List Char} {items others : List Item}
    (first : Reads pattern items) (second : Reads pattern others)
    : items = others := by
  induction first generalizing others with
  | nil =>
      cases second with
      | nil => rfl
      | atom read more => cases read
  | atom read more ih =>
      cases second with
      | nil => cases read
      | atom again later =>
          obtain ⟨rfl, rfl⟩ := read.unique again rfl
          rw [ih later]
      | choice => exact (read.no_sign (by simp)).elim
  | choice group more ih =>
      cases second with
      | atom read => exact (read.no_sign (by simp)).elim
      | choice again later =>
          obtain ⟨rfl, rfl⟩ := group.unique again
          rw [ih later]

-----------------------------------------------------------------------------------------
-- Languages
-----------------------------------------------------------------------------------------

def Atom.language : Atom → Language Char
  | letter c => {[c]}
  | anyCharacter => {text | ∃ c, text = [c] ∧ c ≠ '/'}
  | anyPart => {text | '/' ∉ text}
  | anything => {text | '\n' ∉ text}
  | charClass body =>
      {text |
        ∃ c negated members,
          text = [c]
          ∧ Spells body negated members
          ∧ ((∃ member ∈ members, member.Holds c) ↔ negated = false)}

/-- The language of some atoms one after the other. -/
def sequenceLanguage (atoms : List Atom) : Language Char :=
  (atoms.map (·.language)).prod

/-- The language of some alternatives, the union of theirs. -/
def choiceLanguage (branches : List (List Atom)) : Language Char :=
  (branches.map sequenceLanguage).sum

def Item.language : Item → Language Char
  | atom given => given.language
  | choice branches => choiceLanguage branches

/-- The language of some items one after the other. -/
def language (items : List Item) : Language Char :=
  (items.map (·.language)).prod

/-- A class spells members, and so do all classes of an item. -/
def Atom.Spelled : Atom → Prop
  | charClass body => ∃ negated members, Spells body negated members
  | _ => True

def Item.Spelled : Item → Prop
  | atom given => given.Spelled
  | choice branches => ∀ branch ∈ branches, ∀ atom ∈ branch, atom.Spelled

end CloudBuckets.Glob
