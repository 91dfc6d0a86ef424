import CloudBuckets.Regex.Node
import CloudBuckets.Text.Word

/-! Matching by backtracking. An expression is tried at a place in the text, and what follows it
is given as a function of the place where it ends; the first way that lets the rest succeed
counts. -/

namespace CloudBuckets.Regex

/-- A place in a text, with the groups remembered so far. The part before it is kept with the last
character first. Group marks are positions in the text, the latest first. -/
structure Place where
  before : List Char
  rest : List Char
  opened : List (Nat × Nat)
  closed : List (Nat × Nat)
deriving DecidableEq, Repr

namespace Place

/-- The start of a text. -/
def start (text : List Char) : Place := ⟨[], text, [], []⟩

/-- The number of characters before a place. -/
def position (p : Place) : Nat := p.before.length

/-- The place behind one character that passes a test. -/
def advance? (p : Place) (accepts : Char → Bool) : Option Place :=
  match p.rest with
  | [] => none
  | c :: rest => if accepts c then some { p with before := c :: p.before, rest := rest } else none

/-- The place that lies a number of characters further back. -/
def back? (p : Place) (count : Nat) : Option Place :=
  if p.before.length < count then none
  else
    some { p with
      before := p.before.drop count
      rest := (p.before.take count).reverse ++ p.rest }

/-- Marks where a group begins. -/
def openGroup (p : Place) (group : Nat) : Place :=
  { p with opened := (group, p.position) :: p.opened }

/-- Marks where a group ends. -/
def closeGroup (p : Place) (group : Nat) : Place :=
  { p with closed := (group, p.position) :: p.closed }

/-- Where a group begins and ends. A group has a text once it has ended, and while it is entered
again only if its last end does not lie before the new beginning. -/
def span? (p : Place) (group : Nat) : Option (Nat × Nat) :=
  match p.opened.lookup group, p.closed.lookup group with
  | some first, some last => if first ≤ last then some (first, last) else none
  | _, _ => none

/-- The text of a group. -/
def groupText? (p : Place) (group : Nat) : Option (List Char) :=
  (p.span? group).map fun (first, last) =>
    ((p.before.reverse ++ p.rest).drop first).take (last - first)

/-- The place behind a text that agrees with a given one letter by letter. -/
def readBack? (l : Lettering) : List Char → Place → Option Place
  | [], p => some p
  | c :: rest, p =>
      (p.advance? fun d => l.fold d.toNat == l.fold c.toNat).bind (readBack? l rest)

/-- Whether a word character stands on one side of a place but not on the other. -/
def atWordEdge (p : Place) (plain : Bool) : Bool :=
  let isWord (c : Option Char) : Bool := c.any fun c => Category.word.contains plain c
  isWord p.before.head? != isWord p.rest.head?

/-- Whether the text is empty. -/
def textIsEmpty (p : Place) : Bool := p.before.isEmpty && p.rest.isEmpty

/-- Whether an anchor holds at a place. In an empty text there is neither a word edge nor a place
that is none. -/
def satisfies (p : Place) : Anchor → Bool
  | .textStart => p.before.isEmpty
  | .lineStart => p.before.isEmpty || p.before.head? == some '\n'
  | .textEnd => p.rest.isEmpty
  | .lastLineEnd => p.rest.isEmpty || p.rest == ['\n']
  | .lineEnd => p.rest.isEmpty || p.rest.head? == some '\n'
  | .wordEdge plain => !p.textIsEmpty && p.atWordEdge plain
  | .notWordEdge plain => !p.textIsEmpty && !p.atWordEdge plain

end Place

/-- What is tried after an expression. -/
abbrev Continuation := Place → Option Place

/-- A way to match an expression and then what follows it. -/
abbrev Strategy := Continuation → Continuation

namespace Strategy

/-- Exactly so many rounds. -/
def times (round : Strategy) (k : Continuation) : Nat → Continuation
  | 0 => k
  | rounds + 1 => round (times round k rounds)

/-- At most so many rounds, preferring more. A round that would begin where the last one began is
not tried. -/
def upTo (round : Strategy) (k : Continuation) : Nat → Option Nat → Continuation
  | 0, _, p => k p
  | rounds + 1, last, p =>
      if last = some p.position then k p
      else
        match round (upTo round k rounds (some p.position)) p with
        | some q => some q
        | none => k p

/-- At most so many rounds, preferring fewer. -/
def atLast (round : Strategy) (k : Continuation) : Nat → Option Nat → Continuation
  | 0, _, p => k p
  | rounds + 1, last, p =>
      match k p with
      | some q => some q
      | none =>
          if last = some p.position then none
          else round (atLast round k rounds (some p.position)) p

/-- Exactly so many rounds, each in the first way in which it succeeds on its own. -/
def settle (round : Strategy) : Nat → Continuation
  | 0, p => some p
  | rounds + 1, p => (round some p).bind (settle round rounds)

/-- As many rounds as succeed, but at most so many, each in the first way. -/
def exhaust (round : Strategy) : Nat → Option Nat → Place → Place
  | 0, _, p => p
  | rounds + 1, last, p =>
      if last = some p.position then p
      else
        match round some p with
        | some after => exhaust round rounds (some p.position) after
        | none => p

/-- The number of rounds beyond the least that need to be considered at a place: every round but
the last takes up a character. -/
def optional (least : Nat) (most : Option Nat) (p : Place) : Nat :=
  match most with
  | some most => most - least
  | none => p.rest.length + 1

/-- A repetition. -/
def repetition (greed : Greed) (least : Nat) (most : Option Nat) (round : Strategy) : Strategy :=
  fun k p =>
    match greed with
    | .greedy => times round (fun q => upTo round k (optional least most q) none q) least p
    | .lazy => times round (fun q => atLast round k (optional least most q) none q) least p
    | .possessive =>
        (settle round least p).bind fun q => k (exhaust round (optional least most q) none q)

end Strategy

/-- How an expression is matched. -/
def Node.strategy : Node → Strategy
  | .empty, k, p => k p
  | .one test, k, p => (p.advance? fun c => test.accepts c).bind k
  | .anchor condition, k, p => if p.satisfies condition then k p else none
  | .seq first rest, k, p => first.strategy (rest.strategy k) p
  | .alt first second, k, p =>
      match first.strategy k p with
      | some q => some q
      | none => second.strategy k p
  | .repetition greed least most body, k, p =>
      Strategy.repetition greed least most body.strategy k p
  | .capture group body, k, p =>
      body.strategy (fun q => k (q.closeGroup group)) (p.openGroup group)
  | .atomic body, k, p => (body.strategy some p).bind k
  | .look direction negated body, k, p =>
      let outset :=
        match direction with
        | .ahead => some p
        | .behind => p.back? body.width.least
      match negated, outset.bind (body.strategy some) with
      | false, some q => k { p with opened := q.opened, closed := q.closed }
      | false, none => none
      | true, some _ => none
      | true, none => k p
  | .backreference lettering group _, k, p =>
      ((p.groupText? group).bind fun text => Place.readBack? lettering text p).bind k
  | .conditional group present absent, k, p =>
      if (p.span? group).isSome then present.strategy k p else absent.strategy k p

/-- Whether an expression matches a text from its start to its end. -/
def Node.fullMatch (node : Node) (text : List Char) : Bool :=
  (node.strategy (fun p => if p.rest.isEmpty then some p else none) (.start text)).isSome

end CloudBuckets.Regex
