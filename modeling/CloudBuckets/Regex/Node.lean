import CloudBuckets.Regex.CharTest

/-! The syntax of regular expressions, with all flags resolved, and the lengths of what an
expression may match. -/

namespace CloudBuckets.Regex

/-- A condition on a place in the text. -/
inductive Anchor
  | textStart
  | lineStart
  | textEnd
  /-- The end of the text, or of its last line. -/
  | lastLineEnd
  | lineEnd
  /-- Between a word character and none, words being those of ASCII if `plain` is set. -/
  | wordEdge (plain : Bool)
  /-- Not at a word edge. -/
  | notWordEdge (plain : Bool)
deriving DecidableEq, Repr

/-- How a repetition chooses its number of rounds. -/
inductive Greed
  /-- As many as possible, fewer on demand. -/
  | greedy
  /-- As few as possible, more on demand. -/
  | lazy
  /-- As many as possible, never fewer. -/
  | possessive
deriving DecidableEq, Repr

/-- The least and the greatest length of a match. -/
structure Width where
  least : Nat
  greatest : Nat
deriving DecidableEq, Repr

/-- Which way a look-around looks. -/
inductive Direction
  | ahead
  | behind
deriving DecidableEq, Repr

/-- A regular expression. -/
inductive Node
  /-- Matches the empty text. -/
  | empty
  | one (test : CharTest)
  | anchor (condition : Anchor)
  | seq (first rest : Node)
  | alt (first second : Node)
  /-- Between `least` and `most` rounds; no `most` means without bound. -/
  | repetition (greed : Greed) (least : Nat) (most : Option Nat) (body : Node)
  /-- A group whose text is remembered under a number. -/
  | capture (group : Nat) (body : Node)
  /-- Only the first match of the body counts. -/
  | atomic (body : Node)
  | look (direction : Direction) (negated : Bool) (body : Node)
  /-- The text of a group once more; `width` is what the group may match. -/
  | backreference (lettering : Lettering) (group : Nat) (width : Width)
  /-- One expression if the group has a text, another if it has none. -/
  | conditional (group : Nat) (present absent : Node)
deriving DecidableEq, Repr, Inhabited

namespace Width

/-- Longer matches are counted as this long. -/
def bound : Nat := Nat.pow 2 64

/-- A width with both lengths cut off at the bound. -/
def clip (least greatest : Nat) : Width :=
  ⟨min least bound, min greatest bound⟩

end Width

namespace Node

/-- The least number of rounds that counts as no bound at all. -/
def roundLimit : Nat := Nat.pow 2 32 - 1

/-- Expressions one after the other. -/
def ofList : List Node → Node :=
  List.foldr .seq .empty

/-- The lengths of the texts that an expression may match; a look-around takes up no text. -/
def width : Node → Width
  | .empty | .anchor _ | .look _ _ _ => ⟨0, 0⟩
  | .one _ => ⟨1, 1⟩
  | .seq first rest =>
      .clip (first.width.least + rest.width.least) (first.width.greatest + rest.width.greatest)
  | .alt first second =>
      ⟨min first.width.least second.width.least, max first.width.greatest second.width.greatest⟩
  | .repetition _ least most body =>
      let greatest :=
        match most with
        | some most => body.width.greatest * most
        | none => if body.width.greatest = 0 then 0 else Width.bound
      .clip (body.width.least * least) greatest
  | .capture _ body | .atomic body => body.width
  | .backreference _ _ width => width
  | .conditional _ present absent =>
      ⟨min present.width.least absent.width.least,
        max present.width.greatest absent.width.greatest⟩

/-- The repetitions and look-arounds of an expression, each before those inside it. -/
def inspect (node : Node) : List Node :=
  match node with
  | .empty | .one _ | .anchor _ | .backreference _ _ _ => []
  | .seq first second | .alt first second | .conditional _ first second =>
      first.inspect ++ second.inspect
  | .repetition _ _ _ body | .look _ _ body => node :: body.inspect
  | .capture _ body | .atomic body => body.inspect

end Node

end CloudBuckets.Regex
