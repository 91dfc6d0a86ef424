import CloudBuckets.Regex.Escape
import CloudBuckets.Regex.Flag
import CloudBuckets.Text.Identifier

/-! Reading regular expressions. The reader goes through the tokens once, with a stack of the
groups that are open; each step takes at least one token. -/

namespace CloudBuckets.Regex

/-- Whether a piece of an expression may be repeated. -/
inductive Role
  | atom
  | anchor
  | repetition
deriving DecidableEq, Repr

/-- A piece of a sequence: expressions that are repeated together. -/
structure Piece where
  nodes : List Node
  role : Role
deriving DecidableEq, Repr

/-- What a group is for. -/
inductive Opening
  /-- The whole expression. -/
  | whole
  | capture (group : Nat)
  /-- A group that only brackets its content. -/
  | bracket
  /-- A group with flags of its own. -/
  | scoped
  | atomic
  /-- A look-around. `outer` is the bound on group references that was in force around it. -/
  | look (direction : Direction) (negated : Bool) (outer : Option Nat)
  /-- A choice by a group. `present` is its first branch, once that has ended. -/
  | conditional (group : Nat) (present : Option (List Node))
deriving DecidableEq, Repr

/-- A group that is open. Branches and pieces are kept with the last one first. -/
structure Frame where
  opening : Opening
  start : Nat
  flags : Flags
  branches : List (List Node)
  pieces : List Piece
deriving DecidableEq, Repr

/-- A remembered group: its name, and once it is closed what it may match. -/
structure Group where
  name : Option (List Char)
  width : Option Width
deriving DecidableEq, Repr

namespace Node

/-- Whether an expression is a single condition on a character or a place. -/
def isUnit : Node → Bool
  | .one _ | .anchor _ | .backreference _ _ _ => true
  | _ => false

/-- The members of the class that matches what a single character or class matches. -/
def members? : Node → Option (List Member)
  | .one (.single _ code false) => some [.code code]
  | .one (.oneOf _ members false) => some members
  | _ => none

/-- Alternatives in the order in which they are tried. -/
def ofBranches : List (List Node) → Node
  | [] => .empty
  | [branch] => .ofList branch
  | branch :: rest => .alt (.ofList branch) (ofBranches rest)

/-- The units that all branches begin with, and what is left of the branches. -/
def splitCommon : List Node → List (List Node) → List Node × List (List Node)
  | [], others => ([], [] :: others)
  | unit :: rest, others =>
      if unit.isUnit && others.all (fun other => other.head? == some unit) then
        let (common, branches) := splitCommon rest (others.map (·.drop 1))
        (unit :: common, branches)
      else ([], (unit :: rest) :: others)

/-- The class that several branches of one character each amount to. -/
def classOf? (lettering : Lettering) (branches : List (List Node)) : Option Node := do
  let members ← branches.mapM fun
    | [node] => node.members?
    | _ => none
  return .one (.oneOf lettering members.flatten.eraseDups false)

/-- The sequence that branches amount to. Without regard to letter case, what the branches begin
with in common is taken out, and branches of one character each become a class. -/
def joinBranches (lettering : Lettering) : List (List Node) → List Node
  | [] => []
  | [branch] => branch
  | first :: others =>
      if lettering.foldCase then
        let (common, branches) := splitCommon first others
        common ++ [(classOf? lettering branches).getD (ofBranches branches)]
      else [ofBranches (first :: others)]

end Node

namespace Frame

/-- The sequence since the last bar. -/
def sequence (f : Frame) : List Node :=
  f.pieces.reverse.flatMap (·.nodes)

/-- The content of a group. -/
def content (f : Frame) : List Node :=
  Node.joinBranches f.flags.lettering (f.sequence :: f.branches).reverse

/-- The frame with one more piece. -/
def push (f : Frame) (nodes : List Node) (role : Role) : Frame :=
  { f with pieces := ⟨nodes, role⟩ :: f.pieces }

end Frame

/-- What has been read of an expression. -/
structure Reader where
  cursor : Cursor
  current : Frame
  outer : List Frame
  /-- The remembered groups, in the order in which they were opened. -/
  groups : List Group
  /-- Inside a look-behind, the first group that may not be referred to. -/
  bound : Option Nat
  /-- Groups chosen by number, each with the position of its first mention. -/
  mentions : List (Nat × Nat)
  /-- The flags for the whole expression. -/
  flags : Flags
deriving DecidableEq, Repr

namespace Reader

/-- The reader at the start of an expression. -/
def start (cursor : Cursor) : Reader where
  cursor := cursor
  current := ⟨.whole, 0, [], [], []⟩
  outer := []
  groups := []
  bound := none
  mentions := []
  flags := []

/-- Adds a piece to the open group. -/
def push (r : Reader) (cursor : Cursor) (node : Node) : Reader :=
  { r with cursor := cursor, current := r.current.push [node] .atom }

/-- Adds an anchor to the open group. -/
def pushAnchor (r : Reader) (cursor : Cursor) (anchor : Anchor) : Reader :=
  { r with cursor := cursor, current := r.current.push [.anchor anchor] .anchor }

/-- Adds a letter to the open group. -/
def pushCode (r : Reader) (cursor : Cursor) (code : Nat) : Reader :=
  r.push cursor (.one (.single r.current.flags.lettering code false))

/-- Opens a group. -/
def enter (r : Reader) (cursor : Cursor) (start : Nat) (opening : Opening) (flags : Flags)
    : Reader :=
  { r with
    cursor := cursor
    current := ⟨opening, start, flags, [], []⟩
    outer := r.current :: r.outer }

/-- What a group may match, if it is closed. -/
def closed? (r : Reader) (group : Nat) : Option Width :=
  if group = 0 then none else (r.groups[group - 1]?).bind (·.width)

/-- The number of a named group. -/
def groupNamed? (r : Reader) (name : List Char) : Option Nat :=
  (r.groups.findIdx? fun g => g.name == some name).map (· + 1)

/-- Inside a look-behind, only groups that were closed before it may be referred to. -/
def checkReference (r : Reader) (group position : Nat) : Parse Unit :=
  match r.bound with
  | none => .ok ()
  | some bound =>
      if (r.closed? group).isNone then fail .openGroup position
      else if bound ≤ group then fail .groupOfSameLookBehind position
      else .ok ()

/-- A reference to the text of a group. -/
def refer (r : Reader) (cursor : Cursor) (group openPosition : Nat) : Parse Reader :=
  match r.closed? group with
  | none => fail .openGroup openPosition
  | some width => do
      r.checkReference group cursor.position
      return r.push cursor (.backreference r.current.flags.lettering group width)

/-- A number behind a backslash: three octal digits name a character, and any other number of at
most two digits refers to a group. -/
def number (r : Reader) (first : Char) (after : Cursor) : Parse Reader := do
  let (second, c) ← after.take Char.isDigit 1
  let (third, last) ←
    if isOctalDigit first && second.any isOctalDigit then c.take isOctalDigit 1
    else pure ([], c)
  let digits := first :: second
  if third.isEmpty then
    let group := numberIn 10 digits
    if group ≤ r.groups.length then r.refer c group (c.position - (digits.length + 1))
    else fail (.noSuchGroup group) (c.position - digits.length)
  else
    let digits := digits ++ third
    let code := numberIn 8 digits
    if Escape.octalLimit < code then
      fail (.octalTooLarge ('\\' :: digits)) (last.position - (digits.length + 1))
    else return r.pushCode last code

/-- An escape outside a class. -/
def escape (r : Reader) (letter : Char) (after : Cursor) : Parse Reader := do
  let flags := r.current.flags
  match Escape.category? letter, Escape.anchor? (flags.contains .plain) letter with
  | some member, _ => return r.push after (.one (.oneOf flags.lettering [member] false))
  | none, some anchor => return r.pushAnchor after anchor
  | none, none =>
      if letter = '0' then
        let (more, c) ← after.take isOctalDigit 2
        return r.pushCode c (numberIn 8 more)
      else if letter.isDigit then r.number letter after
      else
        let (code, c) ← Escape.single letter after
        return r.pushCode c code

/-- A number of rounds; nothing is written for no bound. -/
def readRounds (digits : List Char) : Parse (Option Nat) :=
  if digits.isEmpty then .ok none
  else if Text.Numeral.digitLimit < digits.length then
    .error (.numberTooLong (.tooLong digits.length))
  else if Node.roundLimit ≤ numberIn 10 digits then .error .tooManyRounds
  else .ok (some (numberIn 10 digits))

/-- The bounds of a repetition sign. A brace that does not open bounds is no repetition sign. -/
def rounds? (sign : Char) (after : Cursor) : Parse (Option (Nat × Option Nat × Cursor)) := do
  match sign with
  | '?' => return some (0, some 1, after)
  | '*' => return some (0, none, after)
  | '+' => return some (1, none, after)
  | _ =>
      if after.sees '\x7d' then return none
      else
        let (low, c) ← after.takeAll Char.isDigit
        let (ranged, c) ← c.skip ','
        let (high, c) ← if ranged then c.takeAll Char.isDigit else pure (low, c)
        let (ended, c) ← c.skip '\x7d'
        if !ended then return none
        else
          let least := (← readRounds low).getD 0
          let most ← readRounds high
          if most.any (· < least) then fail .leastAboveMost after.position
          else return some (least, most, c)

/-- How a repetition chooses, by the sign that may follow it. -/
def greed (c : Cursor) : Parse (Greed × Cursor) := do
  let (lazy, c) ← c.skip '?'
  if lazy then return (.lazy, c)
  else
    let (possessive, c) ← c.skip '+'
    return (if possessive then .possessive else .greedy, c)

/-- A repetition sign at `position`. -/
def repetition (r : Reader) (sign : Char) (position : Nat) (after : Cursor) : Parse Reader := do
  match ← rounds? sign after with
  | none => return r.pushCode after sign.toNat
  | some (least, most, c) =>
      match r.current.pieces with
      | [] => fail .nothingToRepeat position
      | piece :: before =>
          match piece.role with
          | .anchor => fail .nothingToRepeat position
          | .repetition => fail .multipleRepeat position
          | .atom =>
              let (greed, c) ← greed c
              let node := Node.repetition greed least most (.ofList piece.nodes)
              let pieces := Piece.mk [node] .repetition :: before
              return { r with cursor := c, current := { r.current with pieces := pieces } }

/-- Opens a remembered group. -/
def enterCapture (r : Reader) (start : Nat) (name : Option (List Char)) (c : Cursor)
    : Parse Reader :=
  let group := r.groups.length + 1
  let opened := { r with groups := r.groups ++ [Group.mk name none] }
  match name with
  | none => .ok (opened.enter c start (.capture group) r.current.flags)
  | some text =>
      match r.groupNamed? text with
      | some earlier =>
          fail (.redefinedGroupName text group earlier) (c.position - (text.length + 1))
      | none => .ok (opened.enter c start (.capture group) r.current.flags)

/-- Opens a look-around. -/
def enterLook (r : Reader) (start : Nat) (direction : Direction) (negated : Bool) (c : Cursor)
    : Reader :=
  let entered := r.enter c start (.look direction negated r.bound) r.current.flags
  match direction with
  | .ahead => entered
  | .behind => { entered with bound := some (r.bound.getD (r.groups.length + 1)) }

/-- A reference to a group by its name. -/
def referByName (r : Reader) (c : Cursor) : Parse Reader := do
  let (name, c) ← c.name ')' "group name"
  let position := c.position - (name.length + 1)
  if !Text.isIdentifier name then fail (.badGroupName name) position
  else
    match r.groupNamed? name with
    | none => fail (.unknownGroupName name) position
    | some group => r.refer c group position

/-- The greatest number of groups. -/
def groupLimit : Nat := Nat.pow 2 31 - 1

/-- Opens a choice by a group, which is given by its name or its number. -/
def enterConditional (r : Reader) (start : Nat) (c : Cursor) : Parse Reader := do
  let (name, c) ← c.name ')' "group name"
  let position := c.position - (name.length + 1)
  let (group, numbered) ←
    if Text.isIdentifier name then
      match r.groupNamed? name with
      | none => fail (.unknownGroupName name) position
      | some group => pure (group, false)
    else
      match Text.Numeral.read name with
      | .error _ => fail (.badGroupName name) position
      | .ok number =>
          if number < 0 then fail (.badGroupName name) position
          else if number = 0 then fail .badGroupNumber position
          else if Int.ofNat groupLimit ≤ number then fail (.noSuchGroup number.toNat) position
          else pure (number.toNat, true)
  let known := r.mentions.any fun mention => mention.1 == group
  let mentions :=
    if numbered && !known then r.mentions ++ [(group, position)] else r.mentions
  r.checkReference group c.position
  return { r with mentions := mentions }.enter c start (.conditional group none) r.current.flags

/-- Moves behind the first token of a kind, and tells whether there was one. -/
def dropThrough (last : Token) (c : Cursor) : Nat → Parse (Bool × Cursor)
  | 0 => .ok (false, c)
  | limit + 1 => do
      match ← c.next with
      | (none, c) => return (false, c)
      | (some token, c) => if token = last then return (true, c) else dropThrough last c limit

/-- A group with flags of its own, or flags for the whole expression. The latter have to come
before everything else. -/
def flagged (r : Reader) (start : Nat) (token : Token) (c : Cursor) : Parse Reader := do
  match ← FlagGroup.read token c with
  | (.scoped on off, c) => return r.enter c start .scoped (r.current.flags.switch on off)
  | (.whole on, c) =>
      let first := r.current.opening = .whole && r.current.branches.isEmpty
      if first && r.current.pieces.isEmpty then
        let flags := r.flags ++ on
        return { r with cursor := c, flags := flags, current := { r.current with flags := flags } }
      else fail .lateFlags start

/-- What follows the opening of a group and a question mark. -/
def extension (r : Reader) (start : Nat) (c : Cursor) : Parse Reader := do
  match ← c.next with
  | (none, c) => fail .unexpectedEnd c.position
  | (some token, c) =>
      let unknown := fail (.unknownExtension token.text) (c.position - (token.text.length + 1))
      match token with
      | .plain 'P' =>
          let (named, c) ← c.skip '<'
          if named then
            let (name, c) ← c.name '>' "group name"
            if !Text.isIdentifier name then
              fail (.badGroupName name) (c.position - (name.length + 1))
            else r.enterCapture start (some name) c
          else
            let (reference, c) ← c.skip '='
            if reference then r.referByName c
            else
              match ← c.next with
              | (none, c) => fail .unexpectedEnd c.position
              | (some token, c) =>
                  fail (.unknownExtension ('P' :: token.text))
                    (c.position - (token.text.length + 2))
      | .plain ':' => return r.enter c start .bracket r.current.flags
      | .plain '#' =>
          let (ended, c) ← dropThrough (.plain ')') c (c.tokens.length + 1)
          if ended then return { r with cursor := c } else fail .unterminatedComment start
      | .plain '=' => return r.enterLook start .ahead false c
      | .plain '!' => return r.enterLook start .ahead true c
      | .plain '<' =>
          match ← c.next with
          | (none, c) => fail .unexpectedEnd c.position
          | (some (.plain '='), c) => return r.enterLook start .behind false c
          | (some (.plain '!'), c) => return r.enterLook start .behind true c
          | (some token, c) =>
              fail (.unknownExtension ('<' :: token.text)) (c.position - (token.text.length + 2))
      | .plain '(' => r.enterConditional start c
      | .plain '>' => return r.enter c start .atomic r.current.flags
      | .plain sign =>
          if sign = '-' || (Flag.ofChar? sign).isSome then r.flagged start token c else unknown
      | _ => unknown

/-- A bar: the branch ends. -/
def bar (r : Reader) (c : Cursor) : Reader :=
  let ended := { r.current with branches := r.current.sequence :: r.current.branches, pieces := [] }
  match r.current.opening with
  | .conditional group none =>
      let opening := Opening.conditional group (some r.current.sequence)
      { r with cursor := c, current := { r.current with opening := opening, pieces := [] } }
  | _ => { r with cursor := c, current := ended }

/-- The expressions that a closed group amounts to. -/
def closing (f : Frame) : List Node :=
  match f.opening with
  | .whole | .bracket => f.content
  | .capture group => [.capture group (.ofList f.content)]
  | .scoped => [.ofList f.content]
  | .atomic => [.atomic (.ofList f.content)]
  | .look direction negated _ => [.look direction negated (.ofList f.content)]
  | .conditional group none => [.conditional group (.ofList f.sequence) .empty]
  | .conditional group (some present) =>
      [.conditional group (.ofList present) (.ofList f.sequence)]

/-- Closes the open group, which becomes a piece of the group around it. -/
def leave (r : Reader) (around : Frame) (rest : List Frame) (c : Cursor) : Reader :=
  let closed := { r with
    cursor := c
    current := around.push (closing r.current) .atom
    outer := rest }
  match r.current.opening with
  | .capture group =>
      let width := (Node.ofList r.current.content).width
      { closed with groups := r.groups.modify (group - 1) fun g => { g with width := some width } }
  | .look _ _ outer => { closed with bound := outer }
  | _ => closed

/-- Reads what begins with a token at `position`; the cursor is already behind it. -/
def step (r : Reader) (token : Token) (position : Nat) (c : Cursor) : Parse Reader := do
  let flags := r.current.flags
  let verbose := flags.contains .verbose
  match token with
  | .dangling => fail .danglingEscape position
  | .escaped letter => r.escape letter c
  | .plain sign =>
      if verbose && Text.isPlainBlank sign then return { r with cursor := c }
      else if verbose && sign = '#' then
        let (_, c) ← dropThrough (.plain '\n') c (c.tokens.length + 1)
        return { r with cursor := c }
      else
        match Anchor.ofSign? (flags.contains .multiline) sign with
        | some anchor => return r.pushAnchor c anchor
        | none =>
            match sign with
            | '[' =>
                let (test, c) ← CharClass.read flags.lettering position c
                return r.push c (.one test)
            | '(' =>
                let (extended, c) ← c.skip '?'
                if extended then r.extension position c else r.enterCapture position none c
            | ')' =>
                match r.outer with
                | [] => fail .unbalancedParenthesis position
                | around :: rest => return r.leave around rest c
            | '|' => return r.bar c
            | '.' => return r.push c (.one (if flags.contains .dotAll then .any else .anyInLine))
            | _ =>
                if sign = '*' || sign = '+' || sign = '?' || sign = '\x7b' then
                  r.repetition sign position c
                else return r.pushCode c sign.toNat

/-- What forbids an expression although it is well formed: a look-behind over texts of different
lengths, or a repetition where a flag forbids them. -/
def objection? (flags : Flags) : Node → Option Problem
  | .repetition greed _ _ _ =>
      if flags.contains .template then some (.forbiddenRepeat greed) else none
  | .look .behind _ body =>
      if Node.roundLimit < body.width.least then some .farLookBehind
      else if body.width.least ≠ body.width.greatest then some .unevenLookBehind
      else none
  | _ => none

/-- The expression, when no token is left or an unexpected parenthesis has been met. -/
def finish (r : Reader) : Parse Node :=
  if r.flags.contains .plain && r.flags.contains .unicode then .error .mixedAlphabets
  else if !r.cursor.tokens.isEmpty then fail .unbalancedParenthesis r.cursor.position
  else
    match r.mentions.find? fun mention => r.groups.length < mention.1 with
    | some (group, position) => fail (.noSuchGroup group) position
    | none =>
        let node := Node.ofList r.current.content
        match node.inspect.findSome? (objection? r.flags) with
        | some problem => .error (.malformed problem none)
        | none => .ok node

/-- What stops the reading before a token: a parenthesis that closes nothing, or a third branch in
a choice by a group. -/
def stop? (r : Reader) (token : Token) : Option (Parse Node) :=
  if token = .plain ')' && r.outer.isEmpty then some r.finish
  else if token = .plain '|' then
    match r.current.opening with
    | .conditional _ (some _) => some (fail .tooManyBranches r.cursor.position)
    | _ => none
  else none

/-- Reads the remaining tokens, at most `limit` of them. -/
def run (r : Reader) : Nat → Parse Node
  | 0 => r.finish
  | limit + 1 =>
      match r.cursor.tokens with
      | [] => if r.outer.isEmpty then r.finish else fail .unterminatedGroup r.current.start
      | token :: _ =>
          match r.stop? token with
          | some outcome => outcome
          | none => do
              let (_, c) ← r.cursor.next
              (← r.step token r.cursor.position c).run limit

end Reader

/-- Reads a regular expression. -/
def parse (pattern : List Char) : Parse Node := do
  let cursor ← Cursor.start pattern
  (Reader.start cursor).run (cursor.tokens.length + 1)

end CloudBuckets.Regex
