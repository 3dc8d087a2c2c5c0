import GherkinLint.Pattern
import GherkinLint.Text.Letter

namespace GherkinLint.Pattern

open Text

def isAscii (c : Char) : Bool := c.toNat < 128

def Category.holds (ascii : Bool) (c : Char) (category : Category) : Bool :=
  (!ascii || isAscii c) &&
    match category with
    | .digit => isDigit c
    | .blank => isBlank c && !(ascii && 28 ≤ c.toNat && c.toNat ≤ 31)
    | .word => isWordChar c

def SetItem.holds (ascii : Bool) (c : Char) : SetItem → Bool
  | .range first last => first ≤ c.toNat && c.toNat ≤ last
  | .category kind negated => kind.holds ascii c != negated

def variants (ascii : Bool) (c : Char) : List Char :=
  if ascii then (if isAscii c then c :: (caseVariants c).filter isAscii else [c])
  else caseVariants c

def CharSet.holds (set : CharSet) (c : Char) : Bool :=
  let found :=
    if set.ignoreCase then
      set.items.any fun item ↦
        match item with
        | .range .. => (variants set.ascii c).any fun d ↦ item.holds set.ascii d
        | .category .. => item.holds set.ascii (toSmall c)
    else set.items.any (SetItem.holds set.ascii c)
  found != set.negated

structure Place where
  /-- The text before the position, backwards. -/
  before : List Char
  after : List Char
  groups : List (Nat × List Char)
  deriving DecidableEq, Repr

def isWordAt (ascii : Bool) (c : Option Char) : Bool := c.any (Category.word.holds ascii)

def Edge.holds (place : Place) : Edge → Bool
  | textStart => place.before.isEmpty
  | lineStart => place.before.head?.all (· == '\n')
  | textEnd => place.after.isEmpty
  | lastLineEnd => place.after.isEmpty || place.after == ['\n']
  | lineEnd => place.after.head?.all (· == '\n')
  | word ascii negated =>
    !(place.before.isEmpty && place.after.isEmpty) &&
      ((isWordAt ascii place.before.head? != isWordAt ascii place.after.head?) != negated)

namespace Place

def step? (place : Place) (set : CharSet) : Option Place :=
  match place.after with
  | c :: after =>
    if set.holds c then some { place with before := c :: place.before, after } else none
  | [] => none

def forward (place : Place) (n : Nat) : Place :=
  { place with
    before := (place.after.take n).reverse ++ place.before
    after := place.after.drop n }

def back? (place : Place) (n : Nat) : Option Place :=
  if place.before.length < n then none
  else some { place with
    before := place.before.drop n
    after := (place.before.take n).reverse ++ place.after }

def repeat? (place : Place) (ignoreCase : Bool) (text : List Char) : Option Place :=
  let next := place.after.take text.length
  let same := if ignoreCase then next.map toSmall == text.map toSmall else next == text
  if same then some (place.forward text.length) else none

def taken (start stop : Place) : List Char :=
  start.after.take (start.after.length - stop.after.length)

def setGroup (place : Place) (index : Nat) (text : List Char) : Place :=
  { place with groups := (index, text) :: place.groups.filter (·.1 ≠ index) }

end Place

/-- Repetition of a part that matches as `body` says: `need` times at least, and then as often as
`more` allows. A repetition that takes nothing is the last one. -/
def repeated (body : Place → List Place) (reluctant : Bool) :
    Nat → Nat → Option Nat → Place → List Place
  | 0, _, _, _ => []
  | fuel + 1, need + 1, more, place =>
    ((body place).flatMap (repeated body reluctant fuel need more)).eraseDups
  | fuel + 1, 0, more, place =>
    let further :=
      if more = some 0 then []
      else ((body place).flatMap fun next ↦
        if next.after.length = place.after.length then [next]
        else repeated body reluctant fuel 0 (more.map (· - 1)) next)
    (if reluctant then place :: further else further ++ [place]).eraseDups

/-- The positions behind the matches of a node, the preferred ones first. -/
def Node.ends : Node → Place → List Place
  | empty, place => [place]
  | one set, place => (place.step? set).toList
  | edge e, place => if e.holds place then [place] else []
  | seq first second, place => ((first.ends place).flatMap second.ends).eraseDups
  | alt first second, place => (first.ends place ++ second.ends place).eraseDups
  | times least most greed body, place =>
    let fuel := least + place.after.length + 2
    let found :=
      repeated body.ends (greed = .reluctant) fuel least (most.map (· - least)) place
    if greed = .possessive then found.take 1 else found
  | group index body, place =>
    (body.ends place).map fun stop ↦ stop.setGroup index (place.taken stop)
  | back index ignoreCase, place =>
    match place.groups.lookup index with
    | some text => (place.repeat? ignoreCase text).toList
    | none => []
  | ahead negated body, place =>
    match body.ends place with
    | [] => if negated then [place] else []
    | stop :: _ => if negated then [] else [{ place with groups := stop.groups }]
  | behind negated width body, place =>
    match (place.back? width).map body.ends with
    | some (stop :: _) => if negated then [] else [{ place with groups := stop.groups }]
    | _ => if negated then [place] else []
  | atomic body, place => (body.ends place).take 1
  | cond index yes no, place =>
    if (place.groups.lookup index).isSome then yes.ends place else no.ends place

def Node.occurs (node : Node) (before : List Char) : List Char → Bool
  | [] => !(node.ends ⟨before, [], []⟩).isEmpty
  | c :: after =>
    !(node.ends ⟨before, c :: after, []⟩).isEmpty || node.occurs (c :: before) after

def search (pattern : Pattern) (text : String) : Bool := pattern.node.occurs [] text.toList

end GherkinLint.Pattern
