namespace GherkinLint

namespace Pattern

structure Flags where
  ignoreCase : Bool
  multiLine : Bool
  dotAll : Bool
  /-- Blanks and comments in the pattern are left out. -/
  verbose : Bool
  ascii : Bool
  deriving DecidableEq, Repr

def Flags.none : Flags := ⟨false, false, false, false, false⟩

inductive Category where
  | digit
  | blank
  | word
  deriving DecidableEq, Repr

inductive SetItem where
  | range (first last : Nat)
  | category (category : Category) (negated : Bool)
  deriving DecidableEq, Repr

structure CharSet where
  items : List SetItem
  negated : Bool
  ignoreCase : Bool
  ascii : Bool
  deriving DecidableEq, Repr

inductive Edge where
  | textStart
  | lineStart
  | textEnd
  /-- The end, or the place before a line feed at the end. -/
  | lastLineEnd
  | lineEnd
  | word (ascii negated : Bool)
  deriving DecidableEq, Repr

inductive Greed where
  | greedy
  | reluctant
  /-- Greedy, and what it has taken is not given back. -/
  | possessive
  deriving DecidableEq, Repr

inductive Node where
  | empty
  | one (set : CharSet)
  | edge (edge : Edge)
  | seq (first second : Node)
  | alt (first second : Node)
  | times (least : Nat) (most : Option Nat) (greed : Greed) (body : Node)
  | group (index : Nat) (body : Node)
  | back (index : Nat) (ignoreCase : Bool)
  | ahead (negated : Bool) (body : Node)
  /-- A look behind; the body takes exactly `width` characters. -/
  | behind (negated : Bool) (width : Nat) (body : Node)
  | atomic (body : Node)
  /-- The first branch when the group has taken part in the match, the second one otherwise. -/
  | cond (index : Nat) (yes no : Node)
  deriving DecidableEq, Repr

end Pattern

structure Pattern where
  text : String
  node : Pattern.Node
  deriving DecidableEq, Repr

end GherkinLint
