import GherkinLint.Pattern
import GherkinLint.Text.Letter
import GherkinLint.Text.Quoted

namespace GherkinLint.Pattern

inductive Cause where
  | endsInEscape
  | badEscape (written : String)
  | incompleteEscape (written : String)
  | octalTooLarge (written : String)
  | missingBrace
  | unknownCharacter (name : String)
  | openSet
  | badRange (first last : String)
  | nothingToRepeat
  | multipleRepeat
  | reversedRepeat
  | openGroup
  | openComment
  | unbalancedParenthesis
  | endOfPattern
  | unknownExtension (written : String)
  | missingName (what : String)
  | openName (terminator : Char)
  | badGroupName (name : String)
  | repeatedGroupName (name : String) (index earlier : Nat)
  | unknownGroupName (name : String)
  | badGroupNumber
  | invalidReference (index : Nat)
  | referenceToOpenGroup
  | referenceInLookBehind
  | tooManyBranches
  | lateFlags
  | unknownFlag
  | missingFlag
  | missingColon
  | missingFlagsEnd
  | localeFlag
  | incompatibleFlags
  | turnsOnGlobalFlag
  | turnsOffTypeFlag
  | turnsOffGlobalFlag
  | flagOnAndOff
  | lookBehindWidth
  | repeatTooLarge
  | typeFlagsTogether
  | templateRepeat (greed : Greed)
  deriving DecidableEq, Repr

def Greed.name : Greed → String
  | greedy => "MAX_REPEAT"
  | reluctant => "MIN_REPEAT"
  | possessive => "POSSESSIVE_REPEAT"

def Cause.message : Cause → String
  | endsInEscape => "bad escape (end of pattern)"
  | badEscape written => "bad escape " ++ written
  | incompleteEscape written => "incomplete escape " ++ written
  | octalTooLarge written => "octal escape value " ++ written ++ " outside of range 0-0o377"
  | missingBrace => "missing \x7b"
  | unknownCharacter name => "undefined character name " ++ Text.quote name
  | openSet => "unterminated character set"
  | badRange first last => "bad character range " ++ first ++ "-" ++ last
  | nothingToRepeat => "nothing to repeat"
  | multipleRepeat => "multiple repeat"
  | reversedRepeat => "min repeat greater than max repeat"
  | openGroup => "missing ), unterminated subpattern"
  | openComment => "missing ), unterminated comment"
  | unbalancedParenthesis => "unbalanced parenthesis"
  | endOfPattern => "unexpected end of pattern"
  | unknownExtension written => "unknown extension ?" ++ written
  | missingName what => "missing " ++ what
  | openName terminator => "missing " ++ terminator.toString ++ ", unterminated name"
  | badGroupName name => "bad character in group name " ++ Text.quote name
  | repeatedGroupName name index earlier =>
    "redefinition of group name " ++ Text.quote name ++ " as group " ++ toString index ++
      "; was group " ++ toString earlier
  | unknownGroupName name => "unknown group name " ++ Text.quote name
  | badGroupNumber => "bad group number"
  | invalidReference index => "invalid group reference " ++ toString index
  | referenceToOpenGroup => "cannot refer to an open group"
  | referenceInLookBehind => "cannot refer to group defined in the same lookbehind subpattern"
  | tooManyBranches => "conditional backref with more than two branches"
  | lateFlags => "global flags not at the start of the expression"
  | unknownFlag => "unknown flag"
  | missingFlag => "missing flag"
  | missingColon => "missing :"
  | missingFlagsEnd => "missing -, : or )"
  | localeFlag => "bad inline flags: cannot use 'L' flag with a str pattern"
  | incompatibleFlags => "bad inline flags: flags 'a', 'u' and 'L' are incompatible"
  | turnsOnGlobalFlag => "bad inline flags: cannot turn on global flag"
  | turnsOffTypeFlag => "bad inline flags: cannot turn off flags 'a', 'u' and 'L'"
  | turnsOffGlobalFlag => "bad inline flags: cannot turn off global flag"
  | flagOnAndOff => "bad inline flags: flag turned on and off"
  | lookBehindWidth => "look-behind requires fixed-width pattern"
  | repeatTooLarge => "the repetition number is too large"
  | typeFlagsTogether => "ASCII and UNICODE flags are incompatible"
  | templateRepeat greed => "internal: unsupported template operator " ++ greed.name

/-- Whether the cause makes the pattern invalid. What goes beyond the bounds of an engine does not:
the pattern is well-formed, and still cannot be used. -/
def Cause.isInvalid : Cause → Bool
  | repeatTooLarge => false
  | typeFlagsTogether => false
  | _ => true

/-- A cause, with the number of characters before the place where it shows. What only the engine
finds fault with shows at no place. -/
structure Fault where
  cause : Cause
  position : Option Nat
  deriving DecidableEq, Repr

def Fault.message (pattern : List Char) (fault : Fault) : String :=
  match fault.position with
  | none => fault.cause.message
  | some position =>
    let before := pattern.take position
    let line := before.count '\n' + 1
    let column := (before.reverse.takeWhile (· ≠ '\n')).length + 1
    fault.cause.message ++ " at position " ++ toString position ++
      (if pattern.contains '\n' then
        " (line " ++ toString line ++ ", column " ++ toString column ++ ")"
      else "")

structure Width where
  least : Nat
  /-- Nothing when there is no greatest number. -/
  most : Option Nat
  deriving DecidableEq, Repr

namespace Width

def exactly (n : Nat) : Width := ⟨n, some n⟩

def add (a b : Width) : Width :=
  ⟨a.least + b.least, a.most.bind fun m ↦ b.most.map (m + ·)⟩

def join (a b : Width) : Width :=
  ⟨min a.least b.least, a.most.bind fun m ↦ b.most.map (max m)⟩

def times (least : Nat) (most : Option Nat) (w : Width) : Width :=
  ⟨w.least * least,
    if w.most = some 0 then some 0 else most.bind fun n ↦ w.most.map (· * n)⟩

end Width

inductive Piece.Kind where
  | plain
  | edge
  | repeated
  deriving DecidableEq, Repr

structure Piece where
  node : Node
  width : Width
  kind : Piece.Kind
  /-- The first fault that the engine finds with a piece that is written as it should be. -/
  misfit : Option Cause
  deriving Repr

namespace Piece

def empty : Piece := ⟨.empty, .exactly 0, .plain, none⟩

/-- The pieces one after the other; the last one comes first in the list. -/
def ofReversed (pieces : List Piece) : Piece :=
  pieces.foldl (fun rest p ↦
    ⟨.seq p.node rest.node, p.width.add rest.width, .plain, p.misfit.or rest.misfit⟩) empty

def ofEdge (edge : Edge) : Piece := ⟨.edge edge, .exactly 0, .edge, none⟩

def ofItems (flags : Flags) (negated : Bool) (items : List SetItem) : Piece :=
  ⟨.one ⟨items, negated, flags.ignoreCase, flags.ascii⟩, .exactly 1, .plain, none⟩

def ofCode (flags : Flags) (code : Nat) : Piece := ofItems flags false [.range code code]

end Piece

inductive Token where
  | char (c : Char)
  | escape (c : Char)
  /-- A backslash that ends the pattern. -/
  | dangling
  deriving DecidableEq, Repr

def Token.written : Token → List Char
  | char c => [c]
  | escape c => ['\\', c]
  | dangling => ['\\']

def Token.length (token : Token) : Nat := token.written.length

def Token.text (token : Token) : String := String.ofList token.written

def tokens : List Char → List Token
  | [] => []
  | '\\' :: c :: s => .escape c :: tokens s
  | c :: s => (if c = '\\' then .dangling else .char c) :: tokens s

/-- The code points of the characters that have a name. -/
abbrev CharacterNames := String → Option Nat

def noNames : CharacterNames := fun _ ↦ none

structure State where
  names : CharacterNames
  ahead : List Token
  /-- The number of characters before the first token ahead. -/
  position : Nat
  flags : Flags
  /-- The flags that have been turned on for the whole pattern. -/
  turnedOn : List Char
  /-- The widths of the groups in the order in which they open. A group that is still open has
  none. -/
  groups : List (Option Width)
  groupNames : List (String × Nat)
  /-- The number of groups before the outermost look behind that is open. -/
  behind : Option Nat
  /-- Groups that conditions ask for, with the place of the first question. -/
  conditions : List (Nat × Nat)

abbrev Read := StateT State (Except Fault)

/-- Fails at the place `back` characters before the next token. -/
def fail {α : Type} (cause : Cause) (back : Nat) : Read α := do
  throw ⟨cause, some ((← get).position - back)⟩

def next? : Read (Option Token) := return (← get).ahead.head?

/-- Passes over the next token. The token behind it must be whole. -/
def skip : Read Unit := do
  let s ← get
  match s.ahead with
  | [] => pure ()
  | token :: ahead =>
    let position := s.position + token.length
    if ahead.head? = some .dangling then throw ⟨.endsInEscape, some position⟩
    set { s with ahead, position }

def take? : Read (Option Token) := do
  let token ← next?
  skip
  pure token

def accept (c : Char) : Read Bool := do
  if (← next?) = some (.char c) then
    skip
    pure true
  else
    pure false

def takeWhile (p : Char → Bool) : Nat → Read (List Char)
  | 0 => pure []
  | n + 1 => do
    match ← next? with
    | some (.char c) =>
      if p c then
        skip
        return c :: (← takeWhile p n)
      else pure []
    | _ => pure []

def takeUntil (terminator : Char) (what : String) : Nat → List Char → Read (List Char)
  | 0, acc => pure acc
  | fuel + 1, acc => do
    match ← take? with
    | none =>
      if acc.isEmpty then fail (.missingName what) 0 else fail (.openName terminator) acc.length
    | some token =>
      if token = .char terminator then
        if acc.isEmpty then fail (.missingName what) 1 else pure acc
      else takeUntil terminator what fuel (acc ++ token.written)

def fuelAhead : Read Nat := return (← get).ahead.length + 1

def name (terminator : Char) (what : String) : Read (List Char) := do
  takeUntil terminator what (← fuelAhead) []

end GherkinLint.Pattern
