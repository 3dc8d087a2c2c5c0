import GherkinLint.Pattern.Reading

namespace GherkinLint.Pattern

open Text

def isOctal (c : Char) : Bool := '0' ≤ c && c ≤ '7'

def isDecimal (c : Char) : Bool := '0' ≤ c && c ≤ '9'

def isAsciiLetter (c : Char) : Bool := ('a' ≤ c && c ≤ 'z') || ('A' ≤ c && c ≤ 'Z')

def ofDigits (base : Nat) (digits : List Char) : Nat :=
  digits.foldl (fun n c ↦ n * base + (hexDigit? c).getD 0) 0

def hexCode (c : Char) (count : Nat) : Read Nat := do
  let digits ← takeWhile (fun d ↦ (hexDigit? d).isSome) count
  let written := '\\' :: c :: digits
  if digits.length ≠ count then
    fail (.incompleteEscape (String.ofList written)) written.length
  let code := ofDigits 16 digits
  if code > 0x10FFFF then fail (.badEscape (String.ofList written)) written.length
  pure code

def namedCode : Read Nat := do
  if ← accept '\x7b' then
    let name ← name '\x7d' "character name"
    match (← get).names (String.ofList name) with
    | some code => pure code
    | none => fail (.unknownCharacter (String.ofList name)) (name.length + 4)
  else fail .missingBrace 0

def control? (c : Char) : Option Nat :=
  [('a', 7), ('b', 8), ('f', 12), ('n', 10), ('r', 13), ('t', 9), ('v', 11), ('\\', 92)].lookup c

def category? (c : Char) : Option SetItem :=
  [('d', .category .digit false), ('D', .category .digit true), ('s', .category .blank false),
    ('S', .category .blank true), ('w', .category .word false),
    ('W', .category .word true)].lookup c

def octalCode (digits : List Char) : Read Nat := do
  let code := ofDigits 8 digits
  if code > 255 then
    fail (.octalTooLarge (String.ofList ('\\' :: digits))) (digits.length + 1)
  pure code

def plainEscape (c : Char) : Read Nat := do
  match c with
  | 'x' => hexCode c 2
  | 'u' => hexCode c 4
  | 'U' => hexCode c 8
  | 'N' => namedCode
  | c =>
    if isAsciiLetter c || isDecimal c then fail (.badEscape (String.ofList ['\\', c])) 2
    pure c.toNat

def setEscape (c : Char) : Read (Nat ⊕ SetItem) := do
  match control? c, category? c with
  | some code, _ => pure (.inl code)
  | none, some item => pure (.inr item)
  | none, none =>
    if isOctal c then return .inl (← octalCode (c :: (← takeWhile isOctal 2)))
    else return .inl (← plainEscape c)

def edgeEscape? (flags : Flags) (c : Char) : Option Edge :=
  [('A', Edge.textStart), ('Z', Edge.textEnd), ('b', Edge.word flags.ascii false),
    ('B', Edge.word flags.ascii true)].lookup c

/-- Inside a look behind, only groups that were closed before it may be referred to. -/
def checkBehind (index : Nat) : Read Unit := do
  let s ← get
  match s.behind with
  | none => pure ()
  | some limit =>
    match s.groups[index - 1]? with
    | some (some _) => if index > limit then fail .referenceInLookBehind 0
    | _ => fail .referenceToOpenGroup 0

def backReference (flags : Flags) (index written : Nat) : Read Piece := do
  match (← get).groups[index - 1]? with
  | some (some width) =>
    checkBehind index
    pure ⟨.back index flags.ignoreCase, width, .plain, none⟩
  | _ => fail .referenceToOpenGroup written

/-- An escape that begins with a digit other than zero: three octal digits give a character, and
all else refers to a group. -/
def digitEscape (flags : Flags) (c : Char) : Read Piece := do
  let second ← takeWhile isDecimal 1
  let third ←
    match second with
    | [d] => if isOctal c && isOctal d then takeWhile isOctal 1 else pure []
    | _ => pure []
  let digits := c :: (second ++ third)
  if digits.length = 3 then return .ofCode flags (← octalCode digits)
  let index := ofDigits 10 digits
  if index ≤ (← get).groups.length then backReference flags index (digits.length + 1)
  else fail (.invalidReference index) digits.length

def escape (flags : Flags) (c : Char) : Read Piece := do
  match edgeEscape? flags c, category? c, control? c with
  | some edge, _, _ => pure (.ofEdge edge)
  | none, some item, _ => pure (.ofItems flags false [item])
  | none, none, some code => pure (.ofCode flags code)
  | none, none, none =>
    if c = '0' then
      return .ofCode flags (ofDigits 8 (c :: (← takeWhile isOctal 2)))
    else if isDecimal c then digitEscape flags c
    else return .ofCode flags (← plainEscape c)

def setMember (token : Token) : Read (Nat ⊕ SetItem) := do
  match token with
  | .char c => pure (.inl c.toNat)
  | .escape c => setEscape c
  | .dangling => pure (.inl '\\'.toNat)

def itemOf : Nat ⊕ SetItem → SetItem
  | .inl code => .range code code
  | .inr item => item

/-- The members of a set up to the bracket that closes it. `start` is the place of the bracket that
opens it. -/
def setItems (start : Nat) : Nat → List SetItem → Read (List SetItem)
  | 0, items => pure items
  | fuel + 1, items => do
    let openSet {α : Type} : Read α := do fail .openSet ((← get).position - start)
    match ← take? with
    | none => openSet
    | some token =>
      if token = .char ']' && !items.isEmpty then return items
      let first ← setMember token
      if ← accept '-' then
        match ← take? with
        | none => openSet
        | some (.char ']') => pure (items ++ [itemOf first, .range '-'.toNat '-'.toNat])
        | some stop =>
          let last ← setMember stop
          match first, last with
          | .inl a, .inl b =>
            if b < a then
              fail (.badRange token.text stop.text) (token.length + 1 + stop.length)
            setItems start fuel (items ++ [.range a b])
          | _, _ => fail (.badRange token.text stop.text) (token.length + 1 + stop.length)
      else setItems start fuel (items ++ [itemOf first])

def set (flags : Flags) : Read Piece := do
  let start := (← get).position - 1
  let negated ← accept '^'
  let items ← setItems start (← fuelAhead) []
  pure (.ofItems flags negated items)

end GherkinLint.Pattern
