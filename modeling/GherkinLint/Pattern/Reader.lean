import GherkinLint.Pattern.Group

namespace GherkinLint.Pattern

def repeatLimit : Nat := 4294967295

/-- The bounds between braces, of which the opening one has been read; nothing when what follows is
no such bounds. -/
def bounds? : Read (Option (Nat × Option Nat)) := do
  let start := (← get).position
  if (← next?) = some (.char '\x7d') then return none
  let low ← takeWhile isDecimal (← fuelAhead)
  let high ← if ← accept ',' then takeWhile isDecimal (← fuelAhead) else pure low
  if !(← accept '\x7d') then return none
  let least := ofDigits 10 low
  let most := if high.isEmpty then none else some (ofDigits 10 high)
  if least ≥ repeatLimit || most.any (· ≥ repeatLimit) then throw ⟨.repeatTooLarge, none⟩
  if most.any (· < least) then fail .reversedRepeat ((← get).position - start)
  pure (some (least, most))

def greed : Read Greed := do
  if ← accept '?' then return .reluctant
  if ← accept '+' then return .possessive
  return .greedy

/-- Repeats the last of the pieces. `start` is the place of the sign of repetition. -/
def repetition (start least : Nat) (most : Option Nat) : List Piece → Read (List Piece)
  | [] => do fail .nothingToRepeat ((← get).position - start)
  | last :: rest => do
    if last.kind = .edge then fail .nothingToRepeat ((← get).position - start)
    if last.kind = .repeated then fail .multipleRepeat ((← get).position - start)
    let greed ← greed
    let misfit :=
      if (← get).turnedOn.contains 't' then some (.templateRepeat greed) else last.misfit
    pure (⟨.times least most greed last.node, last.width.times least most, .repeated, misfit⟩ ::
      rest)

def verboseComment : Nat → Read Unit
  | 0 => pure ()
  | fuel + 1 => do
    match ← take? with
    | none => pure ()
    | some (.char '\n') => pure ()
    | some _ => verboseComment fuel

def isVerboseBlank (c : Char) : Bool := c == ' ' || (9 ≤ c.toNat && c.toNat ≤ 13)

mutual

/-- Sequences between bars. `top` is set outside all groups, and `first` before the first bar. -/
def alternatives : Nat → Flags → Bool → Bool → Read Piece
  | 0, _, _, _ => pure .empty
  | fuel + 1, flags, top, first => do
    let one ← sequence fuel flags (top && first) []
    if ← accept '|' then
      let s ← get
      let flags := if top then s.flags else flags
      let other ← alternatives fuel flags top false
      pure ⟨.alt one.node other.node, one.width.join other.width, .plain,
        one.misfit.or other.misfit⟩
    else pure one

/-- The pieces up to a bar, a closing parenthesis or the end, behind those already read. -/
def sequence : Nat → Flags → Bool → List Piece → Read Piece
  | 0, _, _, pieces => pure (.ofReversed pieces)
  | fuel + 1, flags, first, pieces => do
    match ← next? with
    | none | some (.char '|') | some (.char ')') => pure (.ofReversed pieces)
    | some token =>
      let start := (← get).position
      skip
      match token with
      | .dangling => sequence fuel flags first pieces
      | .escape c => sequence fuel flags first ((← escape flags c) :: pieces)
      | .char c =>
        if flags.verbose && isVerboseBlank c then sequence fuel flags first pieces
        else if flags.verbose && c == '#' then
          verboseComment (← fuelAhead)
          sequence fuel flags first pieces
        else
          match c with
          | '[' => sequence fuel flags first ((← set flags) :: pieces)
          | '?' => sequence fuel flags first (← repetition start 0 (some 1) pieces)
          | '*' => sequence fuel flags first (← repetition start 0 none pieces)
          | '+' => sequence fuel flags first (← repetition start 1 none pieces)
          | '\x7b' =>
            let before ← get
            match ← bounds? with
            | some (least, most) =>
              sequence fuel flags first (← repetition start least most pieces)
            | none =>
              modify fun s ↦ { s with ahead := before.ahead, position := before.position }
              sequence fuel flags first (.ofCode flags c.toNat :: pieces)
          | '.' =>
            let items := if flags.dotAll then [] else [.range 10 10]
            sequence fuel flags first (.ofItems flags true items :: pieces)
          | '^' =>
            let edge := if flags.multiLine then Edge.lineStart else .textStart
            sequence fuel flags first (.ofEdge edge :: pieces)
          | '$' =>
            let edge := if flags.multiLine then Edge.lineEnd else .lastLineEnd
            sequence fuel flags first (.ofEdge edge :: pieces)
          | '(' =>
            match ← groupHead flags start with
            | .comment => sequence fuel flags first pieces
            | .flags =>
              if !first || !pieces.isEmpty then fail .lateFlags ((← get).position - start)
              let s ← get
              sequence fuel s.flags first pieces
            | head => sequence fuel flags first ((← group fuel flags start head) :: pieces)
          | c => sequence fuel flags first (.ofCode flags c.toNat :: pieces)

def group : Nat → Flags → Nat → GroupHead → Read Piece
  | 0, _, _, _ => pure .empty
  | fuel + 1, flags, start, head => do
    match head with
    | .capture name =>
      let index ← enter name
      let body ← alternatives fuel flags false true
      close start
      leave index body.width
      pure ⟨.group index body.node, body.width, .plain, body.misfit⟩
    | .plain turnedOn turnedOff =>
      let inner := turnedOff.foldl (Flags.turn false) (turnedOn.foldl (Flags.turn true) flags)
      let body ← alternatives fuel inner false true
      close start
      pure ⟨body.node, body.width, .plain, body.misfit⟩
    | .atomic =>
      let body ← alternatives fuel flags false true
      close start
      pure ⟨.atomic body.node, body.width, .plain, body.misfit⟩
    | .ahead negated =>
      let body ← alternatives fuel flags false true
      close start
      pure ⟨.ahead negated body.node, .exactly 0, .plain, body.misfit⟩
    | .behind negated =>
      let outer := (← get).behind
      if outer.isNone then modify fun s ↦ { s with behind := some s.groups.length }
      let body ← alternatives fuel flags false true
      if outer.isNone then modify fun s ↦ { s with behind := none }
      close start
      let misfit :=
        if body.width.most = some body.width.least then body.misfit else some .lookBehindWidth
      pure ⟨.behind negated body.width.least body.node, .exactly 0, .plain, misfit⟩
    | .condition index =>
      let yes ← sequence fuel flags false []
      let no ←
        if ← accept '|' then
          let no ← sequence fuel flags false []
          if (← next?) = some (.char '|') then fail .tooManyBranches 0
          pure no
        else pure .empty
      close start
      pure ⟨.cond index yes.node no.node, yes.width.join no.width, .plain,
        yes.misfit.or no.misfit⟩
    | .piece piece => pure piece
    | .comment | .flags => pure .empty

end

def whole (size : Nat) : Read Node := do
  let piece ← alternatives (3 * size + 3) .none true true
  let turnedOn := (← get).turnedOn
  if turnedOn.contains 'a' && turnedOn.contains 'u' then throw ⟨.typeFlagsTogether, none⟩
  if (← next?).isSome then fail .unbalancedParenthesis 0
  let s ← get
  match s.conditions.find? fun (index, _) ↦ index > s.groups.length with
  | some (index, place) => throw ⟨.invalidReference index, some place⟩
  | none => pure ()
  match piece.misfit with
  | some cause => throw ⟨cause, none⟩
  | none => pure piece.node

def ofText (names : CharacterNames) (text : String) : Except Fault Pattern := do
  let ahead := tokens text.toList
  if ahead.head? = some .dangling then throw ⟨.endsInEscape, some 0⟩
  let node ← (whole ahead.length).run' ⟨names, ahead, 0, .none, [], [], [], none, []⟩
  pure ⟨text, node⟩

end GherkinLint.Pattern
