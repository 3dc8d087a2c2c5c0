import GherkinLint.Pattern.Escape

namespace GherkinLint.Pattern

open Text

def flagLetters : List Char := "iLmsxatu".toList

/-- The flags that say which characters a class holds, of which one at most may be set. -/
def typeLetters : List Char := "aLu".toList

def Flags.turn (on : Bool) (flags : Flags) : Char → Flags
  | 'i' => { flags with ignoreCase := on }
  | 'm' => { flags with multiLine := on }
  | 's' => { flags with dotAll := on }
  | 'x' => { flags with verbose := on }
  | 'a' => { flags with ascii := on }
  | 'u' => { flags with ascii := !on }
  | _ => flags

def isLetter (token : Token) : Bool :=
  match token with
  | .char c => isWordChar c && !isDigit c && c != '_'
  | _ => false

def noFlag {α : Type} (token : Token) (missing : Cause) : Read α :=
  fail (if isLetter token then .unknownFlag else missing) token.length

def flagsOn : Nat → List Char → Char → Read (List Char × Char)
  | 0, seen, c => pure (seen, c)
  | fuel + 1, seen, c => do
    if c = 'L' then fail .localeFlag 0
    let seen := seen ++ [c]
    if typeLetters.contains c && seen.any (fun d ↦ typeLetters.contains d && d != c) then
      fail .incompatibleFlags 0
    match ← take? with
    | none => fail .missingFlagsEnd 0
    | some token =>
      match token with
      | .char d =>
        if [')', '-', ':'].contains d then pure (seen, d)
        else if flagLetters.contains d then flagsOn fuel seen d
        else noFlag token .missingFlagsEnd
      | _ => noFlag token .missingFlagsEnd

def flagsOff : Nat → List Char → Char → Read (List Char)
  | 0, seen, _ => pure seen
  | fuel + 1, seen, c => do
    if typeLetters.contains c then fail .turnsOffTypeFlag 0
    let seen := seen ++ [c]
    match ← take? with
    | none => fail .missingColon 0
    | some token =>
      match token with
      | .char ':' => pure seen
      | .char d =>
        if flagLetters.contains d then flagsOff fuel seen d else noFlag token .missingColon
      | _ => noFlag token .missingColon

/-- The flags of a group that begins with the flag or minus sign `c`: those turned on and those
turned off, or nothing when they hold for the whole pattern. -/
def groupFlags (c : Char) : Read (Option (List Char × List Char)) := do
  let fuel ← fuelAhead
  let (turnedOn, stop) ← if c = '-' then pure ([], '-') else flagsOn fuel [] c
  if stop = ')' then
    modify fun s ↦
      { s with
        flags := turnedOn.foldl (Flags.turn true) s.flags
        turnedOn := s.turnedOn ++ turnedOn }
    return none
  if turnedOn.contains 't' then fail .turnsOnGlobalFlag 1
  if stop = ':' then return some (turnedOn, [])
  match ← take? with
  | none => fail .missingFlag 0
  | some (.char d) =>
    if !flagLetters.contains d then noFlag (.char d) .missingFlag
    let turnedOff ← flagsOff fuel [] d
    if turnedOff.contains 't' then fail .turnsOffGlobalFlag 1
    if turnedOn.any turnedOff.contains then fail .flagOnAndOff 1
    pure (some (turnedOn, turnedOff))
  | some token => noFlag token .missingFlag

def isIdentifier : List Char → Bool
  | [] => false
  | c :: s => isWordChar c && !isDigit c && s.all isWordChar

def checkName (name : List Char) : Read Unit := do
  if !isIdentifier name then fail (.badGroupName (String.ofList name)) (name.length + 1)

def enter (name : Option (List Char)) : Read Nat := do
  let s ← get
  let index := s.groups.length + 1
  match name with
  | none => modifyGet fun s ↦ (index, { s with groups := s.groups ++ [none] })
  | some name =>
    let key := String.ofList name
    match s.groupNames.lookup key with
    | some earlier => fail (.repeatedGroupName key index earlier) (name.length + 1)
    | none =>
      modifyGet fun s ↦
        (index, { s with
          groups := s.groups ++ [none]
          groupNames := s.groupNames ++ [(key, index)] })

def leave (index : Nat) (width : Width) : Read Unit :=
  modify fun s ↦ { s with groups := s.groups.set (index - 1) (some width) }

def close (start : Nat) : Read Unit := do
  if !(← accept ')') then fail .openGroup ((← get).position - start)

def namedReference (flags : Flags) : Read Piece := do
  let name ← name ')' "group name"
  checkName name
  match (← get).groupNames.lookup (String.ofList name) with
  | none => fail (.unknownGroupName (String.ofList name)) (name.length + 1)
  | some index => backReference flags index (name.length + 1)

def comment (start : Nat) : Nat → Read Unit
  | 0 => pure ()
  | fuel + 1 => do
    match ← take? with
    | none => fail .openComment ((← get).position - start)
    | some (.char ')') => pure ()
    | some _ => comment start fuel

def condition : Read Nat := do
  let name ← name ')' "group name"
  let back := name.length + 1
  let written := String.ofList name
  let index ←
    if isIdentifier name then
      match (← get).groupNames.lookup written with
      | none => fail (.unknownGroupName written) back
      | some index => pure index
    else
      match integer? name with
      | some (.ofNat 0) => fail .badGroupNumber back
      | some (.ofNat index) =>
        let place := (← get).position - back
        modify fun s ↦
          if s.conditions.any (·.1 = index) then s
          else { s with conditions := s.conditions ++ [(index, place)] }
        pure index
      | _ => fail (.badGroupName written) back
  checkBehind index
  pure index

inductive GroupHead where
  | capture (name : Option (List Char))
  | plain (turnedOn turnedOff : List Char)
  | atomic
  | ahead (negated : Bool)
  | behind (negated : Bool)
  | condition (index : Nat)
  | piece (piece : Piece)
  | comment
  | flags

def extension (flags : Flags) (start : Nat) : Read GroupHead := do
  match ← take? with
  | none => fail .endOfPattern 0
  | some (.char 'P') =>
    if ← accept '<' then
      let name ← name '>' "group name"
      checkName name
      return .capture (some name)
    if ← accept '=' then return .piece (← namedReference flags)
    match ← take? with
    | none => fail .endOfPattern 0
    | some token => fail (.unknownExtension ("P" ++ token.text)) (token.length + 2)
  | some (.char ':') => pure (.plain [] [])
  | some (.char '#') =>
    comment start (← fuelAhead)
    pure .comment
  | some (.char '=') => pure (.ahead false)
  | some (.char '!') => pure (.ahead true)
  | some (.char '<') =>
    match ← take? with
    | none => fail .endOfPattern 0
    | some (.char '=') => pure (.behind false)
    | some (.char '!') => pure (.behind true)
    | some token => fail (.unknownExtension ("<" ++ token.text)) (token.length + 2)
  | some (.char '(') => return .condition (← condition)
  | some (.char '>') => pure .atomic
  | some token =>
    match token with
    | .char c =>
      if c = '-' || flagLetters.contains c then
        match ← groupFlags c with
        | some (turnedOn, turnedOff) => pure (.plain turnedOn turnedOff)
        | none => pure .flags
      else fail (.unknownExtension token.text) (token.length + 1)
    | _ => fail (.unknownExtension token.text) (token.length + 1)

def groupHead (flags : Flags) (start : Nat) : Read GroupHead := do
  if ← accept '?' then extension flags start else pure (.capture none)

end GherkinLint.Pattern
