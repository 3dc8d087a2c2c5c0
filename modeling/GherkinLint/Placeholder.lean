namespace GherkinLint

structure Placeholder where
  name : String
  /-- The number of characters before the opening `<`. -/
  offset : Nat
  deriving DecidableEq, Repr

namespace Placeholder

/-- The name of the placeholder that has its `<` just before `s`. -/
def nameAt (s : List Char) : Option (List Char) :=
  let name := s.takeWhile (· ≠ '>')
  let closed := s.dropWhile (· ≠ '>') ≠ []
  if closed ∧ name ≠ [] ∧ name.head? ≠ some ' ' ∧ name.getLast? ≠ some ' ' then some name
  else none

/-- The placeholders of a text that begins at `offset`, after its first `skip` characters. -/
def scan (offset : Nat) : Nat → List Char → List Placeholder
  | _, [] => []
  | skip + 1, _ :: s => scan (offset + 1) skip s
  | 0, c :: s =>
    if c = '<' then
      match nameAt s with
      | some name => ⟨String.ofList name, offset⟩ :: scan (offset + 1) (name.length + 1) s
      | none => scan (offset + 1) 0 s
    else
      scan (offset + 1) 0 s

/-- A scan that stops after every placeholder: where it stands, and the text ahead of it. -/
structure Cursor where
  offset : Nat
  rest : List Char
  deriving DecidableEq, Repr

namespace Cursor

def start (text : String) : Cursor := ⟨0, text.toList⟩

/-- The next placeholder, and the cursor just behind its `>`. -/
def nextFrom (offset : Nat) : List Char → Option (Placeholder × Cursor)
  | [] => none
  | c :: s =>
    if c = '<' then
      match nameAt s with
      | some name =>
        some (⟨String.ofList name, offset⟩, ⟨offset + name.length + 2, s.drop (name.length + 1)⟩)
      | none => nextFrom (offset + 1) s
    else
      nextFrom (offset + 1) s

def next? (cursor : Cursor) : Option (Placeholder × Cursor) :=
  nextFrom cursor.offset cursor.rest

def finish (cursor : Cursor) : Cursor := ⟨cursor.offset + cursor.rest.length, []⟩

end Cursor

end Placeholder

def placeholders (text : String) : List Placeholder := Placeholder.scan 0 0 text.toList

end GherkinLint
