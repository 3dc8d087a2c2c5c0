namespace GherkinLint.Text

def isBlank (c : Char) : Bool :=
  let n := c.toNat
  (9 ≤ n && n ≤ 13) || (28 ≤ n && n ≤ 32) || n == 0x85 || n == 0xA0 || n == 0x1680 ||
    (0x2000 ≤ n && n ≤ 0x200A) || n == 0x2028 || n == 0x2029 || n == 0x202F || n == 0x205F ||
    n == 0x3000

def stripStart (s : List Char) : List Char := s.dropWhile isBlank

def stripEnd (s : List Char) : List Char := (s.reverse.dropWhile isBlank).reverse

def strip (s : List Char) : List Char := stripEnd (stripStart s)

def dropLineEnd (s : List Char) : List Char :=
  (s.reverse.dropWhile fun c ↦ c == '\n' || c == '\r').reverse

/-- The words of a text, with the word that the text begins with held back: it is empty when the
text begins with a blank. -/
def wordsAux : List Char → List Char × List (List Char)
  | [] => ([], [])
  | c :: s =>
    let (word, rest) := wordsAux s
    if isBlank c then ([], if word.isEmpty then rest else word :: rest) else (c :: word, rest)

def words (s : List Char) : List (List Char) :=
  let (word, rest) := wordsAux s
  if word.isEmpty then rest else word :: rest

def startsWith (s start : List Char) : Bool := start.isPrefixOf s

def holds (part : List Char) : List Char → Bool
  | [] => part.isEmpty
  | c :: s => part.isPrefixOf (c :: s) || holds part s

/-- Every line end, written as a line feed, a carriage return or both, becomes a line feed. -/
def uniformLineEnds : List Char → List Char
  | [] => []
  | '\r' :: '\n' :: s => '\n' :: uniformLineEnds s
  | '\r' :: s => '\n' :: uniformLineEnds s
  | c :: s => c :: uniformLineEnds s

end GherkinLint.Text
