import GherkinLint.Project

namespace GherkinLint.Toml

open Text

/-- A reader gives what it has read and the rest of the text, or nothing when the text is no
TOML. -/
abbrev Reader (α : Type) := List Char → Option (α × List Char)

def isSpace (c : Char) : Bool := c == ' ' || c == '\t'

def dropSpace (s : List Char) : List Char := s.dropWhile isSpace

def dropComment (s : List Char) : List Char :=
  if s.head? = some '#' then s.dropWhile (· ≠ '\n') else s

def dropLines : Nat → List Char → List Char
  | 0, s => s
  | fuel + 1, s =>
    match dropComment (dropSpace s) with
    | '\n' :: s => dropLines fuel s
    | s => s

def ofDigits? (base : Nat) (digits : List Char) : Option Nat :=
  digits.foldlM (fun n c ↦ do
    let d ← hexDigit? c
    if d < base then some (n * base + d) else none) 0

def ofCode? (code : Nat) : Option Char :=
  if code < 0xD800 ∨ (0xE000 ≤ code ∧ code < 0x110000) then some (Char.ofNat code) else none

/-- The character that an escape stands for, and the number of characters behind the letter that
belong to it. -/
def escape? (c : Char) (s : List Char) : Option (Char × Nat) :=
  match c with
  | 'u' => if s.length < 4 then none else (((ofDigits? 16 (s.take 4)).bind ofCode?).map (·, 4))
  | 'U' => if s.length < 8 then none else (((ofDigits? 16 (s.take 8)).bind ofCode?).map (·, 8))
  | c =>
    ([('0', 0), ('b', 8), ('t', 9), ('n', 10), ('f', 12), ('r', 13), ('"', 34), ('\\', 92)].lookup
      c).map fun code ↦ (Char.ofNat code, 0)

/-- A string up to a double quote, with its escapes resolved; `skip` characters are read already. -/
def basic : Nat → Reader (List Char)
  | _, [] => none
  | skip + 1, _ :: s => basic skip s
  | 0, '"' :: s => some ([], s)
  | 0, '\n' :: _ => none
  | 0, '\\' :: c :: s => do
    let (d, more) ← escape? c s
    let (rest, s) ← basic more s
    some (d :: rest, s)
  | 0, c :: s => (basic 0 s).map fun (rest, s) ↦ (c :: rest, s)

def quote : List Char := [Char.ofNat 39]

def literal (s : List Char) : Option (List Char × List Char) :=
  let text := s.takeWhile fun c ↦ c ≠ Char.ofNat 39 && c ≠ '\n'
  match s.drop text.length with
  | c :: rest => if c = '\n' then none else some (text, rest)
  | [] => none

def untilThree (c : Char) : Reader (List Char)
  | [] => none
  | a :: s =>
    if a = c && s.take 2 = [c, c] && s[2]? ≠ some c then some ([], s.drop 2)
    else (untilThree c s).map fun (text, s) ↦ (a :: text, s)

/-- A string of several lines up to three double quotes. A backslash at the end of a line takes the
blanks behind it away. -/
def basicLines : Nat → Nat → Reader (List Char)
  | 0, _, _ => none
  | _, _, [] => none
  | fuel + 1, skip + 1, _ :: s => basicLines fuel skip s
  | _ + 1, 0, '"' :: '"' :: '"' :: s => some ([], s)
  | fuel + 1, 0, '\\' :: c :: s =>
    if (dropSpace (c :: s)).head? = some '\n' then
      basicLines fuel 0 ((c :: s).dropWhile fun d ↦ isSpace d || d == '\n')
    else do
      let (d, more) ← escape? c s
      let (rest, s) ← basicLines fuel more s
      some (d :: rest, s)
  | fuel + 1, 0, c :: s => (basicLines fuel 0 s).map fun (rest, s) ↦ (c :: rest, s)

def dropFirstLineEnd : List Char → List Char
  | '\n' :: s => s
  | s => s

def string : Reader (List Char)
  | '"' :: '"' :: '"' :: s => basicLines (s.length + 1) 0 (dropFirstLineEnd s)
  | '"' :: s => basic 0 s
  | a :: s =>
    if a = Char.ofNat 39 then
      if s.take 2 = quote ++ quote then untilThree (Char.ofNat 39) (dropFirstLineEnd (s.drop 2))
      else literal s
    else none
  | [] => none

def isKeyChar (c : Char) : Bool := Text.isWordChar c || c == '-'

def key (s : List Char) : Option (String × List Char) :=
  match s with
  | [] => none
  | c :: rest =>
    if c = '"' then (basic 0 rest).map fun (k, s) ↦ (String.ofList k, s)
    else if c = Char.ofNat 39 then (literal rest).map fun (k, s) ↦ (String.ofList k, s)
    else
      let k := s.takeWhile isKeyChar
      if k.isEmpty then none else some (String.ofList k, s.drop k.length)

def keys : Nat → Reader (List String)
  | 0, _ => none
  | fuel + 1, s => do
    let (first, s) ← key (dropSpace s)
    match dropSpace s with
    | '.' :: s =>
      let (rest, s) ← keys fuel s
      some (first :: rest, s)
    | s => some ([first], s)

/-- Changes the table at the end of a way of keys. Tables on the way that are not there are made,
and a list of tables stands for the last of them. -/
def within (change : Members Data → Option (Members Data)) :
    List String → Members Data → Option (Members Data)
  | [], members => change members
  | key :: rest, members =>
    match members.lookup key with
    | none => (within change rest []).map fun inner ↦ members.put key (.object inner)
    | some (.object inner) =>
      (within change rest inner).map fun inner ↦ members.put key (.object inner)
    | some (.list items) =>
      match items.getLast? with
      | some (.object inner) =>
        (within change rest inner).map fun inner ↦
          members.put key (.list (items.dropLast ++ [.object inner]))
      | _ => none
    | some _ => none

def addMember (key : String) (d : Data) (members : Members Data) : Option (Members Data) :=
  if (members.lookup key).isSome then none else some (members.put key d)

def assign (path : List String) (d : Data) (members : Members Data) : Option (Members Data) := do
  let last ← path.getLast?
  within (addMember last d) path.dropLast members

def digitsOf? : List Char → Option (List Char)
  | [] => none
  | [c] => if c == '_' then none else some [c]
  | c :: '_' :: d :: s => if c == '_' || d == '_' then none else (digitsOf? (d :: s)).map (c :: ·)
  | c :: s => if c == '_' then none else (digitsOf? s).map (c :: ·)

def natural? : List Char → Option Nat
  | '0' :: 'x' :: s => (digitsOf? s).bind (ofDigits? 16)
  | '0' :: 'o' :: s => (digitsOf? s).bind (ofDigits? 8)
  | '0' :: 'b' :: s => (digitsOf? s).bind (ofDigits? 2)
  | ['0'] => some 0
  | '0' :: _ => none
  | s => (digitsOf? s).bind (ofDigits? 10)

def integer? : List Char → Option Int
  | '+' :: s => (natural? s).map Int.ofNat
  | '-' :: s => (natural? s).map fun n ↦ -(n : Int)
  | s => (natural? s).map Int.ofNat

def isFraction (word : List Char) : Bool :=
  let unsigned := match word with
    | '+' :: s => s
    | '-' :: s => s
    | s => s
  unsigned == "inf".toList || unsigned == "nan".toList ||
    (unsigned.head?.any (·.isDigit) && unsigned.any (fun c ↦ ".eE".toList.contains c) &&
      unsigned.all fun c ↦ c.isDigit || "+-_.eE".toList.contains c)

def isMoment (word : List Char) : Bool :=
  let begins (count : Nat) (separator : Char) : Bool :=
    (word.take count).all (·.isDigit) && word[count]? == some separator
  (begins 4 '-' || begins 2 ':') && word.all fun c ↦ c.isDigit || "+-.:tTzZ".toList.contains c

def isWordEnd (c : Char) : Bool := isSpace c || [',', ']', '\x7d', '#', '\n'].contains c

def word (s : List Char) : Option (Data × List Char) := do
  let written := s.takeWhile fun c ↦ !isWordEnd c
  let rest := s.drop written.length
  if written = "true".toList then some (.bool true, rest)
  else if written = "false".toList then some (.bool false, rest)
  else match integer? written with
    | some n => some (.int n, rest)
    | none =>
      let s := String.ofList written
      if isMoment written then some (.moment s s, rest)
      else if isFraction written then some (.fraction s, rest) else none

/-- Whether two values are of one kind, so that they may stand in one list. -/
def sameKind : Data → Data → Bool
  | .null, .null => true
  | .bool _, .bool _ => true
  | .int _, .int _ => true
  | .fraction _, .fraction _ => true
  | .moment .., .moment .. => true
  | .text _, .text _ => true
  | .list _, .list _ => true
  | .object _, .object _ => true
  | _, _ => false

def isUniform : List Data → Bool
  | [] => true
  | first :: rest => rest.all (sameKind first)

mutual

def value : Nat → Reader Data
  | 0, _ => none
  | fuel + 1, s =>
    match s with
    | [] => none
    | c :: rest =>
      if c = '"' || c = Char.ofNat 39 then
        (string s).map fun (text, s) ↦ (.text (String.ofList text), s)
      else if c = '[' then do
        let (items, s) ← items fuel rest
        if isUniform items then some (.list items, s) else none
      else if c = '\x7b' then
        match dropSpace rest with
        | '\x7d' :: s => some (.object [], s)
        | s => (members fuel [] s).map fun (members, s) ↦ (.object members, s)
      else word s

def items : Nat → Reader (List Data)
  | 0, _ => none
  | fuel + 1, s =>
    match dropLines (s.length + 1) s with
    | ']' :: s => some ([], s)
    | s => do
      let (first, s) ← value fuel s
      match dropLines (s.length + 1) s with
      | ',' :: s =>
        let (rest, s) ← items fuel s
        some (first :: rest, s)
      | ']' :: s => some ([first], s)
      | _ => none

def members : Nat → Members Data → Reader (Members Data)
  | 0, _, _ => none
  | fuel + 1, acc, s => do
    let (path, s) ← keys (s.length + 1) s
    match s with
    | '=' :: s =>
      let (d, s) ← value fuel (dropSpace s)
      let acc ← assign path d acc
      match dropSpace s with
      | ',' :: s => members fuel acc s
      | '\x7d' :: s => some (acc, s)
      | _ => none
    | _ => none

end

inductive Statement where
  | table (path : List String)
  | tableItem (path : List String)
  | assign (path : List String) (value : Data)

def endLine (s : List Char) : Option (List Char) :=
  match dropComment (dropSpace s) with
  | [] => some []
  | '\n' :: s => some s
  | _ => none

def statement (s : List Char) : Option (Statement × List Char) :=
  match s with
  | '[' :: '[' :: s => do
    let (path, s) ← keys (s.length + 1) s
    match s with
    | ']' :: ']' :: s => some (.tableItem path, s)
    | _ => none
  | '[' :: s => do
    let (path, s) ← keys (s.length + 1) s
    match s with
    | ']' :: s => some (.table path, s)
    | _ => none
  | s => do
    let (path, s) ← keys (s.length + 1) s
    match s with
    | '=' :: s =>
      let (d, s) ← value (s.length + 1) (dropSpace s)
      some (.assign path d, s)
    | _ => none

def statements : Nat → List Char → Option (List Statement)
  | 0, _ => none
  | fuel + 1, s =>
    match dropLines (s.length + 1) s with
    | [] => some []
    | s => do
      let (first, s) ← statement s
      let s ← endLine s
      let rest ← statements fuel s
      some (first :: rest)

structure Builder where
  root : Members Data
  current : List String
  /-- Tables that have been opened only by way of tables inside them. -/
  passed : List (List String)

namespace Builder

/-- The beginnings of a way, from the shortest one on, without the whole. -/
def ancestors (path : List String) : List (List String) :=
  (List.range path.length).map path.take

def at? (path : List String) (members : Members Data) : Option Data :=
  match path with
  | [] => some (.object members)
  | key :: rest =>
    match members.lookup key, rest with
    | some d, [] => some d
    | some (.object inner), rest => at? rest inner
    | some (.list items), rest =>
      match items.getLast? with
      | some (.object inner) => at? rest inner
      | _ => none
    | _, _ => none

def pass (b : Builder) (path : List String) : List (List String) :=
  b.passed ++ (ancestors path).filter fun p ↦ (at? p b.root).isNone

def openTable (b : Builder) (path : List String) : Option Builder :=
  match at? path b.root with
  | none => do
    let root ← within some path b.root
    some ⟨root, path, b.pass path⟩
  | some (.object _) =>
    if b.passed.contains path then some ⟨b.root, path, b.passed.filter (· ≠ path)⟩ else none
  | some _ => none

def openItem (b : Builder) (path : List String) : Option Builder := do
  let last ← path.getLast?
  let add (members : Members Data) : Option (Members Data) :=
    match members.lookup last with
    | none => some (members.put last (.list [.object []]))
    | some (.list items) => some (members.put last (.list (items ++ [.object []])))
    | some _ => none
  let root ← within add path.dropLast b.root
  some ⟨root, path, b.pass path⟩

def add (b : Builder) : Statement → Option Builder
  | .table path => b.openTable path
  | .tableItem path => b.openItem path
  | .assign path d => do
    let root ← within (assign path d) b.current b.root
    some { b with root }

end Builder

def table? (s : List Char) : Option (Members Data) := do
  let all ← statements (s.length + 1) s
  let b ← all.foldlM Builder.add ⟨[], [], []⟩
  some b.root

def read : TomlReader := fun bytes ↦
  match Text.Utf8.decode bytes with
  | .error fault => .error ⟨"UnicodeDecodeError", fault.message⟩
  | .ok s =>
    match table? (Text.uniformLineEnds s) with
    | none => .error ⟨"TomlDecodeError", ""⟩
    | some root => .ok root

end GherkinLint.Toml
