import GherkinLint.Data

namespace GherkinLint

structure Path where
  /-- The slashes that the path begins with: none when it starts at the working directory. -/
  root : String
  parts : List String
  deriving DecidableEq, Repr

namespace Path

def pieces : List Char → List (List Char)
  | [] => [[]]
  | c :: s =>
    if c = '/' then [] :: pieces s
    else match pieces s with
      | [] => [[c]]
      | first :: rest => (c :: first) :: rest

/-- Two slashes at the start are kept as they are; one or more than two count as one. -/
def rootOf : List Char → String
  | '/' :: '/' :: '/' :: _ => "/"
  | '/' :: '/' :: _ => "//"
  | '/' :: _ => "/"
  | _ => ""

def ofText (text : String) : Path :=
  ⟨rootOf text.toList,
    ((pieces text.toList).map String.ofList).filter fun part ↦ part ≠ "" ∧ part ≠ "."⟩

def isAbsolute (path : Path) : Bool := path.root ≠ ""

def extend (path : Path) (parts : List String) : Path := { path with parts := path.parts ++ parts }

def ofAbsolute (parts : List String) : Path := ⟨"/", parts⟩

/-- The empty path is written as a dot. -/
def text (path : Path) : String :=
  let written := path.root ++ "/".intercalate path.parts
  if written = "" then "." else written

end Path

inductive Entry where
  | file (bytes : List UInt8)
  | directory (entries : List (String × Entry))
  deriving Repr, Inhabited

namespace Entry

def isFile : Entry → Bool
  | file _ => true
  | directory _ => false

/-- Replaces what lies at `parts`, and makes the directories on the way. -/
def alter (change : Option Entry → Entry) : List String → Option Entry → Entry
  | [], entry => change entry
  | part :: rest, entry =>
    let entries := match entry with
      | some (directory entries) => entries
      | _ => []
    directory (Members.put part (alter change rest (entries.lookup part)) entries)

def writeFile (tree : Entry) (parts : List String) (bytes : List UInt8) : Entry :=
  alter (fun _ ↦ file bytes) parts (some tree)

def makeDirectory (tree : Entry) (parts : List String) : Entry :=
  alter (fun entry ↦ entry.getD (directory [])) parts (some tree)

def remove : List String → Entry → Entry
  | [part], directory entries => directory (entries.filter (·.1 ≠ part))
  | part :: rest, directory entries =>
    match entries.lookup part with
    | some entry => directory (Members.put part (remove rest entry) entries)
    | none => directory entries
  | _, entry => entry

mutual

/-- Everything strictly below an entry: the parts of the way to it, and whether it is a file. -/
def descendants : Entry → List (List String × Bool)
  | file _ => []
  | directory entries => descendantsOf entries

def descendantsOf : List (String × Entry) → List (List String × Bool)
  | [] => []
  | (name, entry) :: rest =>
    ([name], entry.isFile) :: ((descendants entry).map fun (parts, f) ↦ (name :: parts, f)) ++
      descendantsOf rest

end

/-- The ways to the files below an entry, in the order of their parts. -/
def filesBelow (entry : Entry) : List (List String) :=
  ((entry.descendants.filter (·.2)).map (·.1)).mergeSort fun a b ↦ !decide (b < a)

end Entry

inductive PathFault where
  | notFound
  | notDirectory
  | isDirectory
  deriving DecidableEq, Repr

def PathFault.message (fault : PathFault) (path : Path) : String :=
  (match fault with
    | notFound => "[Errno 2] No such file or directory: "
    | notDirectory => "[Errno 20] Not a directory: "
    | isDirectory => "[Errno 21] Is a directory: ") ++ Text.quote path.text

structure FileSystem where
  root : Entry
  workingDirectory : List String
  /-- The directory above which nothing is searched for. -/
  top : List String

namespace FileSystem

/-- What lies at the end of a way from `here`, above which lie the directories `above`, the nearest
one first. -/
def follow (here : Entry) (above : List Entry) : List String → Except PathFault Entry
  | [] => .ok here
  | part :: rest =>
    match here with
    | .file _ => .error .notDirectory
    | .directory entries =>
      if part = ".." then
        match above with
        | [] => follow here [] rest
        | up :: above => follow up above rest
      else
        match entries.lookup part with
        | some entry => follow entry (here :: above) rest
        | none => .error .notFound

def absolute (fs : FileSystem) (path : Path) : List String :=
  if path.isAbsolute then path.parts else fs.workingDirectory ++ path.parts

def find (fs : FileSystem) (path : Path) : Except PathFault Entry :=
  follow fs.root [] (fs.absolute path)

def isFile (fs : FileSystem) (path : Path) : Bool :=
  match fs.find path with
  | .ok entry => entry.isFile
  | .error _ => false

def read (fs : FileSystem) (path : Path) : Except PathFault (List UInt8) := do
  match ← fs.find path with
  | .file bytes => pure bytes
  | .directory _ => throw .isDirectory

/-- The files that an argument stands for: all below a directory, or the path itself where it is a
file. -/
def filesAt (fs : FileSystem) (path : Path) : List Path :=
  match fs.find path with
  | .ok (.directory entries) => (Entry.directory entries).filesBelow.map path.extend
  | .ok (.file _) => [path]
  | .error _ => []

/-- The files that arguments stand for, as far as they are included: argument by argument, and a
file as often as it is named. -/
def filesFor (fs : FileSystem) (includes : Path → Bool) (arguments : List Path) : List Path :=
  (arguments.flatMap fs.filesAt).filter includes

/-- Does some work in another directory, and goes back to the one before it. -/
def inDirectory {α : Type} (fs : FileSystem) (directory : List String)
    (work : FileSystem → α × FileSystem) : α × FileSystem :=
  let (result, after) := work { fs with workingDirectory := directory }
  (result, { after with workingDirectory := fs.workingDirectory })

end FileSystem

end GherkinLint
