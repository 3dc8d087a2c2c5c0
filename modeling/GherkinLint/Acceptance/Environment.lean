import GherkinLint.CommandLine

namespace GherkinLint

/-- A directory of its own for a project. The files of the project are noted first, and written when
the program is run for the first time. -/
structure Environment where
  disk : FileSystem
  home : List String
  files : Members String
  verbose : Bool

namespace Environment

def enter (disk : FileSystem) (home : List String) : Environment :=
  ⟨{ disk with root := disk.root.makeDirectory home }, home, [], false⟩

def fresh (home : List String) : Environment := enter ⟨.directory [], home, home⟩ home

def leave (e : Environment) : FileSystem := { e.disk with root := e.disk.root.remove e.home }

def projectDirectory (e : Environment) : List String := e.home ++ ["project"]

def setFile (e : Environment) (path text : String) : Environment :=
  { e with files := e.files.put path text }

def resolve : List String → List String → List String
  | way, [] => way
  | way, part :: rest =>
    if part = ".." then resolve way.dropLast rest else resolve (way ++ [part]) rest

/-- Writes a file of a project. Every directory that its path passes through is made, and stays
when the path leaves it again. -/
def writeFile (directory : List String) (tree : Entry) (file : String × String) : Entry :=
  let path := Path.ofText file.1
  let start := if path.isAbsolute then [] else directory
  let passed := (List.range path.parts.length).map fun n ↦ resolve start (path.parts.take n)
  (passed.foldl Entry.makeDirectory tree).writeFile (resolve start path.parts)
    (Text.Utf8.encode file.2.toList)

def written (e : Environment) : FileSystem :=
  { e.disk with
    root := e.files.foldl (writeFile e.projectDirectory)
      (e.disk.root.makeDirectory e.projectDirectory) }

def isWritten (e : Environment) : Bool := (e.disk.find (.ofAbsolute e.projectDirectory)).isOk

def run (platform : Platform) (e : Environment) (arguments : List String) : Run × Environment :=
  let disk := if e.isWritten then e.disk else e.written
  let arguments := if e.verbose then arguments ++ ["--verbose"] else arguments
  let (run, disk) := disk.inDirectory e.projectDirectory fun fs ↦
    (CommandLine.run platform fs arguments, fs)
  (run, { e with disk })

end Environment

end GherkinLint
