import GherkinLint.Configuration
import GherkinLint.Rule.UnusedVariables
import GherkinLint.Source

namespace GherkinLint

/-- A reader of TOML files: it turns the bytes of a file into the table that they describe. -/
abbrev TomlReader := List UInt8 → Except Raised (Members Data)

structure ProjectFile where
  directory : List String
  bytes : List UInt8
  deriving DecidableEq, Repr

inductive ProjectFault where
  | noFile (searched : List String)
  | raised (e : Raised)
  | configuration (fault : ConfigurationFault)
  deriving Repr

namespace ProjectFile

def fileName : String := "pyproject.toml"

def path (file : ProjectFile) : Path := .ofAbsolute (file.directory ++ [fileName])

def projectName (file : ProjectFile) : String := file.directory.getLast?.getD ""

def searched (fs : FileSystem) : List (List String) :=
  (((List.range (fs.workingDirectory.length + 1)).reverse.map fs.workingDirectory.take).filter
    fun directory ↦ fs.top.length ≤ directory.length)

def inDirectory? (fs : FileSystem) (directory : List String) : Option ProjectFile :=
  match fs.find (.ofAbsolute (directory ++ [fileName])) with
  | .ok (.file bytes) => some ⟨directory, bytes⟩
  | _ => none

def find? (fs : FileSystem) : Option ProjectFile := (searched fs).findSome? (inDirectory? fs)

def findIn (fs : FileSystem) : Except ProjectFault ProjectFile :=
  match find? fs with
  | some file => .ok file
  | none => .error (.noFile ((searched fs).map fun directory ↦ (Path.ofAbsolute directory).text))

/-- A table inside a table of settings, empty when it is not there. -/
def tableIn (key : String) : Data → Except ProjectFault Data
  | .object members => .ok ((members.lookup key).getD (.object []))
  | found => .error (.configuration (.notTable found))

def settings (toml : TomlReader) (file : ProjectFile) : Except ProjectFault Data := do
  let root ← (toml file.bytes).mapError .raised
  let tool ← tableIn "tool" (.object root)
  tableIn "featurelint" tool

def configuration (toml : TomlReader) (names : Pattern.CharacterNames) (file : ProjectFile) :
    Except ProjectFault Configuration := do
  let settings ← file.settings toml
  (Configuration.ofSettings names .standard file.projectName settings).mapError .configuration

end ProjectFile

end GherkinLint
