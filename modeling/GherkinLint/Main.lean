import GherkinLint.Packages.Click

namespace GherkinLint

namespace FileSystem

def bytesOfHex : List Char → List UInt8
  | high :: low :: s =>
    match Text.hexDigit? high, Text.hexDigit? low with
    | some h, some l => UInt8.ofNat (16 * h + l) :: bytesOfHex s
    | _, _ => []
  | _ => []

def parts (path : String) : List String := (Path.ofText path).parts

def addListed (tree : Entry) : List String → Entry
  | [] => tree
  | path :: rest =>
    if path.toList.getLast? = some '/' then addListed (tree.makeDirectory (parts path)) rest
    else match rest with
      | [] => tree
      | bytes :: rest => addListed (tree.writeFile (parts path) (bytesOfHex bytes.toList)) rest

/-- The file system that lines list. The first line is the absolute path of the working directory.
After it come two lines for every file, its absolute path and its bytes, and one line for every
other directory, whose path ends in a slash. -/
def ofListing : List String → FileSystem
  | [] => ⟨.directory [], [], []⟩
  | directory :: rest =>
    let workingDirectory := parts directory
    ⟨(addListed (.directory []) rest).makeDirectory workingDirectory, workingDirectory, []⟩

end FileSystem

end GherkinLint

open GherkinLint

partial def readLines (stream : IO.FS.Stream) (lines : List String) : IO (List String) := do
  let line ← stream.getLine
  if line.isEmpty then return lines.reverse
  readLines stream (String.ofList (Text.dropLineEnd line.toList) :: lines)

def tell (event : Event) : IO Unit :=
  if event.isPrinted then IO.print event.text else IO.eprint event.text

def main (arguments : List String) : IO UInt32 := do
  let lines ← readLines (← IO.getStdin) []
  let run := CommandLine.run .standard (.ofListing lines) arguments
  run.events.forM tell
  if let .escaped fault := run.ending then IO.eprintln fault.kind
  return UInt32.ofNat run.exitCode
