import GherkinLint.Proofs.FileTree.Selection

namespace GherkinLint

namespace Entry

variable (f : List UInt8 → List UInt8)

mutual

def mapFiles : Entry → Entry
  | file bytes => file (f bytes)
  | directory entries => directory (mapFilesOf entries)

def mapFilesOf : Members Entry → Members Entry
  | [] => []
  | (name, entry) :: rest => (name, entry.mapFiles) :: mapFilesOf rest

end

theorem mapFiles_directory (entries : Members Entry) :
    (directory entries).mapFiles f =
      directory (entries.map fun (name, entry) ↦ (name, entry.mapFiles f)) := by
  rw [mapFiles]
  congr 1
  induction entries with
  | nil => rfl
  | cons first rest ih => rw [mapFilesOf, ih, List.map_cons]

@[simp] theorem isFile_mapFiles (entry : Entry) : (entry.mapFiles f).isFile = entry.isFile := by
  cases entry <;> rfl

theorem lookup_mapFiles (entries : Members Entry) (name : String) :
    (entries.map fun (name, entry) ↦ (name, entry.mapFiles f)).lookup name =
      (entries.lookup name).map (·.mapFiles f) := by
  induction entries with
  | nil => rfl
  | cons first rest ih =>
    rw [List.map_cons, List.lookup_cons, List.lookup_cons]
    cases name == first.1
    · exact ih
    · rfl

mutual

theorem descendants_mapFiles : ∀ entry : Entry,
    (entry.mapFiles f).descendants = entry.descendants
  | file _ => rfl
  | directory entries => descendantsOf_mapFilesOf entries

theorem descendantsOf_mapFilesOf : ∀ entries : Members Entry,
    descendantsOf (mapFilesOf f entries) = descendantsOf entries
  | [] => rfl
  | (name, entry) :: rest => by
    rw [mapFilesOf, descendantsOf, descendantsOf, isFile_mapFiles, descendants_mapFiles entry,
      descendantsOf_mapFilesOf rest]

end

theorem filesBelow_mapFiles (entry : Entry) : (entry.mapFiles f).filesBelow = entry.filesBelow := by
  rw [filesBelow, filesBelow, descendants_mapFiles]

end Entry

namespace FileSystem

variable (f : List UInt8 → List UInt8)

def mapFiles (fs : FileSystem) : FileSystem := { fs with root := fs.root.mapFiles f }

theorem follow_mapFiles (here : Entry) (above : List Entry) (parts : List String) :
    follow (here.mapFiles f) (above.map (·.mapFiles f)) parts =
      (follow here above parts).map (·.mapFiles f) := by
  induction parts generalizing here above with
  | nil => rfl
  | cons part parts ih =>
    cases here with
    | file => rfl
    | directory entries =>
      rw [Entry.mapFiles_directory, follow_cons, follow_cons, ← Entry.mapFiles_directory]
      by_cases hpart : part = ".."
      · rw [if_pos hpart, if_pos hpart, ← ih]
        cases above <;> rfl
      · rw [if_neg hpart, if_neg hpart, Entry.lookup_mapFiles]
        cases entries.lookup part with
        | none => rfl
        | some inner => exact ih inner (.directory entries :: above)

variable (fs : FileSystem) (path : Path)

theorem find_mapFiles : (fs.mapFiles f).find path = (fs.find path).map (·.mapFiles f) :=
  follow_mapFiles f fs.root [] (fs.absolute path)

theorem read_mapFiles : (fs.mapFiles f).read path = (fs.read path).map f := by
  rw [read, read, find_mapFiles]
  cases fs.find path with
  | error => rfl
  | ok found => cases found <;> rfl

theorem filesAt_mapFiles : (fs.mapFiles f).filesAt path = fs.filesAt path := by
  rw [filesAt, filesAt, find_mapFiles]
  cases fs.find path with
  | error => rfl
  | ok found =>
    cases found with
    | file => rfl
    | directory entries =>
      exact congrArg (List.map path.extend) (Entry.filesBelow_mapFiles f (.directory entries))

theorem filesFor_mapFiles (includes : Path → Bool) (arguments : List Path) :
    (fs.mapFiles f).filesFor includes arguments = fs.filesFor includes arguments := by
  rw [filesFor, filesFor, funext (filesAt_mapFiles f fs)]

end FileSystem

end GherkinLint
