import GherkinLint.Proofs.FileTree.Written
import GherkinLint.Proofs.Outcome
import GherkinLint.Project
import Mathlib.Data.List.Infix
import Mathlib.Data.List.Nodup
import Mathlib.Logic.Relation

namespace GherkinLint.ProjectFile

structure Ascends (fs : FileSystem) (directories : List (List String)) : Prop where
  begins : directories.head? = some fs.workingDirectory
  ends : directories.getLast? = some fs.top
  next : directories.IsChain fun below above ↦ ∃ name, below = above ++ [name]
  once : directories.Nodup
  all : ∀ directory, directory ∈ directories ↔
    fs.top <+: directory ∧ directory <+: fs.workingDirectory

theorem searched_of_length_lt {fs : FileSystem}
    (h : fs.workingDirectory.length < fs.top.length) : searched fs = [] := by
  refine List.filter_eq_nil_iff.2 fun directory hdirectory ↦ ?_
  obtain ⟨n, -, rfl⟩ := List.mem_map.1 hdirectory
  have hlength : (fs.workingDirectory.take n).length ≤ fs.workingDirectory.length :=
    List.length_take_le' n _
  simp only [decide_eq_true_eq]
  omega

theorem searched_concat (root : Entry) {above top : List String} {name : String}
    (htop : top.length ≤ above.length + 1) :
    searched ⟨root, above ++ [name], top⟩ = (above ++ [name]) :: searched ⟨root, above, top⟩ := by
  have htake : ∀ n ∈ (List.range (above.length + 1)).reverse,
      (above ++ [name]).take n = above.take n := by
    intro n hn
    rw [List.mem_reverse, List.mem_range] at hn
    exact List.take_append_of_le_length (by omega)
  have hwhole : (above ++ [name]).take (above.length + 1) = above ++ [name] :=
    List.take_of_length_le (by simp)
  unfold searched
  dsimp only
  rw [List.length_append, List.length_singleton, List.range_succ, List.reverse_append,
    List.reverse_singleton, List.singleton_append, List.map_cons, hwhole,
    List.map_congr_left htake, List.filter_cons_of_pos (by simpa using htop)]

theorem ascends_searched {fs : FileSystem} (htop : fs.top <+: fs.workingDirectory) :
    Ascends fs (searched fs) := by
  obtain ⟨root, here, top⟩ := fs
  induction here using List.reverseRecOn with
  | nil =>
    obtain rfl : top = [] := List.prefix_nil.1 htop
    exact ⟨rfl, rfl, .singleton _, List.nodup_singleton _, by simp [searched]⟩
  | append_singleton above name ih =>
    have hlength : top.length ≤ above.length + 1 := by simpa using htop.length_le
    rw [searched_concat root hlength]
    rcases List.prefix_concat_iff.1 htop with rfl | habove
    · -- The top itself is the working directory, and nothing above it is searched.
      rw [searched_of_length_lt (by simp)]
      refine ⟨rfl, rfl, .singleton _, List.nodup_singleton _, fun directory ↦ ?_⟩
      rw [List.mem_singleton]
      constructor
      · rintro rfl
        exact ⟨List.prefix_rfl, List.prefix_rfl⟩
      · intro h
        exact h.2.eq_of_length_le h.1.length_le
    · have hrest := ih habove
      obtain ⟨more, hmore⟩ := List.head?_eq_some_iff.1 hrest.begins
      constructor
      · rfl
      · rw [List.getLast?_cons, hrest.ends]
        rfl
      · have hnext := hrest.next
        rw [hmore] at hnext ⊢
        exact .cons_cons ⟨name, rfl⟩ hnext
      · rw [List.nodup_cons, hrest.all]
        refine ⟨fun h ↦ ?_, hrest.once⟩
        have hshorter : (above ++ [name]).length ≤ above.length := h.2.length_le
        rw [List.length_append, List.length_singleton] at hshorter
        omega
      · intro directory
        rw [List.mem_cons, hrest.all]
        dsimp only
        rw [List.prefix_concat_iff]
        constructor
        · rintro (rfl | ⟨h, hbelow⟩)
          · exact ⟨htop, .inl rfl⟩
          · exact ⟨h, .inr hbelow⟩
        · rintro ⟨h, rfl | hbelow⟩
          · exact .inl rfl
          · exact .inr ⟨h, hbelow⟩

theorem Ascends.shorter {fs : FileSystem} {directories : List (List String)}
    (h : Ascends fs directories) :
    directories.Pairwise fun below above ↦ above.length < below.length := by
  have : IsTrans (List String) fun below above ↦ above.length < below.length :=
    ⟨fun _ _ _ hfirst hsecond ↦ lt_trans hsecond hfirst⟩
  refine List.isChain_iff_pairwise.1 (h.next.imp fun below above habove ↦ ?_)
  obtain ⟨name, rfl⟩ := habove
  simp

section Lookup

variable {fs : FileSystem} {directory : List String}

theorem inDirectory?_eq_some_iff (hup : ".." ∉ directory) {file : ProjectFile} :
    inDirectory? fs directory = some file ↔
      file.directory = directory ∧ fs.root.HasFile (directory ++ [fileName]) file.bytes := by
  have hway : ".." ∉ directory ++ [fileName] := by simpa [fileName] using hup
  have hfind (entry : Entry) : fs.find (.ofAbsolute (directory ++ [fileName])) = .ok entry ↔
      fs.root.at? (directory ++ [fileName]) = some entry :=
    FileSystem.follow_eq_ok_iff hway
  obtain ⟨place, bytes⟩ := file
  unfold inDirectory?
  dsimp only
  rw [Entry.HasFile, ← hfind]
  split
  next found hfound => simp [hfound, eq_comm]
  next hnone =>
    have hother : fs.find (.ofAbsolute (directory ++ [fileName])) ≠ .ok (.file bytes) := hnone bytes
    simp [hother]

theorem inDirectory?_eq_none_iff (hup : ".." ∉ directory) : inDirectory? fs directory = none ↔
    ∀ bytes, ¬fs.root.HasFile (directory ++ [fileName]) bytes := by
  rw [Option.eq_none_iff_forall_ne_some]
  constructor
  · intro h bytes hfile
    exact h ⟨directory, bytes⟩ ((inDirectory?_eq_some_iff hup).2 ⟨rfl, hfile⟩)
  · intro h file hfile
    exact h file.bytes ((inDirectory?_eq_some_iff hup).1 hfile).2

end Lookup

/-- The file lies in a directory that is searched, and no directory nearer to the working directory
has a project file. -/
structure Nearest (fs : FileSystem) (file : ProjectFile) : Prop where
  top : fs.top <+: file.directory
  above : file.directory <+: fs.workingDirectory
  there : fs.root.HasFile (file.directory ++ [fileName]) file.bytes
  none_nearer : ∀ directory, file.directory <+: directory → directory <+: fs.workingDirectory →
    directory ≠ file.directory → ∀ bytes, ¬fs.root.HasFile (directory ++ [fileName]) bytes

section Search

variable {fs : FileSystem} (hup : ".." ∉ fs.workingDirectory)
  (htop : fs.top <+: fs.workingDirectory)
include hup htop

theorem find?_eq_some_iff {file : ProjectFile} : find? fs = some file ↔ Nearest fs file := by
  have hsearched := ascends_searched htop
  have hnames {directory : List String} (h : directory <+: fs.workingDirectory) :
      ".." ∉ directory := fun hmem ↦ hup (h.subset hmem)
  rw [find?, List.findSome?_eq_some_iff]
  constructor
  · intro h
    obtain ⟨before, directory, after, hsplit, hfile, hbefore⟩ := h
    have hdirectory : directory ∈ searched fs := by rw [hsplit]; simp
    obtain ⟨hfirst, habove⟩ := (hsearched.all directory).1 hdirectory
    obtain ⟨rfl, hthere⟩ := (inDirectory?_eq_some_iff (hnames habove)).1 hfile
    refine ⟨hfirst, habove, hthere, fun nearer hbelow hnearer hne ↦ ?_⟩
    have hmem : nearer ∈ searched fs := (hsearched.all nearer).2 ⟨hfirst.trans hbelow, hnearer⟩
    rw [hsplit, List.mem_append, List.mem_cons] at hmem
    rcases hmem with hmem | rfl | hmem
    · exact (inDirectory?_eq_none_iff (hnames hnearer)).1 (hbefore nearer hmem)
    · exact absurd rfl hne
    · -- What is searched later is shorter, and so nothing that goes on from the directory.
      have hshorter := hsearched.shorter
      rw [hsplit, List.pairwise_append, List.pairwise_cons] at hshorter
      have := hshorter.2.1.1 nearer hmem
      have := hbelow.length_le
      omega
  · intro h
    have hmem : file.directory ∈ searched fs := (hsearched.all _).2 ⟨h.top, h.above⟩
    obtain ⟨before, after, hsplit⟩ := List.append_of_mem hmem
    refine ⟨before, file.directory, after, hsplit, ?_, fun nearer hnearer ↦ ?_⟩
    · exact (inDirectory?_eq_some_iff (hnames h.above)).2 ⟨rfl, h.there⟩
    · have hlonger := hsearched.shorter
      rw [hsplit, List.pairwise_append] at hlonger
      have hlength := hlonger.2.2 nearer hnearer file.directory List.mem_cons_self
      have hbelow : nearer <+: fs.workingDirectory := by
        refine ((hsearched.all nearer).1 ?_).2
        rw [hsplit]
        exact List.mem_append_left _ hnearer
      rw [inDirectory?_eq_none_iff (hnames hbelow)]
      refine h.none_nearer nearer ?_ hbelow ?_
      · exact List.prefix_of_prefix_length_le h.above hbelow hlength.le
      · rintro rfl
        exact lt_irrefl _ hlength

theorem find?_eq_none_iff : find? fs = none ↔
    ∀ directory, fs.top <+: directory → directory <+: fs.workingDirectory →
      ∀ bytes, ¬fs.root.HasFile (directory ++ [fileName]) bytes := by
  rw [find?, List.findSome?_eq_none_iff]
  simp only [(ascends_searched htop).all, and_imp]
  refine forall_congr' fun directory ↦ forall_congr' fun _ ↦ forall_congr' fun hbelow ↦ ?_
  exact inDirectory?_eq_none_iff fun hmem ↦ hup (hbelow.subset hmem)

theorem findIn_eq_ok_iff {file : ProjectFile} : findIn fs = .ok file ↔ Nearest fs file := by
  rw [← find?_eq_some_iff hup htop, findIn]
  cases find? fs <;> simp

end Search

variable (toml : TomlReader) (names : Pattern.CharacterNames)

def configurationIn (fs : FileSystem) : Except ProjectFault Configuration := do
  (← findIn fs).configuration toml names

variable {toml names}

theorem tableIn_ne_noFile (key : String) (d : Data) (searched : List String) :
    tableIn key d ≠ .error (.noFile searched) := by
  intro h
  cases d <;> cases h

theorem settings_ne_noFile (file : ProjectFile) (searched : List String) :
    file.settings toml ≠ .error (.noFile searched) := by
  intro h
  rcases bind_eq_error_iff.1 h with hread | ⟨root, -, h⟩
  · cases hroot : toml file.bytes <;> rw [hroot] at hread <;> cases hread
  · rcases bind_eq_error_iff.1 h with htool | ⟨tool, -, hsection⟩
    · exact tableIn_ne_noFile _ _ _ htool
    · exact tableIn_ne_noFile _ _ _ hsection

theorem configuration_ne_noFile (file : ProjectFile) (searched : List String) :
    file.configuration toml names ≠ .error (.noFile searched) := by
  intro h
  rcases bind_eq_error_iff.1 h with hsettings | ⟨settings, -, hread⟩
  · exact settings_ne_noFile file searched hsettings
  · cases hresult : Configuration.ofSettings names .standard file.projectName settings with
    | ok configuration =>
      rw [hresult] at hread
      cases hread
    | error fault =>
      rw [hresult] at hread
      cases hread

theorem configurationIn_of_findIn {fs : FileSystem} {file : ProjectFile}
    (h : findIn fs = .ok file) :
    configurationIn toml names fs = file.configuration toml names := by
  rw [configurationIn, h]
  rfl

/-- The bytes of the file and the name of its directory are all that is read of it. -/
theorem configuration_congr {file other : ProjectFile} (hbytes : other.bytes = file.bytes)
    (hname : other.directory.getLast? = file.directory.getLast?) :
    other.configuration toml names = file.configuration toml names := by
  unfold configuration settings projectName
  rw [hbytes, hname]

theorem configurationIn_eq_noFile_iff {fs : FileSystem} (hup : ".." ∉ fs.workingDirectory)
    (htop : fs.top <+: fs.workingDirectory) {paths : List String} :
    configurationIn toml names fs = .error (.noFile paths) ↔
      (∀ directory, fs.top <+: directory → directory <+: fs.workingDirectory →
        ∀ bytes, ¬fs.root.HasFile (directory ++ [fileName]) bytes) ∧
      paths = (searched fs).map fun directory ↦ (Path.ofAbsolute directory).text := by
  rw [← find?_eq_none_iff hup htop, configurationIn, findIn]
  cases find? fs with
  | some file =>
    refine iff_of_false (configuration_ne_noFile file paths) ?_
    simp
  | none =>
    rw [and_iff_right rfl]
    constructor
    · intro h
      cases h
      rfl
    · rintro rfl
      rfl

/-- A project file is created or changed in the directory, or taken away from it. -/
inductive Edit (directory : List String) : Entry → Entry → Prop
  | put {tree : Entry} (bytes : List UInt8) :
      tree.HasDirectory directory → ¬tree.HasDirectory (directory ++ [fileName]) →
      Edit directory tree (tree.writeFile (directory ++ [fileName]) bytes)
  | remove {tree : Entry} {bytes : List UInt8} :
      tree.HasFile (directory ++ [fileName]) bytes →
      Edit directory tree (tree.remove (directory ++ [fileName]))

theorem Edit.hasFile_iff {directory way : List String} {tree other : Entry} {bytes : List UInt8}
    (h : Edit directory tree other) (hway : way ≠ directory ++ [fileName]) :
    other.HasFile way bytes ↔ tree.HasFile way bytes := by
  cases h with
  | put written hdirectory hplace =>
    rw [Entry.hasFile_writeFile_iff ?_ hplace, if_neg hway]
    intro before rest hrest hbefore found hfile
    have habove : before <+: directory ++ [fileName] := ⟨rest, hbefore.symm⟩
    rcases List.prefix_concat_iff.1 habove with rfl | habove
    · simp [hrest] at hbefore
    · exact hfile.not_hasDirectory (hdirectory.of_prefix habove)
  | remove hfile =>
    rw [Entry.hasFile_remove_iff (by simp) hfile, and_iff_right hway]

/-- An edit that is not made in the directory of the file, nor in one nearer to the working
directory. -/
def EditElsewhere (fs : FileSystem) (file : ProjectFile) (tree other : Entry) : Prop :=
  ∃ directory, ¬(file.directory <+: directory ∧ directory <+: fs.workingDirectory) ∧
    Edit directory tree other

theorem Nearest.of_edit {fs : FileSystem} {file : ProjectFile} {root : Entry}
    (h : Nearest fs file) (hedit : EditElsewhere fs file fs.root root) :
    Nearest { fs with root } file := by
  obtain ⟨directory, houtside, hedit⟩ := hedit
  have hsame {place : List String} {bytes : List UInt8} (hbelow : file.directory <+: place)
      (habove : place <+: fs.workingDirectory) :
      root.HasFile (place ++ [fileName]) bytes ↔ fs.root.HasFile (place ++ [fileName]) bytes := by
    apply hedit.hasFile_iff
    intro heq
    obtain rfl := List.append_cancel_right heq
    exact houtside ⟨hbelow, habove⟩
  refine ⟨h.top, h.above, (hsame List.prefix_rfl h.above).2 h.there, ?_⟩
  intro nearer hbelow habove hne bytes hfile
  exact h.none_nearer nearer hbelow habove hne bytes ((hsame hbelow habove).1 hfile)

theorem Nearest.of_edits {fs : FileSystem} {file : ProjectFile} {root : Entry}
    (h : Nearest fs file) (hedits : Relation.ReflTransGen (EditElsewhere fs file) fs.root root) :
    Nearest { fs with root } file := by
  induction hedits with
  | refl => exact h
  | tail _ hedit ih => exact ih.of_edit hedit

/-- The nearest project file decides, whatever it holds: of the directories that are searched, from
the working directory to the top, it is in the first one that has such a file, and there is none
only if all of them lack it. The configuration depends on what the file holds and on the name of its
directory, and not on other project files that are created, changed or taken away. -/
theorem findIn_nearest (toml : TomlReader) (names : Pattern.CharacterNames) (fs : FileSystem)
    (hup : ".." ∉ fs.workingDirectory) (htop : fs.top <+: fs.workingDirectory) :
    Ascends fs (searched fs) ∧
    (∀ file, findIn fs = .ok file ↔ Nearest fs file) ∧
    (∀ paths, configurationIn toml names fs = .error (.noFile paths) ↔
      (∀ directory, fs.top <+: directory → directory <+: fs.workingDirectory →
        ∀ bytes, ¬fs.root.HasFile (directory ++ [fileName]) bytes) ∧
      paths = (searched fs).map fun directory ↦ (Path.ofAbsolute directory).text) ∧
    ∀ file, Nearest fs file →
      (∀ other found, findIn other = .ok found → found.bytes = file.bytes →
        found.directory.getLast? = file.directory.getLast? →
        configurationIn toml names other = configurationIn toml names fs) ∧
      ∀ root, Relation.ReflTransGen (EditElsewhere fs file) fs.root root →
        findIn { fs with root } = .ok file ∧
        configurationIn toml names { fs with root } = configurationIn toml names fs := by
  refine ⟨ascends_searched htop, fun file ↦ findIn_eq_ok_iff hup htop,
    fun paths ↦ configurationIn_eq_noFile_iff hup htop, fun file h ↦ ?_⟩
  have hfile : configurationIn toml names fs = file.configuration toml names :=
    configurationIn_of_findIn ((findIn_eq_ok_iff hup htop).2 h)
  constructor
  · intro other found hfound hbytes hname
    rw [configurationIn_of_findIn hfound, hfile, configuration_congr hbytes hname]
  · intro root hedits
    have hroot : findIn { fs with root } = .ok file :=
      (@findIn_eq_ok_iff { fs with root } hup htop file).2 (h.of_edits hedits)
    exact ⟨hroot, by rw [configurationIn_of_findIn hroot, hfile]⟩

/-- A project whose working directory has a directory with the name of a project file. -/
def nested : FileSystem where
  root := .directory [("work", .directory
    [(fileName, .file []), ("notes", .directory []),
      ("plan", .directory [(fileName, .directory [])])])]
  workingDirectory := ["work", "plan"]
  top := []

def nestedProject : ProjectFile := ⟨["work"], []⟩

def nestedEdited : Entry :=
  (nested.root.writeFile [fileName] [0x5B]).writeFile ["work", "notes", fileName] [0x5D]

theorem edits_nested :
    Relation.ReflTransGen (EditElsewhere nested nestedProject) nested.root nestedEdited := by
  refine .tail (.single ⟨[], by decide, .put [0x5B] ⟨_, rfl⟩ ?_⟩)
    ⟨["work", "notes"], by decide, .put [0x5D] ⟨[], ?_⟩ ?_⟩
  · rintro ⟨entries, hentries⟩
    cases hentries
  · rfl
  · rintro ⟨entries, hentries⟩
    cases hentries

def readsBlank : TomlReader := fun bytes ↦
  if bytes = [] then .ok []
  else .error ⟨"TomlDecodeError", "Opening key group bracket on line by itself. " ++
    "(line 1 column 1 char 0)"⟩

theorem findIn_nearest_nested :
    ".." ∉ nested.workingDirectory ∧ nested.top <+: nested.workingDirectory ∧
    Nearest nested nestedProject ∧
    findIn { nested with root := nestedEdited } = .ok nestedProject ∧
    configurationIn readsBlank Pattern.noNames { nested with root := nestedEdited } =
      configurationIn readsBlank Pattern.noNames nested := by
  have hup : ".." ∉ nested.workingDirectory := by decide
  have htop : nested.top <+: nested.workingDirectory := List.nil_prefix
  obtain ⟨-, hfound, -, hdecides⟩ := findIn_nearest readsBlank Pattern.noNames nested hup htop
  have hnearest : Nearest nested nestedProject := (hfound nestedProject).1 rfl
  exact ⟨hup, htop, hnearest, (hdecides nestedProject hnearest).2 nestedEdited edits_nested⟩

end GherkinLint.ProjectFile
