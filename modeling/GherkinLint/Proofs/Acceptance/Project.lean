import GherkinLint.Acceptance.Environment
import GherkinLint.Proofs.FileTree.Written
import Mathlib.Data.List.Induction

namespace GherkinLint

/-- The path never leaves the directory that lies so many steps above it. -/
def StaysBelow : Nat → List String → Prop
  | _, [] => True
  | depth, part :: rest =>
    if part = ".." then 0 < depth ∧ StaysBelow (depth - 1) rest else StaysBelow (depth + 1) rest

instance StaysBelow.decidable : (depth : Nat) → (parts : List String) →
    Decidable (StaysBelow depth parts)
  | _, [] => isTrue trivial
  | depth, part :: rest =>
    have := decidable (depth - 1) rest
    have := decidable (depth + 1) rest
    inferInstanceAs (Decidable (if part = ".." then _ else _))

theorem StaysBelow.take {depth : Nat} {parts : List String} (h : StaysBelow depth parts) (n : Nat) :
    StaysBelow depth (parts.take n) := by
  induction parts generalizing depth n with
  | nil => simpa using h
  | cons part rest ih =>
    cases n with
    | zero => trivial
    | succ n =>
      rw [StaysBelow] at h
      rw [List.take_succ_cons, StaysBelow]
      split at h
      next hpart =>
        rw [if_pos hpart]
        exact ⟨h.1, ih h.2 n⟩
      next hpart =>
        rw [if_neg hpart]
        exact ih h n

namespace Environment

theorem resolve_append {parts : List String} (directory way : List String)
    (h : StaysBelow way.length parts) :
    resolve (directory ++ way) parts = directory ++ resolve way parts := by
  induction parts generalizing way with
  | nil => rfl
  | cons part rest ih =>
    rw [StaysBelow] at h
    rw [resolve, resolve]
    split at h
    next hpart =>
      have hne : way ≠ [] := List.length_pos_iff.1 h.1
      rw [if_pos hpart, if_pos hpart, List.dropLast_append_of_ne_nil hne]
      exact ih _ (by simpa using h.2)
    next hpart =>
      rw [if_neg hpart, if_neg hpart, List.append_assoc]
      exact ih _ (by simpa using h)

theorem resolve_concat (way parts : List String) (part : String) :
    resolve way (parts ++ [part]) =
      if part = ".." then (resolve way parts).dropLast else resolve way parts ++ [part] := by
  induction parts generalizing way with
  | nil => rfl
  | cons first rest ih =>
    rw [List.cons_append, resolve, resolve, ih, ih]
    split <;> rfl

end Environment

namespace Project

open Environment

def wayOf (path : String) : List String := resolve [] (Path.ofText path).parts

def passed (path : String) : List (List String) :=
  (List.range (Path.ofText path).parts.length).map fun n ↦
    resolve [] ((Path.ofText path).parts.take n)

def Inward (path : String) : Prop :=
  (Path.ofText path).isAbsolute = false ∧ StaysBelow 0 (Path.ofText path).parts

instance (path : String) : Decidable (Inward path) := inferInstanceAs (Decidable (_ ∧ _))

/-- Files that can be created side by side below a directory. None of them stands where another one,
or itself, needs a directory. -/
structure Creatable (files : Members String) : Prop where
  inward : ∀ file ∈ files, Inward file.1
  below : ∀ file ∈ files, wayOf file.1 ≠ []
  apart : ∀ file ∈ files, ∀ other ∈ files, ∀ directory ∈ passed other.1, ¬wayOf file.1 <+: directory

def textAt (files : Members String) (way : List String) : Option String :=
  ((files.filter fun file ↦ wayOf file.1 = way).getLast?).map (·.2)

/-- The tree has these files, the directories that their paths pass through, and nothing else. -/
structure Holds (tree : Entry) (files : Members String) : Prop where
  file : ∀ way bytes, tree.HasFile way bytes ↔
    ∃ text, textAt files way = some text ∧ bytes = Text.Utf8.encode text.toList
  directory : ∀ way, tree.HasDirectory way ↔
    way = [] ∨ ∃ file ∈ files, ∃ directory ∈ passed file.1, way <+: directory

theorem textAt_concat (files : Members String) (file : String × String) (way : List String) :
    textAt (files ++ [file]) way =
      if way = wayOf file.1 then some file.2 else textAt files way := by
  rw [textAt, List.filter_append]
  by_cases h : wayOf file.1 = way
  · rw [if_pos h.symm, List.filter_cons_of_pos (by simpa using h)]
    simp
  · rw [if_neg (Ne.symm h), List.filter_cons_of_neg (by simpa using h)]
    simp [textAt]

theorem exists_of_textAt {files : Members String} {way : List String} {text : String}
    (h : textAt files way = some text) : ∃ file ∈ files, wayOf file.1 = way := by
  obtain ⟨file, hlast, -⟩ := Option.map_eq_some_iff.1 h
  obtain ⟨hmem, hway⟩ := List.mem_filter.1 (List.mem_of_getLast? hlast)
  exact ⟨file, hmem, by simpa using hway⟩

/-- What lies above the end of a path has been passed. -/
theorem exists_passed_of_append {path : String} {before rest : List String} (hrest : rest ≠ [])
    (h : wayOf path = before ++ rest) : ∃ directory ∈ passed path, before <+: directory := by
  unfold wayOf at h
  unfold passed
  generalize (Path.ofText path).parts = parts at h
  rcases List.eq_nil_or_concat parts with rfl | ⟨parts, part, rfl⟩
  · rw [resolve] at h
    exact absurd (List.append_eq_nil_iff.1 h.symm).2 hrest
  rw [List.concat_eq_append] at *
  refine ⟨resolve [] parts, List.mem_map.2 ⟨parts.length, ?_, ?_⟩, ?_⟩
  · simp
  · simp
  · rw [resolve_concat] at h
    split at h
    · exact (h ▸ List.prefix_append before rest).trans (List.dropLast_prefix _)
    · rcases List.prefix_concat_iff.1 (h ▸ List.prefix_append before rest) with heq | hwithin
      · have hlength := congrArg List.length (h.symm.trans heq.symm)
        have hpos := List.length_pos_iff.2 hrest
        simp only [List.length_append] at hlength
        omega
      · exact hwithin

theorem Creatable.of_append {files more : Members String} (h : Creatable (files ++ more)) :
    Creatable files where
  inward file hfile := h.inward file (List.mem_append_left more hfile)
  below file hfile := h.below file (List.mem_append_left more hfile)
  apart file hfile other hother :=
    h.apart file (List.mem_append_left more hfile) other (List.mem_append_left more hother)

theorem holds_nil : Holds (.directory []) [] := by
  constructor
  · intro way bytes
    cases way <;> simp [Entry.HasFile, Entry.at?, textAt]
  · intro way
    cases way <;> simp [Entry.HasDirectory, Entry.at?]

theorem writeFile_of_inward {file : String × String} (h : Inward file.1) (tree : Entry) :
    writeFile [] tree file = ((passed file.1).foldl Entry.makeDirectory tree).writeFile
      (wayOf file.1) (Text.Utf8.encode file.2.toList) := by
  simp only [writeFile, h.1, wayOf, passed]
  rfl

/-- One more file. -/
theorem Holds.writeFile {tree : Entry} {files : Members String} {file : String × String}
    (h : Holds tree files) (hfiles : Creatable (files ++ [file])) :
    Holds (Environment.writeFile [] tree file) (files ++ [file]) := by
  have hmem : file ∈ files ++ [file] := List.mem_append_right files (List.mem_singleton_self file)
  have hapart : ∀ directory ∈ passed file.1, ∀ before, before <+: directory → ∀ bytes,
      ¬tree.HasFile before bytes := by
    intro directory hdirectory before hbefore bytes hfile
    obtain ⟨text, htext, -⟩ := (h.file before bytes).1 hfile
    obtain ⟨other, hother, rfl⟩ := exists_of_textAt htext
    exact hfiles.apart other (List.mem_append_left _ hother) file hmem directory hdirectory hbefore
  have hfree : ∀ before rest, rest ≠ [] → wayOf file.1 = before ++ rest → ∀ bytes,
      ¬((passed file.1).foldl Entry.makeDirectory tree).HasFile before bytes := by
    intro before rest hrest hway bytes
    rw [Entry.hasFile_makeDirectories_iff hapart]
    obtain ⟨directory, hdirectory, hbefore⟩ := exists_passed_of_append hrest hway
    exact hapart directory hdirectory before hbefore bytes
  have hplace : ¬((passed file.1).foldl Entry.makeDirectory tree).HasDirectory (wayOf file.1) := by
    rw [Entry.hasDirectory_makeDirectories_iff hapart, h.directory]
    rintro ((hnil | ⟨other, hother, directory, hpassed, hbefore⟩) | ⟨directory, hpassed, hbefore⟩)
    · exact hfiles.below file hmem hnil
    · have hother : other ∈ files ++ [file] := List.mem_append_left _ hother
      exact hfiles.apart file hmem other hother directory hpassed hbefore
    · exact hfiles.apart file hmem file hmem directory hpassed hbefore
  rw [writeFile_of_inward (hfiles.inward file hmem)]
  constructor
  · intro way bytes
    rw [Entry.hasFile_writeFile_iff hfree hplace, Entry.hasFile_makeDirectories_iff hapart, h.file,
      textAt_concat]
    split
    · simp
    · rfl
  · intro way
    rw [Entry.hasDirectory_writeFile_iff hplace, Entry.hasDirectory_makeDirectories_iff hapart,
      h.directory]
    constructor
    · rintro (((hnil | ⟨other, hother, hpassed⟩) | hpassed) | ⟨rest, hrest, hway⟩)
      · exact .inl hnil
      · exact .inr ⟨other, List.mem_append_left _ hother, hpassed⟩
      · exact .inr ⟨file, hmem, hpassed⟩
      · exact .inr ⟨file, hmem, exists_passed_of_append hrest hway⟩
    · rintro (hnil | ⟨other, hother, hpassed⟩)
      · exact .inl (.inl (.inl hnil))
      rcases List.mem_append.1 hother with hother | hother
      · exact .inl (.inl (.inr ⟨other, hother, hpassed⟩))
      · obtain rfl := List.mem_singleton.1 hother
        exact .inl (.inr hpassed)

/-- The tree of a project, from what is there already. -/
def treeFrom (tree : Entry) (files : Members String) : Entry := files.foldl (writeFile []) tree

theorem holds_treeFrom {files : Members String} (h : Creatable files) :
    Holds (treeFrom (.directory []) files) files := by
  induction files using List.reverseRecOn with
  | nil => exact holds_nil
  | append_singleton files file ih =>
    rw [treeFrom, List.foldl_append]
    exact (ih h.of_append).writeFile h

section Place

variable {directory : List String} {change : Option Entry → Entry} {tree : Option Entry}

theorem makeDirectories_alter (ways : List (List String)) :
    (ways.map (directory ++ ·)).foldl Entry.makeDirectory (Entry.alter change directory tree) =
      Entry.alter (fun entry ↦ ways.foldl Entry.makeDirectory (change entry)) directory tree := by
  induction ways generalizing change with
  | nil => rfl
  | cons way ways ih =>
    rw [List.map_cons, List.foldl_cons, Entry.makeDirectory, Entry.alter_append, Entry.alter_alter,
      ih]
    rfl

/-- A file that is written into the project of a tree is written into the tree of the project. -/
theorem writeFile_alter {file : String × String} (h : Inward file.1) :
    writeFile directory (Entry.alter change directory tree) file =
      Entry.alter (fun entry ↦ writeFile [] (change entry) file) directory tree := by
  have hresolve {parts : List String} (hparts : StaysBelow 0 parts) :
      resolve directory parts = directory ++ resolve [] parts := by
    simpa using resolve_append directory [] hparts
  have hpassed : ((List.range (Path.ofText file.1).parts.length).map fun n ↦
      resolve directory ((Path.ofText file.1).parts.take n)) =
        (passed file.1).map (directory ++ ·) := by
    rw [passed, List.map_map]
    refine List.map_congr_left fun n _ ↦ ?_
    exact hresolve (h.2.take n)
  simp only [writeFile, h.1, Bool.false_eq_true, if_false, hpassed, hresolve h.2,
    makeDirectories_alter, Entry.writeFile, Entry.alter_append, Entry.alter_alter]
  rfl

theorem writeFiles_alter {files : Members String} (h : ∀ file ∈ files, Inward file.1) :
    files.foldl (writeFile directory) (Entry.alter change directory tree) =
      Entry.alter (fun entry ↦ treeFrom (change entry) files) directory tree := by
  induction files generalizing change with
  | nil => rfl
  | cons file files ih =>
    rw [List.foldl_cons, writeFile_alter (h file List.mem_cons_self),
      ih fun other hother ↦ h other (List.mem_cons_of_mem file hother)]
    rfl

end Place

end Project

namespace Environment

theorem written_root {e : Environment} (h : ∀ file ∈ e.files, Project.Inward file.1) :
    e.written.root = Entry.alter (fun entry ↦ Project.treeFrom (entry.getD (.directory [])) e.files)
      e.projectDirectory (some e.disk.root) :=
  Project.writeFiles_alter h

end Environment

end GherkinLint
