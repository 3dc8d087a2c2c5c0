import GherkinLint.Proofs.FileTree.Below
import GherkinLint.Text.Blank
import Mathlib.Data.List.Forall2
import Mathlib.Data.List.Sort
import Mathlib.Logic.Relation

namespace GherkinLint

namespace Entry

inductive Reordered : Entry → Entry → Prop
  | here {entries others : Members Entry} :
      entries.Perm others → Reordered (directory entries) (directory others)
  | inside {name : String} {inner other : Entry} (before after : Members Entry) :
      Reordered inner other →
      Reordered (directory (before ++ (name, inner) :: after))
        (directory (before ++ (name, other) :: after))

def content? : Entry → Option (List UInt8)
  | file bytes => some bytes
  | directory _ => none

/-- The same files and directories lie at the same ways. -/
def Alike (tree other : Entry) : Prop :=
  ∀ way, (tree.at? way).map content? = (other.at? way).map content?

variable {tree other : Entry}

theorem Alike.symm (h : tree.Alike other) : other.Alike tree := fun way ↦ (h way).symm

theorem Alike.hasFile_iff (h : tree.Alike other) {way : List String} {bytes : List UInt8} :
    tree.HasFile way bytes ↔ other.HasFile way bytes := by
  have hcontent (found : Option Entry) :
      found = some (file bytes) ↔ found.map content? = some (some bytes) := by
    rcases found with _ | _ | _ <;> simp [content?]
  rw [HasFile, HasFile, hcontent, hcontent, h way]

theorem Alike.lookup {entries others : Members Entry}
    (h : (directory entries).Alike (directory others)) {name : String} {inner : Entry}
    (hinner : entries.lookup name = some inner) :
    ∃ found, others.lookup name = some found ∧ inner.Alike found := by
  have hway (way : List String) :
      (inner.at? way).map content? = ((others.lookup name).bind (·.at? way)).map content? := by
    have := h (name :: way)
    rwa [at?, at?, hinner] at this
  cases hfound : others.lookup name with
  | none =>
    have hnil := hway []
    rw [hfound] at hnil
    cases hnil
  | some found =>
    refine ⟨found, rfl, fun way ↦ ?_⟩
    rw [hway, hfound]
    rfl

theorem Reordered.wellNamed (h : tree.Reordered other) (htree : tree.WellNamed) :
    other.WellNamed := by
  induction h with
  | here hperm =>
    obtain _ | ⟨hnames, hup, hinner⟩ := htree
    have hothers := hperm.map Prod.fst
    exact .directory (hothers.nodup hnames) (fun hmem ↦ hup (hothers.mem_iff.2 hmem))
      fun e he ↦ hinner e (hperm.mem_iff.2 he)
  | @inside name inner other before after _ ih =>
    obtain _ | ⟨hnames, hup, hinner⟩ := htree
    have hsame : Members.names (before ++ (name, other) :: after) =
        Members.names (before ++ (name, inner) :: after) := by
      simp [Members.names]
    refine .directory (hsame ▸ hnames) (hsame ▸ hup) fun e he ↦ ?_
    rcases List.mem_append.1 he with he | he
    · exact hinner e (List.mem_append_left _ he)
    rcases List.mem_cons.1 he with rfl | he
    · exact ih (hinner (name, inner) (by simp))
    · exact hinner e (by simp [he])

theorem Reordered.alike (h : tree.Reordered other) (htree : tree.WellNamed) : tree.Alike other := by
  intro way
  induction h generalizing way with
  | here hperm =>
    obtain _ | ⟨hnames, -, -⟩ := htree
    cases way with
    | nil => rfl
    | cons part way => rw [at?, at?, Members.lookup_eq_of_perm hnames hperm]
  | @inside name inner other before after _ ih =>
    obtain _ | ⟨-, -, hinner⟩ := htree
    have hsame := ih (hinner (name, inner) (by simp))
    cases way with
    | nil => rfl
    | cons part way =>
      rw [at?, at?, Members.lookup_between, Members.lookup_between]
      cases before.lookup part with
      | some found => rfl
      | none =>
        by_cases hpart : part = name
        · rw [if_pos hpart, if_pos hpart]
          exact hsame way
        · rw [if_neg hpart, if_neg hpart]

theorem Alike.filesBelow_eq (h : tree.Alike other) (htree : tree.WellNamed)
    (hother : other.WellNamed) : tree.filesBelow = other.filesBelow := by
  refine List.SortedLT.eq_of_mem_iff (pairwise_filesBelow htree).sortedLT
    (pairwise_filesBelow hother).sortedLT fun way ↦ ?_
  rw [mem_filesBelow_iff htree, mem_filesBelow_iff hother]
  simp only [h.hasFile_iff]

end Entry

namespace FileSystem

variable {fs : FileSystem}

theorem follow_cons (entries : Members Entry) (above : List Entry) (part : String)
    (rest : List String) :
    follow (.directory entries) above (part :: rest) =
      if part = ".." then
        follow (above.head?.getD (.directory entries)) above.tail rest
      else
        match entries.lookup part with
        | some inner => follow inner (.directory entries :: above) rest
        | none => .error .notFound := by
  conv_lhs => unfold follow
  cases above <;> rfl

theorem follow_alike {here other found : Entry} {above others : List Entry} {parts : List String}
    (hhere : here.Alike other) (habove : List.Forall₂ Entry.Alike above others)
    (h : follow here above parts = .ok found) :
    ∃ result, follow other others parts = .ok result ∧ found.Alike result := by
  induction parts generalizing here other above others with
  | nil =>
    obtain rfl : here = found := Except.ok.inj h
    exact ⟨other, rfl, hhere⟩
  | cons part parts ih =>
    cases here with
    | file => cases h
    | directory entries =>
      cases other with
      | file => cases hhere []
      | directory members =>
        rw [follow_cons] at h ⊢
        by_cases hpart : part = ".."
        · rw [if_pos hpart] at h ⊢
          cases habove with
          | nil => exact ih hhere .nil h
          | cons hup habove => exact ih hup habove h
        · rw [if_neg hpart] at h ⊢
          cases hlookup : entries.lookup part with
          | none =>
            rw [hlookup] at h
            cases h
          | some inner =>
            rw [hlookup] at h
            obtain ⟨next, hnext, hinner⟩ := hhere.lookup hlookup
            rw [hnext]
            exact ih hinner (.cons hhere habove) h

/-- What lies at the end of a path is well named, and the path goes on from there. -/
theorem follow_append {here found : Entry} {above : List Entry} {parts : List String}
    (hhere : here.WellNamed) (habove : ∀ up ∈ above, up.WellNamed)
    (h : follow here above parts = .ok found) :
    found.WellNamed ∧ ∃ passed, ∀ rest,
      follow here above (parts ++ rest) = follow found passed rest := by
  induction parts generalizing here above with
  | nil =>
    obtain rfl : here = found := Except.ok.inj h
    exact ⟨hhere, above, fun _ ↦ rfl⟩
  | cons part parts ih =>
    cases here with
    | file => cases h
    | directory entries =>
      rw [follow_cons] at h
      simp only [List.cons_append, follow_cons]
      by_cases hpart : part = ".."
      · rw [if_pos hpart] at h
        simp only [if_pos hpart]
        cases above with
        | nil => exact ih hhere habove h
        | cons up above =>
          rw [List.forall_mem_cons] at habove
          exact ih habove.1 habove.2 h
      · rw [if_neg hpart] at h
        simp only [if_neg hpart]
        cases hlookup : entries.lookup part with
        | none =>
          rw [hlookup] at h
          cases h
        | some inner =>
          rw [hlookup] at h
          obtain _ | ⟨-, -, hinner⟩ := id hhere
          refine ih (hinner _ (Members.mem_of_lookup hlookup)) ?_ h
          exact List.forall_mem_cons.2 ⟨hhere, habove⟩

theorem absolute_extend (path : Path) (way : List String) :
    fs.absolute (path.extend way) = fs.absolute path ++ way := by
  unfold absolute Path.isAbsolute Path.extend
  split
  · rfl
  · rw [List.append_assoc]

section WellNamed

variable (hroot : fs.root.WellNamed)
include hroot

theorem wellNamed_of_find {path : Path} {found : Entry} (h : fs.find path = .ok found) :
    found.WellNamed :=
  (follow_append hroot (fun _ h ↦ absurd h List.not_mem_nil) h).1

theorem isFile_extend {path : Path} {found : Entry} {way : List String} {bytes : List UInt8}
    (hfound : fs.find path = .ok found) (hfile : found.HasFile way bytes) :
    fs.isFile (path.extend way) = true := by
  obtain ⟨hwell, passed, hpassed⟩ :=
    follow_append hroot (fun _ h ↦ absurd h List.not_mem_nil) hfound
  have hfind : fs.find (path.extend way) = .ok (.file bytes) := by
    rw [find, absolute_extend, hpassed]
    exact (follow_eq_ok_iff (hwell.at? hfile).2).2 hfile
  rw [isFile, hfind]
  rfl

end WellNamed

/-- What is to be found for an argument. Below a directory these are all files whose paths are
included, in ascending order; anything else stands for itself, if it is such a file. -/
structure Selects (fs : FileSystem) (includes : Path → Bool) (argument : Path)
    (found : List Path) : Prop where
  below : ∀ entries, fs.find argument = .ok (.directory entries) →
    ∃ ways : List (List String), found = ways.map argument.extend ∧ ways.Pairwise (· < ·) ∧
      ∀ way, way ∈ ways ↔
        (∃ bytes, (Entry.directory entries).HasFile way bytes) ∧ includes (argument.extend way)
  itself : (∀ entries, fs.find argument ≠ .ok (.directory entries)) →
    found = if fs.isFile argument ∧ includes argument then [argument] else []

theorem selects_filesAt (hroot : fs.root.WellNamed) (includes : Path → Bool) (argument : Path) :
    fs.Selects includes argument ((fs.filesAt argument).filter includes) := by
  constructor
  · intro entries hfind
    have hwell := wellNamed_of_find hroot hfind
    refine ⟨((Entry.directory entries).filesBelow).filter (includes ∘ argument.extend), ?_, ?_, ?_⟩
    · rw [filesAt, hfind, List.filter_map]
    · exact (Entry.pairwise_filesBelow hwell).filter _
    · intro way
      rw [List.mem_filter, Entry.mem_filesBelow_iff hwell]
      refine and_congr_left fun _ ↦ and_iff_right_of_imp ?_
      rintro ⟨bytes, hfile⟩ rfl
      cases hfile
  · intro hnone
    unfold filesAt isFile
    cases hfind : fs.find argument with
    | error => rfl
    | ok found =>
      cases found with
      | directory entries => exact absurd hfind (hnone entries)
      | file bytes => simp [Entry.isFile, List.filter_singleton]

theorem filesAt_reordered (hroot : fs.root.WellNamed) {root : Entry}
    (h : fs.root.Reordered root) (argument : Path) :
    { fs with root }.filesAt argument = fs.filesAt argument := by
  have hother := h.wellNamed hroot
  have halike := h.alike hroot
  cases hfind : fs.find argument with
  | error fault =>
    cases hfound : { fs with root }.find argument with
    | error => rw [filesAt, filesAt, hfind, hfound]
    | ok found =>
      obtain ⟨result, hresult, -⟩ := follow_alike halike.symm .nil hfound
      cases hfind.symm.trans hresult
  | ok found =>
    obtain ⟨result, hresult, hsame⟩ := follow_alike halike .nil hfind
    have hresult : { fs with root }.find argument = .ok result := hresult
    rw [filesAt, filesAt, hfind, hresult]
    match found, result with
    | .file _, .file _ => rfl
    | .directory entries, .directory others =>
      have hwell := wellNamed_of_find hroot hfind
      have hwell' : (Entry.directory others).WellNamed := wellNamed_of_find hother hresult
      exact congrArg _ (hsame.filesBelow_eq hwell hwell').symm
    | .file _, .directory _ | .directory _, .file _ => cases hsame []

theorem Selects.isFile (hroot : fs.root.WellNamed) {includes : Path → Bool} {argument : Path}
    {found : List Path} (h : fs.Selects includes argument found) {path : Path}
    (hpath : path ∈ found) : fs.isFile path = true := by
  by_cases hdirectory : ∃ entries, fs.find argument = .ok (.directory entries)
  · obtain ⟨entries, hfind⟩ := hdirectory
    obtain ⟨ways, rfl, -, hways⟩ := h.below entries hfind
    obtain ⟨way, hway, rfl⟩ := List.mem_map.1 hpath
    obtain ⟨⟨bytes, hfile⟩, -⟩ := (hways way).1 hway
    exact isFile_extend hroot hfind hfile
  · rw [h.itself (not_exists.1 hdirectory)] at hpath
    split at hpath
    next hincluded =>
      obtain rfl := List.mem_singleton.1 hpath
      exact hincluded.1
    next => cases hpath

theorem filesFor_reordered (hroot : fs.root.WellNamed) (includes : Path → Bool)
    (arguments : List Path) {root : Entry}
    (h : Relation.ReflTransGen Entry.Reordered fs.root root) :
    root.WellNamed ∧
      { fs with root }.filesFor includes arguments = fs.filesFor includes arguments := by
  induction h with
  | refl => exact ⟨hroot, rfl⟩
  | @tail root next _ hstep ih =>
    obtain ⟨hwell, hfiles⟩ := ih
    refine ⟨hstep.wellNamed hwell, ?_⟩
    have hcurrent : { fs with root }.root.WellNamed := hwell
    have hsame := funext (filesAt_reordered hcurrent hstep)
    rw [← hfiles, filesFor, filesFor, hsame]

/-- The files for arguments are found argument by argument, and all of them are files. The order in
which directories list their entries does not matter. -/
theorem filesFor_selects (fs : FileSystem) (hroot : fs.root.WellNamed) (includes : Path → Bool)
    (arguments : List Path) :
    (∃ found : Path → List Path, (∀ argument, fs.Selects includes argument (found argument)) ∧
      fs.filesFor includes arguments = arguments.flatMap found) ∧
    (∀ path ∈ fs.filesFor includes arguments, fs.isFile path) ∧
    ∀ root, Relation.ReflTransGen Entry.Reordered fs.root root →
      { fs with root }.filesFor includes arguments = fs.filesFor includes arguments := by
  have hselects := selects_filesAt hroot includes
  have hfiles : fs.filesFor includes arguments =
      arguments.flatMap fun argument ↦ (fs.filesAt argument).filter includes := by
    rw [filesFor, List.filter_flatMap]
  refine ⟨⟨_, hselects, hfiles⟩, fun path hpath ↦ ?_, fun root h ↦ ?_⟩
  · rw [hfiles] at hpath
    obtain ⟨argument, -, hpath⟩ := List.mem_flatMap.1 hpath
    exact (hselects argument).isFile hroot hpath
  · exact (filesFor_reordered hroot includes arguments h).2

def shelf : Members Entry :=
  [("a.feature", .file []), ("x.feature", .directory [("deep.feature", .file [])]),
    ("a", .directory [("b.feature", .file []), ("notes", .file [])]), (".a.feature", .file [])]

def shelfDisk (entries : Members Entry) : FileSystem :=
  ⟨.directory [("features", .directory entries)], [], []⟩

def isFeature (path : Path) : Bool := Text.holds ".feature".toList path.text.toList

def shelfArguments : List Path :=
  [Path.ofText "features", Path.ofText "features/a.feature", Path.ofText "features/gone.feature"]

theorem wellNamed_shelfDisk : (shelfDisk shelf).root.WellNamed := by
  have hdeep : (Entry.directory [("deep.feature", .file [])]).WellNamed :=
    .directory (by decide) (by decide) (by simp [Entry.WellNamed.file])
  have hnotes : (Entry.directory [("b.feature", .file []), ("notes", .file [])]).WellNamed :=
    .directory (by decide) (by decide) (by simp [Entry.WellNamed.file])
  have hshelf : (Entry.directory shelf).WellNamed :=
    .directory (by decide) (by decide) (by simp [shelf, Entry.WellNamed.file, hdeep, hnotes])
  exact .directory (by decide) (by decide) (by simp [hshelf])

theorem filesBelow_shelf : (Entry.directory shelf).filesBelow =
    [[".a.feature"], ["a", "b.feature"], ["a", "notes"], ["a.feature"],
      ["x.feature", "deep.feature"]] :=
  Entry.filesBelow_eq_of_perm (by decide) (by decide)

theorem filesFor_selects_shelf :
    (shelfDisk shelf).root.WellNamed ∧
    (shelfDisk shelf).root.Reordered (shelfDisk shelf.reverse).root ∧
    ((shelfDisk shelf.reverse).filesFor isFeature shelfArguments).map Path.text =
      ["features/.a.feature", "features/a/b.feature", "features/a.feature",
        "features/x.feature/deep.feature", "features/a.feature"] := by
  have hreordered : (shelfDisk shelf).root.Reordered (shelfDisk shelf.reverse).root :=
    .inside [] [] (.here (List.reverse_perm shelf).symm)
  refine ⟨wellNamed_shelfDisk, hreordered, ?_⟩
  obtain ⟨-, -, hsame⟩ :=
    filesFor_selects (shelfDisk shelf) wellNamed_shelfDisk isFeature shelfArguments
  refine (congrArg (List.map Path.text) (hsame _ (.single hreordered))).trans ?_
  have hbelow : (shelfDisk shelf).filesAt (Path.ofText "features") =
      (Entry.directory shelf).filesBelow.map (Path.ofText "features").extend := rfl
  rw [filesFor, shelfArguments, List.flatMap_cons, hbelow, filesBelow_shelf]
  decide +kernel

end FileSystem

end GherkinLint
