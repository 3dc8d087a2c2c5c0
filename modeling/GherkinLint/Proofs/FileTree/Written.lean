import GherkinLint.Proofs.FileTree.Lookup

namespace GherkinLint

namespace Entry

def HasFile (tree : Entry) (way : List String) (bytes : List UInt8) : Prop :=
  tree.at? way = some (.file bytes)

def HasDirectory (tree : Entry) (way : List String) : Prop :=
  ∃ entries, tree.at? way = some (.directory entries)

variable {tree : Entry} {way other : List String} {bytes : List UInt8}

theorem HasFile.not_hasDirectory (h : tree.HasFile way bytes) : ¬tree.HasDirectory way := by
  rintro ⟨entries, hentries⟩
  cases h.symm.trans hentries

theorem hasFile_or_hasDirectory {entry : Entry} (h : tree.at? way = some entry) :
    (∃ bytes, tree.HasFile way bytes) ∨ tree.HasDirectory way := by
  cases entry with
  | file bytes => exact .inl ⟨bytes, h⟩
  | directory entries => exact .inr ⟨entries, h⟩

/-- Two ways part, or one goes on from the end of the other. -/
theorem way_cases (way other : List String) :
    (∃ rest, other = way ++ rest) ∨ (∃ rest, rest ≠ [] ∧ way = other ++ rest) ∨
      (¬way <+: other ∧ ¬other <+: way) := by
  by_cases hway : way <+: other
  · obtain ⟨rest, rfl⟩ := hway
    exact .inl ⟨rest, rfl⟩
  by_cases hother : other <+: way
  · obtain ⟨rest, rfl⟩ := hother
    refine .inr (.inl ⟨rest, ?_, rfl⟩)
    rintro rfl
    exact hway (by simp)
  · exact .inr (.inr ⟨hway, hother⟩)

theorem at?_makeDirectory_append (rest : List String) :
    (tree.makeDirectory way).at? (way ++ rest) =
      ((tree.at? way).getD (.directory [])).at? rest :=
  at?_alter_append _ way rest (some tree)

section MakeDirectory

variable (hfree : ∀ before, before <+: way → ∀ bytes, ¬tree.HasFile before bytes)
include hfree

theorem hasFile_makeDirectory_iff :
    (tree.makeDirectory way).HasFile other bytes ↔ tree.HasFile other bytes := by
  obtain ⟨rest, rfl⟩ | ⟨rest, hrest, rfl⟩ | ⟨hway, hother⟩ := way_cases way other
  · rw [HasFile, HasFile, at?_makeDirectory_append, at?_append]
    cases tree.at? way with
    | some entry => rfl
    | none => cases rest <;> simp [at?]
  · obtain ⟨entries, hentries⟩ := at?_alter_of_append (fun entry ↦ entry.getD (.directory [])) hrest
      (some tree)
    refine iff_of_false (fun h ↦ h.not_hasDirectory ⟨entries, hentries⟩) ?_
    exact hfree other (List.prefix_append other rest) bytes
  · exact iff_of_eq (congrArg (· = _) (at?_alter_beside _ (some tree) hway hother))

theorem hasDirectory_makeDirectory_iff :
    (tree.makeDirectory way).HasDirectory other ↔ tree.HasDirectory other ∨ other <+: way := by
  obtain ⟨rest, rfl⟩ | ⟨rest, hrest, rfl⟩ | ⟨hway, hother⟩ := way_cases way other
  · rw [HasDirectory, HasDirectory, at?_makeDirectory_append, at?_append]
    have hwithin : way ++ rest <+: way ↔ rest = [] := by
      constructor
      · intro h
        have hlength := h.length_le
        rw [List.length_append] at hlength
        exact List.length_eq_zero_iff.1 (by omega)
      · rintro rfl
        simp
    rw [hwithin]
    cases hentry : tree.at? way with
    | none => cases rest <;> simp [at?]
    | some entry =>
      refine ⟨.inl, ?_⟩
      rintro (h | rfl)
      · exact h
      · cases entry with
        | file bytes => exact absurd hentry (hfree way List.prefix_rfl bytes)
        | directory entries => exact ⟨entries, rfl⟩
  · refine iff_of_true ?_ (.inr (List.prefix_append other rest))
    exact at?_alter_of_append _ hrest (some tree)
  · have h : (tree.makeDirectory way).at? other = tree.at? other :=
      at?_alter_beside _ (some tree) hway hother
    simp [HasDirectory, h, hother]

end MakeDirectory

theorem at?_writeFile_append (written : List UInt8) (rest : List String) :
    (tree.writeFile way written).at? (way ++ rest) = (Entry.file written).at? rest :=
  at?_alter_append _ way rest (some tree)

section WriteFile

variable {written : List UInt8}
variable (hfree : ∀ before rest, rest ≠ [] → way = before ++ rest →
  ∀ bytes, ¬tree.HasFile before bytes)

include hfree in
theorem hasFile_writeFile_iff (hplace : ¬tree.HasDirectory way) :
    (tree.writeFile way written).HasFile other bytes ↔
      if other = way then bytes = written else tree.HasFile other bytes := by
  obtain ⟨rest, rfl⟩ | ⟨rest, hrest, rfl⟩ | ⟨hway, hother⟩ := way_cases way other
  · rw [HasFile, at?_writeFile_append]
    cases rest with
    | nil => simp [at?, eq_comm]
    | cons part rest =>
      have hnone : ¬tree.HasFile (way ++ part :: rest) bytes := by
        rw [HasFile, at?_append]
        intro h
        obtain ⟨entry, hentry, h⟩ := Option.bind_eq_some_iff.1 h
        rcases hasFile_or_hasDirectory hentry with ⟨found, hfile⟩ | hdirectory
        · obtain rfl := Option.some.inj (hentry.symm.trans hfile)
          cases h
        · exact hplace hdirectory
      simp [at?, hnone]
  · have hne : other ≠ other ++ rest := by simpa using hrest.symm
    obtain ⟨entries, hentries⟩ := at?_alter_of_append (fun _ ↦ .file written) hrest (some tree)
    rw [if_neg hne]
    exact iff_of_false (fun h ↦ h.not_hasDirectory ⟨entries, hentries⟩)
      (hfree other rest hrest rfl bytes)
  · have hne : other ≠ way := by
      rintro rfl
      exact hway List.prefix_rfl
    rw [if_neg hne]
    exact iff_of_eq (congrArg (· = _) (at?_alter_beside _ (some tree) hway hother))

theorem hasDirectory_writeFile_iff (hplace : ¬tree.HasDirectory way) :
    (tree.writeFile way written).HasDirectory other ↔
      tree.HasDirectory other ∨ ∃ rest, rest ≠ [] ∧ way = other ++ rest := by
  obtain ⟨rest, rfl⟩ | ⟨rest, hrest, rfl⟩ | ⟨hway, hother⟩ := way_cases way other
  · refine iff_of_false ?_ ?_
    · rintro ⟨entries, hentries⟩
      rw [at?_writeFile_append] at hentries
      cases rest <;> cases hentries
    · rintro (⟨entries, hentries⟩ | ⟨more, hmore, hway⟩)
      · rw [at?_append] at hentries
        obtain ⟨entry, hentry, h⟩ := Option.bind_eq_some_iff.1 hentries
        rcases hasFile_or_hasDirectory hentry with ⟨found, hfile⟩ | hdirectory
        · obtain rfl := Option.some.inj (hentry.symm.trans hfile)
          cases rest <;> cases h
        · exact hplace hdirectory
      · have hlength := congrArg List.length hway
        have hpos := List.length_pos_iff.2 hmore
        simp only [List.length_append] at hlength
        omega
  · exact iff_of_true (at?_alter_of_append _ hrest (some tree)) (.inr ⟨rest, hrest, rfl⟩)
  · have h : (tree.writeFile way written).at? other = tree.at? other :=
      at?_alter_beside _ (some tree) hway hother
    have hrest : ¬∃ rest, rest ≠ [] ∧ way = other ++ rest := by
      rintro ⟨rest, -, rfl⟩
      exact hother (List.prefix_append other rest)
    simp [HasDirectory, h, hrest]

end WriteFile

section Many

variable {ways : List (List String)}
variable (hfree : ∀ way ∈ ways, ∀ before, before <+: way → ∀ bytes, ¬tree.HasFile before bytes)
include hfree

theorem hasFile_makeDirectories_iff :
    (ways.foldl makeDirectory tree).HasFile other bytes ↔ tree.HasFile other bytes := by
  induction ways generalizing tree with
  | nil => rfl
  | cons way ways ih =>
    have hfirst := hfree way List.mem_cons_self
    rw [List.foldl_cons, ih, hasFile_makeDirectory_iff hfirst]
    intro later hlater before hbefore found
    rw [hasFile_makeDirectory_iff hfirst]
    exact hfree later (List.mem_cons_of_mem way hlater) before hbefore found

theorem hasDirectory_makeDirectories_iff : (ways.foldl makeDirectory tree).HasDirectory other ↔
    tree.HasDirectory other ∨ ∃ way ∈ ways, other <+: way := by
  induction ways generalizing tree with
  | nil => simp
  | cons way ways ih =>
    have hfirst := hfree way List.mem_cons_self
    rw [List.foldl_cons, ih, hasDirectory_makeDirectory_iff hfirst]
    · simp [or_assoc]
    intro later hlater before hbefore found
    rw [hasFile_makeDirectory_iff hfirst]
    exact hfree later (List.mem_cons_of_mem way hlater) before hbefore found

end Many

/-- There are only directories above something. -/
theorem hasDirectory_of_append {before rest : List String} {found : Entry} (hrest : rest ≠ [])
    (h : tree.at? (before ++ rest) = some found) : tree.HasDirectory before := by
  rw [at?_append] at h
  obtain ⟨entry, hentry, h⟩ := Option.bind_eq_some_iff.1 h
  obtain ⟨part, rest, rfl⟩ := List.exists_cons_of_ne_nil hrest
  cases entry with
  | file => cases h
  | directory entries => exact ⟨entries, hentry⟩

theorem HasDirectory.of_prefix {before : List String} (h : tree.HasDirectory way)
    (hbefore : before <+: way) : tree.HasDirectory before := by
  obtain ⟨rest, rfl⟩ := hbefore
  by_cases hrest : rest = []
  · subst hrest
    rwa [List.append_nil] at h
  · obtain ⟨entries, hentries⟩ := h
    exact hasDirectory_of_append hrest hentries

theorem hasFile_directory_cons_iff {entries : Members Entry} {part : String} {rest : List String} :
    (directory entries).HasFile (part :: rest) bytes ↔
      ∃ inner, entries.lookup part = some inner ∧ inner.HasFile rest bytes :=
  Option.bind_eq_some_iff

theorem hasFile_file_iff {written : List UInt8} :
    (Entry.file written).HasFile way bytes ↔ way = [] ∧ written = bytes := by
  cases way <;> simp [HasFile, at?]

/-- What is found in a directory from which something has been taken away. -/
theorem exists_remove_eq {part : String} (rest : List String) {entries : Members Entry}
    {inner : Entry} (hinner : entries.lookup part = some inner) :
    ∃ members, (directory entries).remove (part :: rest) = directory members ∧
      ∀ first, members.lookup first =
        if first = part then if rest = [] then none else some (inner.remove rest)
        else entries.lookup first := by
  by_cases hrest : rest = []
  · subst hrest
    refine ⟨entries.filter (·.1 ≠ part), by rw [remove], fun first ↦ ?_⟩
    by_cases hfirst : first = part
    · rw [if_pos hfirst, if_pos rfl, hfirst, List.lookup_eq_none_iff]
      intro member hmember
      have hne := (List.mem_filter.1 hmember).2
      simpa using Ne.symm (of_decide_eq_true hne)
    · rw [if_neg hfirst]
      exact Members.lookup_filter (p := fun name ↦ name ≠ part) (decide_eq_true hfirst) entries
  · refine ⟨_, remove_cons hrest hinner, fun first ↦ ?_⟩
    rw [Members.lookup_put, if_neg hrest]

/-- A file that is taken away leaves all others. -/
theorem hasFile_remove_iff {found : List UInt8} (hway : way ≠ []) (h : tree.HasFile way bytes) :
    (tree.remove way).HasFile other found ↔ other ≠ way ∧ tree.HasFile other found := by
  induction way generalizing tree other with
  | nil => exact absurd rfl hway
  | cons part rest ih =>
    cases tree with
    | file => cases h
    | directory entries =>
      obtain ⟨inner, hinner, hfile⟩ := hasFile_directory_cons_iff.1 h
      obtain ⟨members, hmembers, hlookup⟩ := exists_remove_eq rest hinner
      rw [hmembers]
      cases other with
      | nil => simp [HasFile, at?]
      | cons first other =>
        rw [hasFile_directory_cons_iff, hasFile_directory_cons_iff, hlookup]
        by_cases hfirst : first = part
        · subst hfirst
          by_cases hrest : rest = []
          · subst hrest
            obtain rfl : inner = file bytes := Option.some.inj hfile
            simp only [hinner, hasFile_file_iff, Option.some.injEq, exists_eq_left', if_true,
              reduceCtorEq, false_and, exists_false, false_iff, not_and]
            intro hne hother
            exact absurd (congrArg (List.cons first) hother) hne
          · simp [hinner, hrest, ih hrest hfile]
        · simp [hfirst]

end Entry

end GherkinLint
