import GherkinLint.FileTree
import GherkinLint.Proofs.Members

namespace GherkinLint

namespace Entry

def at? : Entry → List String → Option Entry
  | entry, [] => some entry
  | directory entries, part :: rest => (entries.lookup part).bind fun inner ↦ at? inner rest
  | file _, _ :: _ => none

theorem at?_append (entry : Entry) (way rest : List String) :
    entry.at? (way ++ rest) = (entry.at? way).bind (·.at? rest) := by
  induction way generalizing entry with
  | nil => rfl
  | cons part way ih =>
    cases entry with
    | file bytes => rfl
    | directory entries =>
      rw [List.cons_append, at?, at?]
      cases entries.lookup part with
      | none => rfl
      | some inner => exact ih inner

def entriesOf : Option Entry → Members Entry
  | some (directory entries) => entries
  | _ => []

theorem alter_cons (change : Option Entry → Entry) (part : String) (rest : List String)
    (tree : Option Entry) : alter change (part :: rest) tree =
      directory (Members.put part (alter change rest ((entriesOf tree).lookup part))
        (entriesOf tree)) := by
  cases tree with
  | none => rfl
  | some entry => cases entry <;> rfl

theorem bind_at?_cons (part : String) (rest : List String) (tree : Option Entry) :
    (tree.bind (·.at? (part :: rest))) = ((entriesOf tree).lookup part).bind (·.at? rest) := by
  cases tree with
  | none => rfl
  | some entry => cases entry <;> rfl

section Alter

variable (change : Option Entry → Entry)

theorem at?_alter_append (way rest : List String) (tree : Option Entry) :
    (alter change way tree).at? (way ++ rest) = (change (tree.bind (·.at? way))).at? rest := by
  induction way generalizing tree with
  | nil => cases tree <;> rfl
  | cons part way ih =>
    rw [alter_cons, List.cons_append, at?, Members.lookup_put, if_pos rfl, bind_at?_cons, ← ih]
    rfl

theorem at?_alter (way : List String) (tree : Option Entry) :
    (alter change way tree).at? way = some (change (tree.bind (·.at? way))) := by
  have h := at?_alter_append change way [] tree
  rwa [List.append_nil] at h

/-- There are directories on the way to what is altered. -/
theorem at?_alter_of_append {before rest : List String} (hrest : rest ≠ []) (tree : Option Entry) :
    ∃ entries, (alter change (before ++ rest) tree).at? before = some (directory entries) := by
  induction before generalizing tree with
  | nil =>
    obtain ⟨part, rest, rfl⟩ := List.exists_cons_of_ne_nil hrest
    rw [List.nil_append, alter_cons]
    exact ⟨_, rfl⟩
  | cons part before ih =>
    obtain ⟨entries, hentries⟩ := ih ((entriesOf tree).lookup part)
    rw [List.cons_append, alter_cons]
    refine ⟨entries, ?_⟩
    rw [at?, Members.lookup_put, if_pos rfl]
    exact hentries

/-- Nothing changes beside the way to what is altered. -/
theorem at?_alter_beside {way other : List String} (tree : Option Entry)
    (hway : ¬way <+: other) (hother : ¬other <+: way) :
    (alter change way tree).at? other = tree.bind (·.at? other) := by
  induction way generalizing other tree with
  | nil => exact absurd List.nil_prefix hway
  | cons part way ih =>
    cases other with
    | nil => exact absurd List.nil_prefix hother
    | cons first other =>
      rw [alter_cons, at?, Members.lookup_put, bind_at?_cons]
      by_cases hfirst : first = part
      · subst hfirst
        rw [if_pos rfl]
        refine ih _ (fun h ↦ hway ?_) (fun h ↦ hother ?_)
        · exact (List.prefix_cons_inj first).2 h
        · exact (List.prefix_cons_inj first).2 h
      · rw [if_neg hfirst]

theorem alter_append (before rest : List String) (tree : Option Entry) :
    alter change (before ++ rest) tree = alter (alter change rest) before tree := by
  induction before generalizing tree with
  | nil => rfl
  | cons part before ih => rw [List.cons_append, alter_cons, ih, alter_cons]

theorem alter_alter (first : Option Entry → Entry) (way : List String) (tree : Option Entry) :
    alter change way (some (alter first way tree)) =
      alter (fun entry ↦ change (some (first entry))) way tree := by
  induction way generalizing tree with
  | nil => rfl
  | cons part way ih =>
    rw [alter_cons first, alter_cons, alter_cons]
    change directory (Members.put part
      (alter change way ((Members.put part _ (entriesOf tree)).lookup part))
      (Members.put part _ (entriesOf tree))) = _
    rw [Members.lookup_put, if_pos rfl, ih, Members.put_put]

/-- Of a change, only what it makes of the entry that is there counts. -/
theorem alter_eq_of_at? {way : List String} {tree : Option Entry} {other : Option Entry → Entry}
    (h : change (tree.bind (·.at? way)) = other (tree.bind (·.at? way))) :
    alter change way tree = alter other way tree := by
  induction way generalizing tree with
  | nil => cases tree <;> exact h
  | cons part way ih =>
    rw [bind_at?_cons] at h
    rw [alter_cons, alter_cons, ih h]

theorem remove_cons {part : String} {rest : List String} {entries : Members Entry} {inner : Entry}
    (hrest : rest ≠ []) (hinner : entries.lookup part = some inner) :
    remove (part :: rest) (directory entries) =
      directory (Members.put part (remove rest inner) entries) := by
  obtain ⟨first, rest, rfl⟩ := List.exists_cons_of_ne_nil hrest
  rw [remove]
  · rw [hinner]
  · simp

/-- What is put at the end of a free way, inside a directory, can be taken away again. -/
theorem remove_alter {above : List String} {name : String} {tree : Entry}
    {entries : Members Entry} (habove : tree.at? above = some (directory entries))
    (hfree : entries.lookup name = none) :
    remove (above ++ [name]) (alter change (above ++ [name]) (some tree)) = tree := by
  induction above generalizing tree with
  | nil =>
    obtain rfl : tree = directory entries := Option.some.inj habove
    rw [List.nil_append, alter_cons, remove]
    exact congrArg directory (Members.filter_put_of_lookup _ hfree)
  | cons part above ih =>
    cases tree with
    | file bytes => cases habove
    | directory members =>
      rw [at?] at habove
      obtain ⟨inner, hinner, habove⟩ := Option.bind_eq_some_iff.1 habove
      have hlookup : (Members.put part (alter change (above ++ [name]) (some inner))
          members).lookup part = some (alter change (above ++ [name]) (some inner)) := by
        rw [Members.lookup_put, if_pos rfl]
      have halter : alter change (part :: (above ++ [name])) (some (directory members)) =
          directory (Members.put part (alter change (above ++ [name]) (some inner)) members) := by
        rw [alter_cons, ← hinner]
        rfl
      rw [List.cons_append, halter, remove_cons (by simp) hlookup, ih habove, Members.put_put,
        Members.put_of_lookup hinner]

end Alter

end Entry

theorem FileSystem.follow_eq_ok_iff {here found : Entry} {above : List Entry} {way : List String}
    (hway : ".." ∉ way) : follow here above way = .ok found ↔ here.at? way = some found := by
  induction way generalizing here above with
  | nil => simp [follow, Entry.at?]
  | cons part way ih =>
    rw [List.mem_cons, not_or] at hway
    obtain ⟨hpart, hway⟩ := hway
    cases here with
    | file bytes => simp [follow, Entry.at?]
    | directory entries =>
      unfold follow
      rw [Entry.at?]
      dsimp only
      rw [if_neg (Ne.symm hpart)]
      cases entries.lookup part with
      | none => simp
      | some inner => exact ih hway

end GherkinLint
