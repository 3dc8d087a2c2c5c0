import GherkinLint.Proofs.FileTree.Written
import Mathlib.Data.List.Lex
import Mathlib.Data.List.Nodup
import Mathlib.Data.String.Basic

namespace GherkinLint

namespace Entry

/-- In every directory the names are all different, and none is the two dots that lead up. -/
inductive WellNamed : Entry → Prop
  | file (bytes : List UInt8) : WellNamed (file bytes)
  | directory {entries : Members Entry} :
      entries.names.Nodup → ".." ∉ entries.names → (∀ e ∈ entries, WellNamed e.2) →
      WellNamed (directory entries)

theorem WellNamed.at? {tree found : Entry} {way : List String} (h : tree.WellNamed)
    (hfound : tree.at? way = some found) : found.WellNamed ∧ ".." ∉ way := by
  induction way generalizing tree with
  | nil =>
    obtain rfl : tree = found := Option.some.inj hfound
    exact ⟨h, List.not_mem_nil⟩
  | cons part way ih =>
    cases h with
    | file => cases hfound
    | @directory entries _ hup hinner =>
      obtain ⟨inner, hlookup, hfound⟩ := Option.bind_eq_some_iff.1 hfound
      have hmem := Members.mem_of_lookup hlookup
      obtain ⟨hwell, hway⟩ := ih (hinner _ hmem) hfound
      refine ⟨hwell, ?_⟩
      rw [List.mem_cons, not_or]
      refine ⟨fun hpart ↦ hup ?_, hway⟩
      rw [hpart]
      exact List.mem_map_of_mem hmem

def reached (e : String × Entry) : List (List String × Bool) :=
  ([e.1], e.2.isFile) :: e.2.descendants.map fun (parts, f) ↦ (e.1 :: parts, f)

theorem descendants_directory (entries : Members Entry) :
    (directory entries).descendants = entries.flatMap reached := by
  rw [descendants]
  induction entries with
  | nil => rfl
  | cons first rest ih =>
    rw [descendantsOf, ih, List.flatMap_cons]
    rfl

theorem mem_reached_iff {e : String × Entry} {way : List String} {f : Bool} :
    (way, f) ∈ reached e ↔
      ∃ rest, way = e.1 :: rest ∧ (rest = [] ∧ e.2.isFile = f ∨ (rest, f) ∈ e.2.descendants) := by
  rw [reached, List.mem_cons, List.mem_map]
  constructor
  · rintro (h | ⟨⟨rest, g⟩, hrest, h⟩)
    · cases h
      exact ⟨[], rfl, .inl ⟨rfl, rfl⟩⟩
    · cases h
      exact ⟨rest, rfl, .inr hrest⟩
  · rintro ⟨rest, rfl, ⟨rfl, rfl⟩ | hrest⟩
    · exact .inl rfl
    · exact .inr ⟨_, hrest, rfl⟩

theorem exists_of_mem_map_reached {e : String × Entry} {way : List String}
    (h : way ∈ (reached e).map (·.1)) : ∃ rest, way = e.1 :: rest := by
  obtain ⟨⟨_, f⟩, hmem, rfl⟩ := List.mem_map.1 h
  obtain ⟨rest, hrest, -⟩ := mem_reached_iff.1 hmem
  exact ⟨rest, hrest⟩

theorem mem_descendants_iff {tree : Entry} (h : tree.WellNamed) {way : List String} {f : Bool} :
    (way, f) ∈ tree.descendants ↔
      way ≠ [] ∧ ∃ found, tree.at? way = some found ∧ found.isFile = f := by
  induction way generalizing tree with
  | nil =>
    refine iff_of_false (fun hmem ↦ ?_) (fun h ↦ h.1 rfl)
    cases tree with
    | file => cases hmem
    | directory entries =>
      rw [descendants_directory] at hmem
      obtain ⟨e, -, hmem⟩ := List.mem_flatMap.1 hmem
      obtain ⟨rest, hrest, -⟩ := mem_reached_iff.1 hmem
      cases hrest
  | cons part way ih =>
    cases h with
    | file => simp [descendants, at?]
    | @directory entries hnames _ hinner =>
      have hbelow (entry : Entry) (hentry : (part, entry) ∈ entries) :
          (way = [] ∧ entry.isFile = f ∨ (way, f) ∈ entry.descendants) ↔
            ∃ found, entry.at? way = some found ∧ found.isFile = f := by
        rw [ih (hinner _ hentry)]
        by_cases hway : way = []
        · simp [hway, at?]
        · simp [hway]
      rw [descendants_directory, List.mem_flatMap]
      constructor
      · rintro ⟨⟨name, entry⟩, hentry, hmem⟩
        obtain ⟨rest, hrest, hmem⟩ := mem_reached_iff.1 hmem
        cases hrest
        obtain ⟨found, hfound, hf⟩ := (hbelow entry hentry).1 hmem
        refine ⟨List.cons_ne_nil _ _, found, ?_, hf⟩
        rw [at?, (Members.lookup_eq_some_iff hnames).2 hentry]
        exact hfound
      · rintro ⟨-, found, hfound, hf⟩
        obtain ⟨entry, hlookup, hfound⟩ := Option.bind_eq_some_iff.1 hfound
        have hentry := Members.mem_of_lookup hlookup
        exact ⟨_, hentry, mem_reached_iff.2 ⟨way, rfl, (hbelow entry hentry).2 ⟨found, hfound, hf⟩⟩⟩

theorem nodup_descendants {tree : Entry} (h : tree.WellNamed) :
    (tree.descendants.map (·.1)).Nodup := by
  induction h with
  | file => exact List.nodup_nil
  | @directory entries hnames _ hinner ih =>
    rw [descendants_directory, List.map_flatMap, List.nodup_flatMap]
    constructor
    · intro e he
      rw [reached, List.map_cons, List.map_map, List.nodup_cons]
      constructor
      · rintro hmem
        obtain ⟨⟨rest, f⟩, hrest, heq⟩ := List.mem_map.1 hmem
        exact ((mem_descendants_iff (hinner e he)).1 hrest).1 (List.cons.inj heq).2
      · have hbelow := (ih e he).map (f := (e.1 :: ·)) (List.cons_injective)
        rwa [List.map_map] at hbelow
    · -- Ways through different entries begin with different names.
      refine (List.pairwise_map.1 hnames).imp fun {first second} hne way hfirst hsecond ↦ hne ?_
      obtain ⟨rest, rfl⟩ := exists_of_mem_map_reached hfirst
      obtain ⟨other, hother⟩ := exists_of_mem_map_reached hsecond
      exact (List.cons.inj hother).1

theorem mem_filesBelow_iff {tree : Entry} (h : tree.WellNamed) {way : List String} :
    way ∈ tree.filesBelow ↔ way ≠ [] ∧ ∃ bytes, tree.HasFile way bytes := by
  have hfile (found : Entry) : found.isFile = true ↔ ∃ bytes, found = file bytes := by
    cases found <;> simp [isFile]
  have hmem : way ∈ tree.filesBelow ↔ (way, true) ∈ tree.descendants := by
    simp [filesBelow]
  rw [hmem, mem_descendants_iff h]
  refine and_congr_right fun _ ↦ ⟨?_, ?_⟩
  · rintro ⟨found, hfound, hisFile⟩
    obtain ⟨bytes, rfl⟩ := (hfile found).1 hisFile
    exact ⟨bytes, hfound⟩
  · rintro ⟨bytes, hbytes⟩
    exact ⟨file bytes, hbytes, rfl⟩

theorem pairwise_le_filesBelow (tree : Entry) : tree.filesBelow.Pairwise (· ≤ ·) := by
  have hsorted : tree.filesBelow.Pairwise fun a b ↦ (!decide (b < a)) = true := by
    refine List.pairwise_mergeSort (fun a b c ↦ ?_) (fun a b ↦ ?_) _
    · simp only [Bool.not_eq_true', decide_eq_false_iff_not, not_lt]
      exact le_trans
    · simp only [Bool.or_eq_true, Bool.not_eq_true', decide_eq_false_iff_not, not_lt]
      exact le_total a b
  exact hsorted.imp fun {a b} h ↦ by simpa using h

/-- Sorting leaves no two ways equal, as there were none before. -/
theorem pairwise_filesBelow {tree : Entry} (h : tree.WellNamed) :
    tree.filesBelow.Pairwise (· < ·) := by
  have hnodup : tree.filesBelow.Nodup := by
    refine (List.mergeSort_perm _ _).nodup_iff.2 ?_
    exact (nodup_descendants h).sublist (List.filter_sublist.map _)
  refine ((pairwise_le_filesBelow tree).and hnodup).imp fun {a b} h ↦ ?_
  exact lt_of_le_of_ne h.1 h.2

theorem filesBelow_eq_of_perm {tree : Entry} {ways : List (List String)}
    (hways : ways.Pairwise (· ≤ ·))
    (h : ((tree.descendants.filter (·.2)).map (·.1)).Perm ways) : tree.filesBelow = ways :=
  ((List.mergeSort_perm _ _).trans h).eq_of_pairwise (fun _ _ _ _ ↦ le_antisymm)
    (pairwise_le_filesBelow tree) hways

end Entry

end GherkinLint
