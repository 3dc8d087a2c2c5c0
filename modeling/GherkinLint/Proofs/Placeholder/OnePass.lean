import GherkinLint.Proofs.Placeholder.Expression

namespace GherkinLint.Placeholder

def Opens (s : List Char) (i : Nat) : Prop :=
  s[i]? = some '<' ∧ i + 1 < s.length ∧ s[i + 1]? ≠ some ' '

instance (s : List Char) (i : Nat) : Decidable (Opens s i) :=
  inferInstanceAs (Decidable (_ ∧ _))

def ofSegment (start : Nat) (s : List Char) : Option Placeholder :=
  if s.getLast? = some ' ' then none
  else ((List.range s.length).find? (Opens s)).map fun i ↦
    ⟨String.ofList (s.drop (i + 1)), start + i⟩

/-- The placeholders of segments that stand one behind the other, each with its `>`. -/
def ofSegments (start : Nat) : List (List Char) → List Placeholder
  | [] => []
  | s :: rest => (ofSegment start s).toList ++ ofSegments (start + s.length + 1) rest

def onePass (text : List Char) : List Placeholder := ofSegments 0 (text.splitOn '>').dropLast

theorem opens_zero {c : Char} {s : List Char} :
    Opens (c :: s) 0 ↔ c = '<' ∧ s ≠ [] ∧ s.head? ≠ some ' ' := by
  rw [Opens]
  refine and_congr (by simp) (and_congr ?_ (by simp [List.head?_eq_getElem?]))
  rw [List.length_cons, Nat.add_lt_add_iff_right, List.length_pos_iff]

theorem opens_succ {c : Char} {s : List Char} {i : Nat} : Opens (c :: s) (i + 1) ↔ Opens s i := by
  simp only [Opens, List.getElem?_cons_succ, List.length_cons, Nat.add_lt_add_iff_right]

/-- The first place that opens a placeholder. -/
theorem opened_eq_find? (s : List Char) :
    opened s = ((List.range s.length).find? (Opens s)).map fun i ↦ (i, s.drop (i + 1)) := by
  induction s with
  | nil => rfl
  | cons c s ih =>
    have hsucc : (List.map Nat.succ (List.range s.length)).find? (Opens (c :: s)) =
        ((List.range s.length).find? (Opens s)).map Nat.succ := by
      rw [List.find?_map]
      congr 2
      funext i
      exact decide_eq_decide.2 opens_succ
    rw [opened, List.length_cons, List.range_succ_eq_map, List.find?_cons]
    by_cases h : c = '<' ∧ s ≠ [] ∧ s.head? ≠ some ' '
    · rw [if_pos h, decide_eq_true (opens_zero.2 h)]
      rfl
    · rw [if_neg h, decide_eq_false fun h' ↦ h (opens_zero.1 h'), hsucc, ih, Option.map_map,
        Option.map_map]
      rfl

theorem closed?_eq_ofSegment (start : Nat) (s : List Char) :
    closed? start s = ofSegment start s := by
  rw [closed?, ofSegment, opened_eq_find?, Option.map_map]
  rfl

theorem scan_eq_ofSegments (start : Nat) (text : List Char) :
    scan start 0 text = ofSegments start (text.splitOn '>').dropLast := by
  induction text using segment_induction generalizing start with
  | unclosed s hs =>
    rw [scan_open start hs, List.splitOn_eq_singleton hs]
    rfl
  | closed s rest hs ih =>
    rw [scan_segment start hs, List.splitOn_append_cons_self_of_not_mem hs,
      List.dropLast_cons_of_ne_nil (List.splitOn_ne_nil _ _), ofSegments, closed?_eq_ofSegment, ih]

/-- The placeholder ends, with its `>`, before the character at `stop`. -/
theorem bounds_of_closed? {start : Nat} {s : List Char} {p : Placeholder}
    (h : closed? start s = some p) :
    start ≤ p.offset ∧ p.offset + p.name.length + 2 ≤ start + s.length + 1 := by
  obtain ⟨before, name, rfl, -, -, rfl⟩ := closed?_eq_some_iff.1 h
  simp only [String.length_ofList, List.length_append, List.length_cons]
  omega

theorem offset_le_of_mem_scan {start : Nat} {text : List Char} {p : Placeholder}
    (h : p ∈ scan start 0 text) : start ≤ p.offset := by
  obtain ⟨before, name, after, -, -, -, -, rfl⟩ := mem_scan_iff.1 h
  exact Nat.le_add_right start before.length

theorem pairwise_scan (start : Nat) (text : List Char) :
    (scan start 0 text).Pairwise fun p q ↦ p.offset + p.name.length + 2 ≤ q.offset := by
  induction text using segment_induction generalizing start with
  | unclosed s hs =>
    rw [scan_open start hs]
    exact .nil
  | closed s rest hs ih =>
    rw [scan_segment start hs, List.pairwise_append]
    refine ⟨?_, ih _, fun p hp q hq ↦ ?_⟩
    · cases closed? start s with
      | none => exact .nil
      | some p => exact List.pairwise_singleton _ p
    · have hp := (bounds_of_closed? (Option.mem_toList.1 hp)).2
      have hq := offset_le_of_mem_scan hq
      omega

theorem take_drop_of_mem {text : String} {p : Placeholder} (h : p ∈ placeholders text) :
    (text.toList.drop p.offset).take (p.name.length + 2) = '<' :: p.name.toList ++ ['>'] := by
  obtain ⟨before, name, after, htext, -, -, -, rfl⟩ := mem_placeholders_iff.1 h
  have hlength : (String.ofList name).length + 2 = ('<' :: name ++ ['>']).length := by
    simp only [String.length_ofList, List.length_append, List.length_cons, List.length_nil]
  have hsplit : text.toList = before ++ (('<' :: name ++ ['>']) ++ after) := by
    rw [htext]
    simp only [List.append_assoc, List.cons_append, List.nil_append]
  rw [hsplit, List.drop_left, hlength, List.take_left, String.toList_ofList]

/-- The placeholders of a text are the matches of their expression, one behind the other, and those
that one pass over its segments gives. They begin in the order of the list, and each ends before the
next one begins. -/
theorem placeholders_eq_onePass (names : Pattern.CharacterNames) (text : String) :
    (∃ pattern, (Pattern.ofText names expression).toOption = some pattern ∧
      placeholders text = (pattern.node.occurrences 0 [] text.toList).map ofMatch) ∧
    placeholders text = onePass text.toList ∧
    (placeholders text).Pairwise (fun p q ↦
      p.offset < q.offset ∧ p.offset + p.name.length + 2 ≤ q.offset) ∧
    ∀ p ∈ placeholders text, p.name ≠ "" ∧ '>' ∉ p.name.toList ∧
      p.name.toList.head? ≠ some ' ' ∧ p.name.toList.getLast? ≠ some ' ' ∧
      (text.toList.drop p.offset).take (p.name.length + 2) = '<' :: p.name.toList ++ ['>'] := by
  refine ⟨⟨_, ofText_expression names, placeholders_eq_occurrences text⟩,
    scan_eq_ofSegments 0 text.toList, ?_, fun p hp ↦ ?_⟩
  · refine (pairwise_scan 0 text.toList).imp fun h ↦ ?_
    exact ⟨by omega, h⟩
  · have hreads := take_drop_of_mem hp
    obtain ⟨before, name, after, -, hgt, ⟨hne, hhead, hlast⟩, -, rfl⟩ := mem_placeholders_iff.1 hp
    simp only [String.toList_ofList] at hreads ⊢
    exact ⟨by simpa using hne, hgt, hhead, hlast, hreads⟩

end GherkinLint.Placeholder
