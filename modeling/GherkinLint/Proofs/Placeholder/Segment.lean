import GherkinLint.Placeholder
import Mathlib.Data.List.TakeWhile

namespace GherkinLint.Placeholder

/-- What stands behind the first `<` that some character other than a space follows, with the
number of characters before that `<`. -/
def opened : List Char → Option (Nat × List Char)
  | [] => none
  | c :: s =>
    if c = '<' ∧ s ≠ [] ∧ s.head? ≠ some ' ' then some (0, s)
    else (opened s).map fun (k, name) ↦ (k + 1, name)

def closed? (offset : Nat) (segment : List Char) : Option Placeholder :=
  if segment.getLast? = some ' ' then none
  else (opened segment).map fun (k, name) ↦ ⟨String.ofList name, offset + k⟩

theorem takeWhile_segment {s : List Char} (hs : '>' ∉ s) (rest : List Char) :
    (s ++ '>' :: rest).takeWhile (· ≠ '>') = s := by
  rw [List.takeWhile_append_of_pos (by grind)]
  simp

theorem nameAt_segment {s : List Char} (hs : '>' ∉ s) (rest : List Char) :
    nameAt (s ++ '>' :: rest) =
      if s ≠ [] ∧ s.head? ≠ some ' ' ∧ s.getLast? ≠ some ' ' then some s else none := by
  have hd : (s ++ '>' :: rest).dropWhile (· ≠ '>') = '>' :: rest := by
    rw [List.dropWhile_append_of_pos (by grind)]
    simp
  unfold nameAt
  rw [takeWhile_segment hs, hd]
  simp

theorem nameAt_open {s : List Char} (hs : '>' ∉ s) : nameAt s = none := by
  have hd : s.dropWhile (· ≠ '>') = [] := by
    rw [List.dropWhile_eq_nil_iff]
    grind
  unfold nameAt
  rw [hd]
  simp

theorem scan_skip (offset k : Nat) (s : List Char) :
    scan offset k s = scan (offset + k) 0 (s.drop k) := by
  induction k generalizing offset s with
  | zero => rfl
  | succ k ih =>
    cases s with
    | nil => simp [scan]
    | cons c s =>
      rw [scan, ih, List.drop_succ_cons]
      congr 1
      omega

theorem scan_open (offset : Nat) {s : List Char} (hs : '>' ∉ s) : scan offset 0 s = [] := by
  induction s generalizing offset with
  | nil => rfl
  | cons c s ih =>
    have htail : '>' ∉ s := fun h ↦ hs (List.mem_cons_of_mem _ h)
    simp only [scan, nameAt_open htail, ih _ htail, ite_self]

theorem closed?_cons_of_ne {s : List Char} (hs : s ≠ []) (offset : Nat) (c : Char) :
    closed? offset (c :: s) =
      if s.getLast? = some ' ' then none
      else (opened (c :: s)).map fun (k, name) ↦ ⟨String.ofList name, offset + k⟩ := by
  rw [closed?, List.getLast?_cons_of_ne_nil hs]

theorem closed?_cons_of_nameAt (offset : Nat) {s : List Char}
    (h : s ≠ [] ∧ s.head? ≠ some ' ' ∧ s.getLast? ≠ some ' ') :
    closed? offset ('<' :: s) = some ⟨String.ofList s, offset⟩ := by
  obtain ⟨hne, hhead, hlast⟩ := h
  simp [closed?_cons_of_ne hne, opened, hne, hhead, hlast]

theorem closed?_cons_of_not_nameAt (offset : Nat) {c : Char} {s : List Char}
    (h : ¬(c = '<' ∧ s ≠ [] ∧ s.head? ≠ some ' ' ∧ s.getLast? ≠ some ' ')) :
    closed? offset (c :: s) = closed? (offset + 1) s := by
  by_cases hne : s = []
  · subst hne
    simp [closed?, opened]
  by_cases hlast : s.getLast? = some ' '
  · rw [closed?_cons_of_ne hne, closed?, if_pos hlast, if_pos hlast]
  · have hopen : ¬(c = '<' ∧ s ≠ [] ∧ s.head? ≠ some ' ') :=
      fun ⟨hc, _, hhead⟩ ↦ h ⟨hc, hne, hhead, hlast⟩
    rw [closed?_cons_of_ne hne, closed?, if_neg hlast, if_neg hlast, opened, if_neg hopen,
      Option.map_map]
    congr 1
    funext ⟨k, name⟩
    simp only [Function.comp_apply, Nat.add_comm k 1, Nat.add_assoc]

theorem scan_segment (offset : Nat) {s : List Char} (hs : '>' ∉ s) (rest : List Char) :
    scan offset 0 (s ++ '>' :: rest) =
      (closed? offset s).toList ++ scan (offset + s.length + 1) 0 rest := by
  induction s generalizing offset with
  | nil => simp [scan, closed?, opened]
  | cons c s ih =>
    have htail : '>' ∉ s := fun h ↦ hs (List.mem_cons_of_mem _ h)
    have hnext : offset + 1 + s.length + 1 = offset + (c :: s).length + 1 := by
      rw [List.length_cons]; omega
    rw [List.cons_append, scan, nameAt_segment htail]
    by_cases h : c = '<' ∧ s ≠ [] ∧ s.head? ≠ some ' ' ∧ s.getLast? ≠ some ' '
    · obtain ⟨rfl, h⟩ := h
      have hdrop : (s ++ '>' :: rest).drop (s.length + 1) = rest := by
        rw [List.drop_append]; simp
      rw [if_pos rfl, if_pos h, closed?_cons_of_nameAt offset h]
      simp only [scan_skip _ (s.length + 1), hdrop, ← hnext, Option.toList_some,
        List.singleton_append, Nat.add_assoc]
    · rw [closed?_cons_of_not_nameAt offset h, ← hnext, ← ih (offset + 1) htail]
      split
      next hc =>
        have hn : ¬(s ≠ [] ∧ s.head? ≠ some ' ' ∧ s.getLast? ≠ some ' ') := fun hn ↦ h ⟨hc, hn⟩
        simp only [if_neg hn]
      next => rfl

/-- A text is a segment that nothing closes, or a closed segment with a text behind it. -/
@[elab_as_elim]
theorem segment_induction {motive : List Char → Prop}
    (unclosed : ∀ s, '>' ∉ s → motive s)
    (closed : ∀ s rest, '>' ∉ s → motive rest → motive (s ++ '>' :: rest)) (text : List Char) :
    motive text := by
  by_cases h : '>' ∈ text
  · obtain ⟨s, rest, htext, hs⟩ := List.eq_append_cons_of_mem h
    have hlt : rest.length < text.length := by
      rw [htext, List.length_append, List.length_cons]; omega
    rw [htext]
    exact closed s rest hs (segment_induction unclosed closed rest)
  · exact unclosed text h
termination_by text.length

namespace Cursor

/-- The placeholders that the cursor has not come to yet. -/
def remaining (cursor : Cursor) : List Placeholder := scan cursor.offset 0 cursor.rest

theorem remaining_start (text : String) : (start text).remaining = placeholders text := rfl

theorem remaining_finish (cursor : Cursor) : cursor.finish.remaining = [] := by
  rw [remaining, finish, scan]

theorem scan_eq_nextFrom (offset : Nat) (s : List Char) :
    scan offset 0 s =
      match nextFrom offset s with
      | some (p, cursor) => p :: cursor.remaining
      | none => [] := by
  induction s generalizing offset with
  | nil => rfl
  | cons c s ih =>
    rw [scan, nextFrom]
    split
    next =>
      cases nameAt s with
      | none => exact ih (offset + 1)
      | some name =>
        have hoffset : offset + 1 + (name.length + 1) = offset + name.length + 2 := by omega
        dsimp only
        rw [scan_skip, hoffset]
        rfl
    next => exact ih (offset + 1)

/-- A step of the cursor takes the first of the placeholders that remain. -/
theorem remaining_eq_next? (cursor : Cursor) :
    cursor.remaining =
      match cursor.next? with
      | some (p, later) => p :: later.remaining
      | none => [] :=
  scan_eq_nextFrom cursor.offset cursor.rest

end Cursor

end GherkinLint.Placeholder
