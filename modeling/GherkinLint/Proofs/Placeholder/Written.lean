import GherkinLint.Proofs.Placeholder.Occurrence
import Mathlib.Data.List.DropRight

namespace GherkinLint

namespace Placeholder

/-- A name to be written between angle brackets, and the literal behind it. -/
structure Piece where
  name : String
  literal : String
  deriving DecidableEq, Repr

def written (literal : String) : List Piece → String
  | [] => literal
  | piece :: rest => literal ++ "<" ++ piece.name ++ ">" ++ written piece.literal rest

structure Piece.Legible (piece : Piece) : Prop where
  isName : IsName piece.name.toList
  closed : '>' ∉ piece.name.toList
  inert : Inert piece.literal.toList

def shift (start : Nat) (p : Placeholder) : Placeholder := { p with offset := p.offset + start }

@[simp] theorem written_nil (literal : String) : written literal [] = literal := rfl

theorem toList_written_cons (literal : String) (piece : Piece) (rest : List Piece) :
    (written literal (piece :: rest)).toList =
      literal.toList ++ '<' :: (piece.name.toList ++ '>' ::
        (written piece.literal rest).toList) := by
  simp [written]

theorem length_written_cons (literal : String) (piece : Piece) (rest : List Piece) :
    (written literal (piece :: rest)).length =
      literal.length + (piece.name.length + 2) + (written piece.literal rest).length := by
  rw [← String.length_toList, toList_written_cons]
  simp only [List.length_append, List.length_cons, String.length_toList]
  omega

theorem closed?_of_inert {s rest : List Char} (h : Inert (s ++ '>' :: rest)) (offset : Nat) :
    closed? offset s = none := by
  rw [Option.eq_none_iff_forall_not_mem]
  intro p hp
  obtain ⟨before, name, rfl, ⟨hne, hhead, -⟩, -, -⟩ := closed?_eq_some_iff.1 hp
  apply hhead
  rw [← h before (name ++ '>' :: rest) (by simp), List.head?_append_of_ne_nil name hne]

theorem inert_nil : Inert [] := by
  intro a b h
  simp at h

theorem Inert.of_append {s t : List Char} (h : Inert (s ++ t)) : Inert t := by
  intro a b ht
  exact h (s ++ a) b (by rw [ht, List.append_assoc])

theorem scan_inert {s : List Char} (h : Inert s) (offset : Nat) : scan offset 0 s = [] := by
  induction s using segment_induction generalizing offset with
  | unclosed s hs => exact scan_open offset hs
  | closed s rest hs ih =>
    have hrest : Inert rest := (inert_cons.1 h.of_append).2
    rw [scan_segment offset hs, closed?_of_inert h, ih hrest]
    rfl

/-- The first placeholder behind a literal, whatever stands behind it. -/
theorem scan_written {literal name rest : List Char} (hliteral : Inert literal)
    (hname : IsName name) (hgt : '>' ∉ name) (offset : Nat) :
    scan offset 0 (literal ++ '<' :: (name ++ '>' :: rest)) =
      ⟨String.ofList name, offset + literal.length⟩ ::
        scan (offset + literal.length + (name.length + 2)) 0 rest := by
  induction literal using segment_induction generalizing offset with
  | unclosed s hs =>
    have hsegment : '>' ∉ s ++ '<' :: name := by simp [hs, hgt]
    have hclosed : closed? offset (s ++ '<' :: name) =
        some ⟨String.ofList name, offset + s.length⟩ :=
      closed?_eq_some_iff.2 ⟨s, name, rfl, hname, hliteral, rfl⟩
    have hoffset : offset + (s ++ '<' :: name).length + 1 =
        offset + s.length + (name.length + 2) := by
      rw [List.length_append, List.length_cons]
      omega
    rw [← List.cons_append, ← List.append_assoc, scan_segment offset hsegment, hclosed, hoffset]
    rfl
  | closed s literal hs ih =>
    have hrest : Inert literal := (inert_cons.1 hliteral.of_append).2
    have hoffset : offset + s.length + 1 + literal.length =
        offset + (s ++ '>' :: literal).length := by
      rw [List.length_append, List.length_cons]
      omega
    rw [List.append_assoc, List.cons_append, scan_segment offset hs, closed?_of_inert hliteral,
      ih hrest, hoffset]
    rfl

theorem scan_written_pieces {literal : String} {pieces : List Piece}
    (hliteral : Inert literal.toList) (hpieces : ∀ piece ∈ pieces, piece.Legible) (offset : Nat) :
    scan offset 0 (written literal pieces).toList = pieces.mapIdx fun i piece ↦
      ⟨piece.name, offset + (written literal (pieces.take i)).length⟩ := by
  induction pieces generalizing literal offset with
  | nil => exact scan_inert hliteral offset
  | cons piece rest ih =>
    obtain ⟨hname, hgt, hnext⟩ := hpieces piece List.mem_cons_self
    have hrest := ih hnext (fun other h ↦ hpieces other (List.mem_cons_of_mem piece h))
    rw [toList_written_cons, scan_written hliteral hname hgt, hrest, List.mapIdx_cons]
    simp only [String.ofList_toList, String.length_toList, List.take_zero, List.take_succ_cons,
      length_written_cons, written_nil, Nat.add_assoc]

theorem scan_shift (start offset skip : Nat) (s : List Char) :
    scan (offset + start) skip s = (scan offset skip s).map (shift start) := by
  induction s generalizing offset skip with
  | nil =>
    rw [scan, scan]
    rfl
  | cons c s ih =>
    have hnext (skip : Nat) :
        scan (offset + start + 1) skip s = (scan (offset + 1) skip s).map (shift start) := by
      rw [← ih, Nat.add_right_comm]
    cases skip with
    | succ skip => exact hnext skip
    | zero =>
      rw [scan, scan]
      split
      next =>
        cases nameAt s with
        | none => exact hnext 0
        | some name => exact congrArg _ (hnext (name.length + 1))
      next => exact hnext 0

theorem scan_append_of_not_mem {s : List Char} (hs : '<' ∉ s) (t : List Char) (offset : Nat) :
    scan offset 0 (s ++ t) = scan (offset + s.length) 0 t := by
  induction s generalizing offset with
  | nil => rfl
  | cons c s ih =>
    rw [List.mem_cons, not_or] at hs
    rw [List.cons_append, scan, if_neg (Ne.symm hs.1), ih hs.2, List.length_cons]
    congr 1
    omega

/-- What stands behind the last `>` of a text. -/
def behindLast (s : List Char) : List Char := s.rtakeWhile (· ≠ '>')

theorem behindLast_of_not_mem {s : List Char} (hs : '>' ∉ s) : behindLast s = s := by
  rw [behindLast, List.rtakeWhile_eq_self_iff]
  intro c hc
  simpa using ne_of_mem_of_not_mem hc hs

theorem behindLast_segment (s rest : List Char) :
    behindLast (s ++ '>' :: rest) = behindLast rest := by
  unfold behindLast
  induction rest using List.reverseRecOn with
  | nil => exact List.rtakeWhile_concat_neg _ _ _ (by simp)
  | append_singleton rest c ih =>
    rw [← List.cons_append, ← List.append_assoc]
    by_cases hc : c = '>'
    · rw [List.rtakeWhile_concat_neg, List.rtakeWhile_concat_neg] <;> simp [hc]
    · rw [List.rtakeWhile_concat_pos, List.rtakeWhile_concat_pos, ih] <;> simp [hc]

theorem scan_append {s : List Char} (hs : '<' ∉ behindLast s) (t : List Char) (offset : Nat) :
    scan offset 0 (s ++ t) = scan offset 0 s ++ scan (offset + s.length) 0 t := by
  induction s using segment_induction generalizing offset with
  | unclosed s hgt =>
    rw [behindLast_of_not_mem hgt] at hs
    rw [scan_append_of_not_mem hs, scan_open offset hgt]
    rfl
  | closed s rest hgt ih =>
    rw [behindLast_segment] at hs
    have hoffset : offset + (s ++ '>' :: rest).length = offset + s.length + 1 + rest.length := by
      rw [List.length_append, List.length_cons]
      omega
    rw [List.append_assoc, List.cons_append, scan_segment offset hgt, ih hs,
      scan_segment offset hgt, List.append_assoc, hoffset]

end Placeholder

open Placeholder

theorem placeholders_written {literal : String} {pieces : List Piece}
    (hliteral : Inert literal.toList) (hpieces : ∀ piece ∈ pieces, piece.Legible) :
    placeholders (written literal pieces) = pieces.mapIdx fun i piece ↦
      ⟨piece.name, (written literal (pieces.take i)).length⟩ := by
  rw [placeholders, scan_written_pieces hliteral hpieces]
  simp only [Nat.zero_add]

theorem placeholders_append {a : String} (ha : '<' ∉ behindLast a.toList) (b : String) :
    placeholders (a ++ b) = placeholders a ++ (placeholders b).map (shift a.length) := by
  rw [placeholders, String.toList_append, scan_append ha, scan_shift, String.length_toList]
  rfl

/-- A scan of names that were written between literals gives the names back, each where its `<` was
written. A text whose last placeholder is closed does not change what a scan gives for the text
behind it. -/
theorem placeholders_put_together :
    (∀ (literal : String) (pieces : List Piece), Inert literal.toList →
      (∀ piece ∈ pieces, piece.Legible) →
      placeholders (written literal pieces) = pieces.mapIdx fun i piece ↦
        ⟨piece.name, (written literal (pieces.take i)).length⟩) ∧
    ∀ a b : String, '<' ∉ behindLast a.toList →
      placeholders (a ++ b) = placeholders a ++ (placeholders b).map (shift a.length) :=
  ⟨fun _ _ ↦ placeholders_written, fun _ b ha ↦ placeholders_append ha b⟩

/-- Names with a `<` and a line break in them, directly one behind the other, after a literal that
holds both brackets. -/
theorem placeholders_put_together_limits :
    placeholders "a > b < c <x<y><first\nlast> >> d" = [⟨"x<y", 10⟩, ⟨"first\nlast", 15⟩] ∧
    placeholders ("<x> < y> z" ++ "<first> z") = [⟨"x", 0⟩, ⟨"first", 10⟩] := by
  obtain ⟨hwritten, happend⟩ := placeholders_put_together
  have hliteral : Inert "a > b < c ".toList := by
    change Inert ['a', ' ', '>', ' ', 'b', ' ', '<', ' ', 'c', ' ']
    simp [inert_cons, inert_nil]
  have hbehind : Inert " >> d".toList := by
    change Inert [' ', '>', '>', ' ', 'd']
    simp [inert_cons, inert_nil]
  have hfirst : Piece.Legible ⟨"x<y", ""⟩ := ⟨by unfold IsName; decide, by decide, inert_nil⟩
  have hsecond : Piece.Legible ⟨"first\nlast", " >> d"⟩ :=
    ⟨by unfold IsName; decide, by decide, hbehind⟩
  constructor
  · exact hwritten "a > b < c " [⟨"x<y", ""⟩, ⟨"first\nlast", " >> d"⟩] hliteral
      (by simp [hfirst, hsecond])
  · rw [happend "<x> < y> z" "<first> z" (by decide)]
    decide

end GherkinLint
