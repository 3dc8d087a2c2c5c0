import GherkinLint.Pattern.Reader
import GherkinLint.Proofs.Pattern.Ends
import GherkinLint.Proofs.Placeholder.Occurrence
import Mathlib

namespace GherkinLint

namespace Pattern

/-- The matches of a node in a text, one behind the other: where each begins and where it ends.
`skip` characters are part of a match already. -/
def Node.occurrences (node : Node) : Nat → List Char → List Char → List (Place × Place)
  | _, before, [] =>
    match node.ends ⟨before, [], []⟩ with
    | [] => []
    | stop :: _ => [(⟨before, [], []⟩, stop)]
  | skip + 1, before, c :: after => node.occurrences skip (c :: before) after
  | 0, before, c :: after =>
    match node.ends ⟨before, c :: after, []⟩ with
    | [] => node.occurrences 0 (c :: before) after
    | stop :: _ =>
      (⟨before, c :: after, []⟩, stop) ::
        node.occurrences (after.length - stop.after.length) (c :: before) after

def CharSet.only (c : Char) : CharSet := ⟨[.range c.toNat c.toNat], false, false, false⟩

def CharSet.allBut (c : Char) : CharSet := ⟨[.range c.toNat c.toNat], true, false, false⟩

theorem SetItem.holds_single {c d : Char} :
    (SetItem.range d.toNat d.toNat).holds false c = true ↔ c = d := by
  rw [SetItem.holds, Bool.and_eq_true, decide_eq_true_iff, decide_eq_true_iff]
  constructor
  · intro h
    exact Char.toNat_inj.1 (Nat.le_antisymm h.2 h.1)
  · rintro rfl
    exact ⟨Nat.le_refl _, Nat.le_refl _⟩

theorem CharSet.holds_only {c d : Char} : (only d).holds c ↔ c = d := by
  simp [only, holds, SetItem.holds_single]

theorem CharSet.holds_allBut {c d : Char} : (allBut d).holds c ↔ c ≠ d := by
  rw [ne_eq, ← SetItem.holds_single (c := c), Bool.not_eq_true]
  simp [allBut, holds]

end Pattern

namespace Placeholder

open Pattern

def expression : String := "<((?! )[^>]+(?<! ))>"

def space : Node := .seq (.one (.only ' ')) .empty

def nameNode : Node :=
  .seq (.ahead true space) (.seq (.times 1 none .greedy (.one (.allBut '>')))
    (.seq (.behind true 1 space) .empty))

def node : Node :=
  .seq (.one (.only '<')) (.seq (.group 1 nameNode) (.seq (.one (.only '>')) .empty))

theorem tokens_expression :
    tokens expression.toList =
      [.char '<', .char '(', .char '(', .char '?', .char '!', .char ' ', .char ')', .char '[',
        .char '^', .char '>', .char ']', .char '+', .char '(', .char '?', .char '<', .char '!',
        .char ' ', .char ')', .char ')', .char '>'] := by
  decide +kernel

theorem ofText_expression (names : CharacterNames) :
    (Pattern.ofText names expression).toOption = some ⟨expression, node⟩ := by
  rw [Pattern.ofText, tokens_expression]
  cbv

variable {place stop : Place}

theorem ends_space_eq_nil : space.ends place = [] ↔ place.after.head? ≠ some ' ' := by
  rw [List.eq_nil_iff_forall_not_mem]
  simp only [space, mem_ends_seq, mem_ends_one, mem_ends_empty, CharSet.holds_only]
  constructor
  · intro h hhead
    obtain ⟨after, hafter⟩ := List.head?_eq_some_iff.1 hhead
    exact h _ ⟨_, ⟨' ', after, hafter, rfl, rfl⟩, rfl⟩
  · rintro h _ ⟨_, ⟨c, after, hafter, rfl, -⟩, -⟩
    exact h (by rw [hafter]; rfl)

theorem mem_ends_behind_space :
    stop ∈ (Node.behind true 1 space).ends place ↔
      stop = place ∧ place.before.head? ≠ some ' ' := by
  rw [mem_ends_not_behind]
  refine and_congr_right fun _ ↦ ?_
  simp only [ends_space_eq_nil, Place.back?]
  cases place.before <;> simp

theorem mem_ends_nameNode :
    stop ∈ nameNode.ends place ↔ ∃ name rest, place.after = name ++ rest ∧ '>' ∉ name ∧
      IsName name ∧ stop = place.past name rest := by
  have hends {name rest : List Char} (hne : name ≠ []) (hafter : place.after = name ++ rest) :
      place.after.head? = name.head? ∧ (place.past name rest).before.head? = name.getLast? := by
    constructor
    · rw [hafter, List.head?_append_of_ne_nil _ hne]
    · rw [Place.past, List.head?_append_of_ne_nil _ (by simpa using hne), List.head?_reverse]
  simp only [nameNode, mem_ends_seq, mem_ends_not_ahead, ends_space_eq_nil, mem_ends_repeated_set,
    mem_ends_behind_space, mem_ends_empty, Runs, CharSet.holds_allBut]
  constructor
  · rintro ⟨_, ⟨rfl, hhead⟩, _, ⟨name, rest, hafter, hleast, hgt, rfl⟩, _, ⟨rfl, hlast⟩, rfl⟩
    have hne : name ≠ [] := List.ne_nil_of_length_pos hleast
    obtain ⟨hfirst, hback⟩ := hends hne hafter
    refine ⟨name, rest, hafter, fun h ↦ hgt '>' h rfl, ⟨hne, ?_, ?_⟩, rfl⟩
    · rwa [← hfirst]
    · rwa [← hback]
  · rintro ⟨name, rest, hafter, hgt, ⟨hne, hhead, hlast⟩, rfl⟩
    obtain ⟨hfirst, hback⟩ := hends hne hafter
    rw [← hfirst] at hhead
    rw [← hback] at hlast
    have hother : ∀ c ∈ name, c ≠ '>' := fun c hc hgt' ↦ hgt (hgt' ▸ hc)
    exact ⟨place, ⟨rfl, hhead⟩, _, ⟨name, rest, hafter, List.length_pos_iff.2 hne, hother, rfl⟩, _,
      ⟨rfl, hlast⟩, rfl⟩

theorem taken_past {name rest : List Char} (h : place.after = name ++ rest) :
    place.taken (place.past name rest) = name := by
  have hlength : place.after.length - rest.length = name.length := by
    rw [h, List.length_append]
    omega
  rw [Place.taken, Place.past, hlength, h, List.take_left]

def behind (before name rest : List Char) : Place :=
  ⟨'>' :: (name.reverse ++ '<' :: before), rest, [(1, name)]⟩

/-- However far the repetition goes, only a name that reaches up to the next `>` is a match. -/
theorem mem_ends_node {before s : List Char} {c : Char} :
    stop ∈ node.ends ⟨before, c :: s, []⟩ ↔ c = '<' ∧ ∃ name rest, s = name ++ '>' :: rest ∧
      '>' ∉ name ∧ IsName name ∧ stop = behind before name rest := by
  simp only [node, mem_ends_seq, mem_ends_group, mem_ends_one, mem_ends_empty, mem_ends_nameNode,
    CharSet.holds_only]
  constructor
  · rintro ⟨_, ⟨_, _, hc, rfl, rfl⟩, _, ⟨_, ⟨name, rest, hs, hgt, hname, rfl⟩, rfl⟩, _,
      ⟨_, after, hafter, rfl, rfl⟩, rfl⟩
    obtain ⟨rfl, rfl⟩ := List.cons.inj hc
    obtain rfl : rest = '>' :: after := hafter
    rw [taken_past hs]
    exact ⟨rfl, name, after, hs, hgt, hname, rfl⟩
  · rintro ⟨rfl, name, rest, rfl, hgt, hname, rfl⟩
    refine ⟨_, ⟨'<', _, rfl, rfl, rfl⟩, _, ⟨_, ⟨name, '>' :: rest, rfl, hgt, hname, rfl⟩, rfl⟩, _,
      ⟨'>', rest, rfl, rfl, rfl⟩, ?_⟩
    rw [taken_past rfl]
    rfl

theorem nameAt_eq_some_iff {s name : List Char} :
    nameAt s = some name ↔ ∃ rest, s = name ++ '>' :: rest ∧ '>' ∉ name ∧ IsName name := by
  constructor
  · intro h
    by_cases hs : '>' ∈ s
    · obtain ⟨segment, rest, rfl, hsegment⟩ := List.eq_append_cons_of_mem hs
      rw [nameAt_segment hsegment, Option.ite_none_right_eq_some] at h
      obtain ⟨hname, h⟩ := h
      obtain rfl := Option.some.inj h
      exact ⟨rest, rfl, hsegment, hname⟩
    · rw [nameAt_open hs] at h
      cases h
  · rintro ⟨rest, rfl, hgt, hname⟩
    rw [nameAt_segment hgt]
    exact if_pos hname

/-- The expression has at most one way to match at a place, and that one gives the name. -/
theorem ends_node (before s : List Char) (c : Char) :
    match node.ends ⟨before, c :: s, []⟩ with
    | [] => c = '<' → nameAt s = none
    | stop :: _ => c = '<' ∧ ∃ name rest, nameAt s = some name ∧ s = name ++ '>' :: rest ∧
        stop = behind before name rest := by
  cases hends : node.ends ⟨before, c :: s, []⟩ with
  | nil =>
    rintro rfl
    by_contra h
    obtain ⟨name, hname⟩ := Option.ne_none_iff_exists'.1 h
    obtain ⟨rest, hs, hgt, hname⟩ := nameAt_eq_some_iff.1 hname
    have hmem : behind before name rest ∈ node.ends ⟨before, '<' :: s, []⟩ :=
      mem_ends_node.2 ⟨rfl, name, rest, hs, hgt, hname, rfl⟩
    rw [hends] at hmem
    cases hmem
  | cons stop more =>
    have hmem : stop ∈ node.ends ⟨before, c :: s, []⟩ := by
      rw [hends]
      exact List.mem_cons_self
    obtain ⟨hc, name, rest, hs, hgt, hname, hstop⟩ := mem_ends_node.1 hmem
    exact ⟨hc, name, rest, nameAt_eq_some_iff.2 ⟨rest, hs, hgt, hname⟩, hs, hstop⟩

/-- The placeholder that a match of the expression stands for: the text of its group, and the number
of characters before it. -/
def ofMatch (found : Place × Place) : Placeholder :=
  ⟨String.ofList ((found.2.groups.lookup 1).getD []), found.1.before.length⟩

theorem scan_eq_occurrences (skip : Nat) (before after : List Char) :
    scan before.length skip after = (node.occurrences skip before after).map ofMatch := by
  induction after generalizing skip before with
  | nil =>
    have hends : node.ends ⟨before, [], []⟩ = [] := rfl
    rw [scan, Node.occurrences, hends]
    rfl
  | cons c s ih =>
    cases skip with
    | succ skip => exact ih skip (c :: before)
    | zero =>
      have h := ends_node before s c
      rw [scan, Node.occurrences]
      cases hends : node.ends ⟨before, c :: s, []⟩ with
      | nil =>
        rw [hends] at h
        have hnext := ih 0 (c :: before)
        rw [List.length_cons] at hnext
        by_cases hc : c = '<'
        · simp only [if_pos hc, h hc, hnext]
        · simp only [if_neg hc, hnext]
      | cons stop more =>
        rw [hends] at h
        obtain ⟨rfl, name, rest, hname, rfl, rfl⟩ := h
        have hskip : (name ++ '>' :: rest).length - rest.length = name.length + 1 := by
          simp only [List.length_append, List.length_cons]
          omega
        have hnext := ih (name.length + 1) ('<' :: before)
        rw [List.length_cons] at hnext
        simp only [if_pos, hname, behind, hskip, hnext, List.map_cons]
        rfl

/-- The scan finds the matches of the expression. -/
theorem placeholders_eq_occurrences (text : String) :
    placeholders text = (node.occurrences 0 [] text.toList).map ofMatch :=
  scan_eq_occurrences 0 [] text.toList

end Placeholder

end GherkinLint
