import GherkinLint.Proofs.Placeholder.Segment
import Mathlib.Data.List.Basic

namespace GherkinLint

namespace Placeholder

def Inert (s : List Char) : Prop := ∀ a b, s = a ++ '<' :: b → b.head? = some ' '

/-- Every `<` after the last `>` is followed by a space, so that the next `<` is the first that can
open a placeholder. -/
def Unopened (s : List Char) : Prop := ∀ a b, s = a ++ '<' :: b → '>' ∉ b → b.head? = some ' '

/-- What a name must be, besides holding no `>`: not empty, and without a space at either end. -/
def IsName (name : List Char) : Prop :=
  name ≠ [] ∧ name.head? ≠ some ' ' ∧ name.getLast? ≠ some ' '

theorem inert_cons {c : Char} {s : List Char} :
    Inert (c :: s) ↔ (c = '<' → s.head? = some ' ') ∧ Inert s := by
  constructor
  · intro h
    exact ⟨fun hc ↦ h [] s (by rw [hc]; rfl), fun a b hs ↦ h (c :: a) b (by rw [hs]; rfl)⟩
  · intro ⟨hc, hs⟩ a b h
    cases a with
    | nil =>
      obtain ⟨rfl, rfl⟩ := List.cons.inj h
      exact hc rfl
    | cons d a => exact hs a b (List.cons.inj h).2

theorem Unopened.inert {s : List Char} (h : Unopened s) (hs : '>' ∉ s) : Inert s := by
  intro a b hab
  exact h a b hab fun hb ↦ hs (by simp [hab, hb])

theorem Inert.unopened {s : List Char} (h : Inert s) : Unopened s := fun a b hs _ ↦ h a b hs

theorem unopened_segment (s t : List Char) : Unopened (s ++ '>' :: t) ↔ Unopened t := by
  constructor
  · intro h a b ht hb
    exact h (s ++ '>' :: a) b (by simp [ht]) hb
  · intro h a b hst hb
    rcases List.append_eq_append_iff.1 hst with ⟨a', ha, ht⟩ | ⟨b', -, hb'⟩
    · cases a' with
      | nil => simp at ht
      | cons d a' =>
        obtain ⟨-, rfl⟩ := List.cons.inj ht
        exact h a' b rfl hb
    · cases b' with
      | nil => simp at hb'
      | cons d b' =>
        obtain ⟨-, rfl⟩ := List.cons.inj hb'
        simp at hb

theorem opened_of_inert {before name : List Char} (hb : Inert before) (hne : name ≠ [])
    (hhead : name.head? ≠ some ' ') :
    opened (before ++ '<' :: name) = some (before.length, name) := by
  induction before with
  | nil => simp [opened, hne, hhead]
  | cons c before ih =>
    obtain ⟨hc, hb⟩ := inert_cons.1 hb
    have hclosed : ¬(c = '<' ∧ before ++ '<' :: name ≠ [] ∧
        (before ++ '<' :: name).head? ≠ some ' ') := by
      intro h
      obtain ⟨rfl, -, hspace⟩ := h
      cases before with
      | nil => simp at hc
      | cons d before => exact hspace (hc rfl)
    rw [List.cons_append, opened, if_neg hclosed, ih hb]
    rfl

theorem exists_of_opened {s name : List Char} {k : Nat} (h : opened s = some (k, name)) :
    ∃ before, s = before ++ '<' :: name ∧ before.length = k ∧ name ≠ [] ∧
      name.head? ≠ some ' ' ∧ Inert before := by
  induction s generalizing k with
  | nil => simp [opened] at h
  | cons c s ih =>
    rw [opened] at h
    split at h
    next hc =>
      obtain ⟨rfl, hne, hhead⟩ := hc
      simp only [Option.some.injEq, Prod.mk.injEq] at h
      obtain ⟨rfl, rfl⟩ := h
      exact ⟨[], rfl, rfl, hne, hhead, fun a b hab ↦ by simp at hab⟩
    next hc =>
      obtain ⟨⟨k', name'⟩, hs, hk⟩ := Option.map_eq_some_iff.1 h
      simp only [Prod.mk.injEq] at hk
      obtain ⟨rfl, rfl⟩ := hk
      obtain ⟨before, rfl, rfl, hne, hhead, hb⟩ := ih hs
      refine ⟨c :: before, rfl, rfl, hne, hhead, inert_cons.2 ⟨fun hlt ↦ ?_, hb⟩⟩
      -- A `<` that the scan has passed over has a space behind it, which lies in `before`.
      have hspace : (before ++ '<' :: name').head? = some ' ' := by
        by_contra hspace
        exact hc ⟨hlt, by simp, hspace⟩
      cases before with
      | nil => simp at hspace
      | cons d before => exact hspace

theorem closed?_eq_some_iff {offset : Nat} {s : List Char} {p : Placeholder} :
    closed? offset s = some p ↔ ∃ before name, s = before ++ '<' :: name ∧ IsName name ∧
      Inert before ∧ p = ⟨String.ofList name, offset + before.length⟩ := by
  rw [closed?]
  constructor
  · intro h
    split at h
    · cases h
    next hlast =>
      obtain ⟨⟨k, name⟩, hs, rfl⟩ := Option.map_eq_some_iff.1 h
      obtain ⟨before, rfl, rfl, hne, hhead, hb⟩ := exists_of_opened hs
      refine ⟨before, name, rfl, ⟨hne, hhead, ?_⟩, hb, rfl⟩
      rwa [List.getLast?_append_of_ne_nil _ (by simp), List.getLast?_cons_of_ne_nil hne] at hlast
  · intro h
    obtain ⟨before, name, rfl, ⟨hne, hhead, hlast⟩, hb, rfl⟩ := h
    rw [List.getLast?_append_of_ne_nil _ (by simp), List.getLast?_cons_of_ne_nil hne, if_neg hlast,
      opened_of_inert hb hne hhead]
    rfl

theorem append_segment_inj {s t x y : List Char} (hs : '>' ∉ s) (ht : '>' ∉ t) :
    s ++ '>' :: x = t ++ '>' :: y ↔ s = t ∧ x = y := by
  refine ⟨fun h ↦ ?_, by rintro ⟨rfl, rfl⟩; rfl⟩
  have hst : s = t := by rw [← takeWhile_segment hs x, h, takeWhile_segment ht]
  exact ⟨hst, (List.cons.inj (List.append_cancel_left (hst ▸ h))).2⟩

/-- A placeholder is found where a name stands between a `<` and the next `>`, unless a `<` before
it has opened one already. -/
theorem mem_scan_iff {offset : Nat} {text : List Char} {p : Placeholder} :
    p ∈ scan offset 0 text ↔ ∃ before name after, text = before ++ '<' :: name ++ '>' :: after ∧
      '>' ∉ name ∧ IsName name ∧ Unopened before ∧
      p = ⟨String.ofList name, offset + before.length⟩ := by
  induction text using segment_induction generalizing offset with
  | unclosed s hs =>
    rw [scan_open offset hs]
    refine ⟨fun h ↦ by simp at h, fun h ↦ ?_⟩
    obtain ⟨before, name, after, rfl, -⟩ := h
    simp at hs
  | closed s rest hs ih =>
    rw [scan_segment offset hs, List.mem_append, Option.mem_toList, closed?_eq_some_iff, ih]
    constructor
    · intro h
      rcases h with ⟨before, name, rfl, hname, hb, rfl⟩ |
        ⟨before, name, after, rfl, hgt, hname, hb, rfl⟩
      · have hgt : '>' ∉ name := fun h ↦ hs (by simp [h])
        exact ⟨before, name, rest, by simp, hgt, hname, hb.unopened, rfl⟩
      · refine ⟨s ++ '>' :: before, name, after, by simp, hgt, hname,
          (unopened_segment s before).2 hb, ?_⟩
        simp only [List.length_append, List.length_cons, Nat.add_assoc, Nat.add_comm 1]
    · intro h
      obtain ⟨before, name, after, htext, hgt, hname, hb, rfl⟩ := h
      by_cases h : '>' ∈ before
      · obtain ⟨t, before, rfl, ht⟩ := List.eq_append_cons_of_mem h
        simp only [List.append_assoc, List.cons_append] at htext
        obtain ⟨rfl, rfl⟩ := (append_segment_inj hs ht).1 htext
        refine .inr ⟨before, name, after, by simp, hgt, hname, (unopened_segment s before).1 hb, ?_⟩
        simp only [List.length_append, List.length_cons, Nat.add_assoc, Nat.add_comm 1]
      · have ht : '>' ∉ before ++ '<' :: name := by simp [h, hgt]
        obtain ⟨rfl, rfl⟩ := (append_segment_inj hs ht).1 htext
        exact .inl ⟨before, name, rfl, hname, hb.inert h, rfl⟩

end Placeholder

open Placeholder

theorem mem_placeholders_iff {text : String} {p : Placeholder} :
    p ∈ placeholders text ↔ ∃ before name after,
      text.toList = before ++ '<' :: name ++ '>' :: after ∧ '>' ∉ name ∧ IsName name ∧
        Unopened before ∧ p = ⟨String.ofList name, before.length⟩ := by
  rw [placeholders, mem_scan_iff]
  simp only [Nat.zero_add]

theorem exists_of_mem_placeholders {text : String} {p : Placeholder} (h : p ∈ placeholders text) :
    ∃ before after, text.toList = before ++ ("<" ++ p.name ++ ">").toList ++ after ∧
      p.offset = before.length := by
  obtain ⟨before, name, after, htext, -, -, -, rfl⟩ := mem_placeholders_iff.1 h
  refine ⟨before, after, ?_, rfl⟩
  rw [htext, String.toList_append, String.toList_append, String.toList_ofList]
  simp

end GherkinLint
