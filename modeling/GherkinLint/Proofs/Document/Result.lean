import GherkinLint.Proofs.Document.Course
import GherkinLint.Proofs.Outcome

namespace GherkinLint.Message

variable {α β : Type}

theorem exists_of_item {read : Members Data → Except MessageFault α} {d : Data} {a : α}
    (h : item read d = .ok a) : ∃ inner, d = .object inner ∧ read inner = .ok a := by
  cases d with
  | object inner => exact ⟨inner, rfl, h⟩
  | null | bool | int | fraction | moment | text | list => cases h

variable {read : Members Data → Except MessageFault α} {key : String} {members : Members Data}

/-- There is a part in the result just when the key is filled. -/
theorem isSome_of_part {found : Option α} (h : part read key members = .ok found) :
    found.isSome = isFilled key members := by
  rw [part_eq] at h
  unfold isFilled
  cases hlookup : members.lookup key with
  | none =>
    rw [hlookup] at h
    cases h
    rfl
  | some d =>
    rw [hlookup] at h
    dsimp only at h
    rw [Option.any_some]
    cases hd : d.isEmpty with
    | true =>
      rw [hd] at h
      cases h
      rfl
    | false =>
      rw [hd] at h
      obtain ⟨a, -, rfl⟩ := exists_of_map h
      rfl

theorem parts_eq_nil_iff {kind : Kind} :
    (Slot.one key kind).parts members = [] ↔ isFilled key members = false := by
  unfold Slot.parts Slot.key Slot.partsAt isFilled
  cases members.lookup key with
  | none => simp
  | some d => cases hd : d.isEmpty <;> simp [hd]

theorem parts_eq_nil_of_part (h : part read key members = .ok none) (kind : Kind) :
    (Slot.one key kind).parts members = [] :=
  parts_eq_nil_iff.2 (isSome_of_part h).symm

/-- A part that is read stands under its key, and is not empty. -/
theorem exists_of_part {a : α} (h : part read key members = .ok (some a)) (kind : Kind) :
    ∃ inner, (Slot.one key kind).parts members = [.ok inner] ∧ inner ≠ [] ∧ read inner = .ok a := by
  have hfilled : isFilled key members = true := (isSome_of_part h).symm
  rw [part_eq] at h
  unfold isFilled at hfilled
  unfold Slot.parts Slot.key
  cases hlookup : members.lookup key with
  | none =>
    rw [hlookup] at hfilled
    cases hfilled
  | some d =>
    rw [hlookup, Option.any_some, Bool.not_eq_true'] at hfilled
    rw [hlookup] at h
    dsimp only [Slot.partsAt] at h ⊢
    rw [hfilled] at h ⊢
    obtain ⟨b, hread, hsome⟩ := exists_of_map h
    cases hsome
    obtain ⟨inner, rfl, hread⟩ := exists_of_item hread
    refine ⟨inner, rfl, ?_, hread⟩
    rintro rfl
    cases hfilled

theorem exists_of_mapM {items : List Data} {found : List α}
    (h : items.mapM (item read) = .ok found) :
    ∃ inners, items = inners.map .object ∧
      List.Forall₂ (fun inner a ↦ read inner = .ok a) inners found := by
  have hitems := forall₂_of_mapM h
  clear h
  induction hitems with
  | nil => exact ⟨[], rfl, .nil⟩
  | cons ha _ ih =>
    obtain ⟨inner, rfl, hread⟩ := exists_of_item ha
    obtain ⟨inners, rfl, hinners⟩ := ih
    exact ⟨inner :: inners, rfl, .cons hread hinners⟩

/-- A list is read from the parts under its key, each item from the part in its place. -/
theorem exists_of_list {found : List α} (h : list (item read) key members = .ok found)
    (kind : Kind) :
    ∃ inners, (Slot.many key kind).parts members = inners.map .ok ∧
      List.Forall₂ (fun inner a ↦ read inner = .ok a) inners found := by
  unfold list at h
  unfold Slot.parts Slot.key
  cases hlookup : members.lookup key with
  | none =>
    rw [hlookup] at h
    cases h
    exact ⟨[], rfl, .nil⟩
  | some d =>
    rw [hlookup] at h
    dsimp only [Slot.partsAt] at h ⊢
    cases d with
    | list items =>
      obtain ⟨inners, rfl, hinners⟩ := exists_of_mapM h
      refine ⟨inners, ?_, hinners⟩
      rw [itemsOf, List.map_map]
      rfl
    | text s =>
      rw [listOf] at h
      split at h
      next hs =>
        subst hs
        cases h
        exact ⟨[], rfl, .nil⟩
      next => cases h
    | object inner =>
      cases inner with
      | nil =>
        cases h
        exact ⟨[], rfl, .nil⟩
      | cons => cases h
    | null | bool | int | fraction | moment => cases h

end GherkinLint.Message
