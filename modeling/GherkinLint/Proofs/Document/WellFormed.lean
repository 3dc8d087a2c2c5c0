import GherkinLint.Proofs.Document.Stops

namespace GherkinLint.Message

/-- What may stand under a key: for one part an object or nothing, and for parts a list of objects
or an empty text or object. -/
def Slot.Admits (d : Data) : Slot → Prop
  | one .. => d.isEmpty ∨ ∃ inner, d = .object inner
  | many .. =>
    d = .text "" ∨ d = .object [] ∨
      ∃ items, d = .list items ∧ ∀ item ∈ items, ∃ inner, item = .object inner

/-- What a node must be by itself, whatever its parts are. -/
structure Proper (kind : Kind) (members : Members Data) : Prop where
  slot : ∀ slot ∈ kind.slots, ∀ d, members.lookup slot.key = some d → slot.Admits d
  arguments : kind = .step → ¬(isFilled "dataTable" members ∧ isFilled "docString" members)

/-- The message is an object, and a reading comes to proper nodes only. -/
def WellFormed (d : Data) : Prop :=
  ∃ members, d = .object members ∧
    ∀ kind inner, .node kind inner ∈ course .document members → Proper kind inner

theorem error_ne_partOf_iff {d : Data} :
    (∀ fault, .error fault ≠ partOf d) ↔ ∃ inner, d = .object inner := by
  cases d <;> simp [partOf]

theorem error_not_mem_itemsOf_iff {d : Data} :
    (∀ fault, .error fault ∉ itemsOf d) ↔ d = .text "" ∨ d = .object [] ∨
      ∃ items, d = .list items ∧ ∀ item ∈ items, ∃ inner, item = .object inner := by
  have hnone {α : Type} (l : List α) :
      (∀ fault, .error fault ∉ l.map fun _ ↦ (.error .notObject : Part)) ↔ l = [] := by
    constructor
    · intro h
      exact List.eq_nil_iff_forall_not_mem.2 fun a ha ↦ h _ (List.mem_map.2 ⟨a, ha, rfl⟩)
    · rintro rfl fault
      exact List.not_mem_nil
  cases d with
  | list items =>
    simp only [itemsOf, List.mem_map, not_exists, not_and, reduceCtorEq, Data.list.injEq, false_or,
      exists_eq_left', ← error_ne_partOf_iff]
    exact ⟨fun h item hitem fault hfault ↦ h fault item hitem hfault.symm,
      fun h fault item hitem hfault ↦ h item hitem fault hfault.symm⟩
  | text s =>
    rw [itemsOf, hnone]
    simp
  | object inner =>
    rw [itemsOf, hnone]
    simp
  | null | bool | int | fraction | moment => simp [itemsOf]

theorem admits_iff {slot : Slot} {d : Data} :
    slot.Admits d ↔ ∀ fault, .error fault ∉ slot.partsAt d := by
  cases slot with
  | one key kind =>
    rw [Slot.Admits, Slot.partsAt, ← error_ne_partOf_iff]
    cases d.isEmpty <;> simp
  | many key kind => exact error_not_mem_itemsOf_iff.symm

theorem forall_admits_iff (slot : Slot) {members : Members Data} :
    (∀ d, members.lookup slot.key = some d → slot.Admits d) ↔
      ∀ fault, .error fault ∉ slot.parts members := by
  unfold Slot.parts
  cases members.lookup slot.key with
  | none => simp
  | some d => simp [admits_iff]

theorem proper_iff {kind : Kind} {members : Members Data} :
    Proper kind members ↔
      (∀ slot ∈ kind.slots, ∀ fault, .error fault ∉ slot.parts members) ∧
        overloads kind members = false := by
  have harguments :
      (kind = .step → ¬(isFilled "dataTable" members ∧ isFilled "docString" members)) ↔
        overloads kind members = false := by
    simp [overloads]
  rw [← harguments]
  constructor
  · intro h
    exact ⟨fun slot hs ↦ (forall_admits_iff slot).1 (h.slot slot hs), h.arguments⟩
  · intro h
    exact ⟨fun slot hs ↦ (forall_admits_iff slot).2 (h.1 slot hs), h.2⟩

theorem Slot.faults_eq_nil_iff {slot : Slot} {members : Members Data} :
    slot.faults members = [] ↔ (∀ fault, .error fault ∉ slot.parts members) ∧
      ∀ inner, .ok inner ∈ slot.parts members → Message.faults slot.kind inner = [] := by
  rw [Slot.faults, List.flatMap_eq_nil_iff]
  constructor
  · intro h
    exact ⟨fun fault hfault ↦ List.cons_ne_nil _ _ (h _ hfault), fun inner hinner ↦ h _ hinner⟩
  · intro h part hpart
    obtain ⟨herror, hok⟩ := h
    cases part with
    | error fault => exact absurd hpart (herror fault)
    | ok inner => exact hok inner hpart

/-- One node: it is proper, and there is no fault below it. -/
theorem faults_eq_nil_iff_proper {kind : Kind} {members : Members Data} :
    faults kind members = [] ↔ Proper kind members ∧
      ∀ slot ∈ kind.slots, ∀ inner, .ok inner ∈ slot.parts members →
        faults slot.kind inner = [] := by
  have hfoldr (slots : List Slot) (own : List MessageFault) :
      slots.foldr (fun slot below ↦ slot.faults members ++ below) own = [] ↔
        (∀ slot ∈ slots, slot.faults members = []) ∧ own = [] := by
    induction slots with
    | nil => simp
    | cons slot slots ih => rw [List.foldr_cons, List.append_eq_nil_iff, ih, List.forall_mem_cons,
        and_assoc]
  rw [faults_eq, hfoldr, proper_iff]
  simp only [Slot.faults_eq_nil_iff, ite_eq_right_iff, List.cons_ne_nil, imp_false,
    Bool.not_eq_true]
  constructor
  · intro h
    exact ⟨⟨fun slot hslot ↦ (h.1 slot hslot).1, h.2⟩, fun slot hslot ↦ (h.1 slot hslot).2⟩
  · intro h
    exact ⟨fun slot hslot ↦ ⟨h.1.1 slot hslot, h.2 slot hslot⟩, h.1.2⟩

theorem faults_eq_nil_iff (kind : Kind) (members : Members Data) :
    faults kind members = [] ↔ ∀ k m, .node k m ∈ course kind members → Proper k m := by
  rw [forall_node_iff, faults_eq_nil_iff_proper]
  refine and_congr_right fun _ ↦ forall₂_congr fun slot _ ↦ forall₂_congr fun inner hinner ↦ ?_
  exact faults_eq_nil_iff slot.kind inner
termination_by sizeOf members
decreasing_by exact sizeOf_lt_of_mem_parts hinner

theorem wellFormed_iff {d : Data} : WellFormed d ↔ faultsOf .document (partOf d) = [] := by
  cases d with
  | object members =>
    rw [partOf, faultsOf, faults_eq_nil_iff]
    simp [WellFormed]
  | null | bool | int | fraction | moment | text | list => simp [WellFormed, partOf, faultsOf]

/-- A message is read just when it is well formed. Any other one is refused with the first fault
that a reading comes to. -/
theorem ofMessage_wellFormed (uri : String) (d : Data) :
    ((∃ document, Document.ofMessage uri d = .ok document) ↔ WellFormed d) ∧
      ∀ fault, Document.ofMessage uri d = .error fault ↔
        (faultsOf .document (partOf d)).head? = some fault := by
  have h := stops_ofMessage uri d
  rw [wellFormed_iff]
  exact ⟨h.exists_ok_iff, fun _ ↦ h.eq_error_iff⟩

end GherkinLint.Message
