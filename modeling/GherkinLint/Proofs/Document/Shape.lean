import GherkinLint.Proofs.Document.WellFormed

namespace GherkinLint.Message

/-- What stands under the keys of a node that have no parts: numbers in a location, and texts in all
other nodes. -/
def Kind.holds (kind : Kind) (d : Data) : Bool :=
  if kind = .location then d matches .int _ else d matches .text _

def Slot.holds (d : Data) : Slot → Bool
  | one .. => (d matches .object _)
  | many .. =>
    match d with
    | .list items => items.all (· matches .object _)
    | _ => false

/-- A node of a message that has the cucumber shape, with all that is below it. -/
inductive Shaped : Kind → Members Data → Prop
  | node {kind : Kind} {members : Members Data} :
      (∀ key ∈ kind.scalars, ∀ d ∈ members.lookup key, kind.holds d = true) →
      (∀ slot ∈ kind.slots, ∀ d ∈ members.lookup slot.key, slot.holds d = true) →
      (∀ slot ∈ kind.slots, ∀ inner, .ok inner ∈ slot.parts members → Shaped slot.kind inner) →
      Shaped kind members

def shapedWithin : Nat → Kind → Members Data → Bool
  | 0, _, _ => false
  | depth + 1, kind, members =>
    (kind.scalars.all fun key ↦ (members.lookup key).all kind.holds) &&
      kind.slots.all fun slot ↦
        ((members.lookup slot.key).all fun d ↦ slot.holds d) &&
          (slot.parts members).all fun part ↦
            match part with
            | .ok inner => shapedWithin depth slot.kind inner
            | .error _ => true

theorem shaped_of_within {depth : Nat} {kind : Kind} {members : Members Data}
    (h : shapedWithin depth kind members = true) : Shaped kind members := by
  induction depth generalizing kind members with
  | zero => cases h
  | succ depth ih =>
    rw [shapedWithin, Bool.and_eq_true, List.all_eq_true, List.all_eq_true] at h
    obtain ⟨hscalars, hslots⟩ := h
    refine .node (fun key hkey ↦ ?_) (fun slot hslot ↦ ?_) fun slot hslot inner hinner ↦ ?_
    · exact (Option.all_eq_true _ _).1 (hscalars key hkey)
    · exact (Option.all_eq_true _ _).1 (Bool.and_eq_true_iff.1 (hslots slot hslot)).1
    · exact ih (List.all_eq_true.1 (Bool.and_eq_true_iff.1 (hslots slot hslot)).2 _ hinner)

/-- There is a step with a data table and a doc string in the node or below it. -/
def Overloaded (kind : Kind) (members : Members Data) : Prop :=
  ∃ inner, .node .step inner ∈ course kind members ∧
    isFilled "dataTable" inner = true ∧ isFilled "docString" inner = true

variable {kind : Kind} {members : Members Data}

theorem Slot.admits_of_holds {slot : Slot} {d : Data} (h : slot.holds d = true) :
    slot.Admits d := by
  cases slot with
  | one key part =>
    cases d with
    | object inner => exact .inr ⟨inner, rfl⟩
    | null | bool | int | fraction | moment | text | list => cases h
  | many key part =>
    cases d with
    | list items =>
      refine .inr (.inr ⟨items, rfl, fun item hitem ↦ ?_⟩)
      have hobject := List.all_eq_true.1 h item hitem
      cases item with
      | object inner => exact ⟨inner, rfl⟩
      | null | bool | int | fraction | moment | text | list => cases hobject
    | null | bool | int | fraction | moment | text | object => cases h

theorem Shaped.error_not_mem (h : Shaped kind members) {slot : Slot} (hslot : slot ∈ kind.slots)
    (fault : MessageFault) : .error fault ∉ slot.parts members := by
  obtain ⟨-, hfilled, -⟩ := h
  exact (forall_admits_iff slot).1 (fun d hd ↦ Slot.admits_of_holds (hfilled slot hslot d hd)) fault

theorem overloads_iff : overloads kind members = true ↔
    kind = .step ∧ isFilled "dataTable" members = true ∧ isFilled "docString" members = true := by
  simp [overloads, and_assoc]

/-- The one fault that there can be is that of an overloaded step. -/
theorem Shaped.fault_mem_course_iff (h : Shaped kind members) {fault : MessageFault} :
    .fault fault ∈ course kind members ↔ fault = .twoArguments ∧ Overloaded kind members := by
  induction h with
  | @node kind members hscalars hfilled hparts ih =>
    have hnode : Shaped kind members := .node hscalars hfilled hparts
    rw [mem_course_iff]
    constructor
    · rintro (hfault | ⟨slot, hslot, part, hpart, hfault⟩ | ⟨hown, hfault⟩)
      · cases hfault
      · cases part with
        | error found => exact absurd hpart (hnode.error_not_mem hslot found)
        | ok inner =>
          obtain ⟨hfault, step, hstep, hboth⟩ := (ih slot hslot inner hpart).1 hfault
          exact ⟨hfault, step, mem_course_iff.2 (.inr (.inl ⟨slot, hslot, _, hpart, hstep⟩)), hboth⟩
      · cases hfault
        obtain ⟨rfl, hboth⟩ := overloads_iff.1 hown
        exact ⟨rfl, members, mem_course_iff.2 (.inl rfl), hboth⟩
    · rintro ⟨rfl, step, hstep, hboth⟩
      rcases mem_course_iff.1 hstep with hstep | ⟨slot, hslot, part, hpart, hstep⟩ | ⟨-, hstep⟩
      · cases hstep
        exact .inr (.inr ⟨overloads_iff.2 ⟨rfl, hboth⟩, rfl⟩)
      · cases part with
        | error found => exact absurd hpart (hnode.error_not_mem hslot found)
        | ok inner =>
          have hbelow := (ih slot hslot inner hpart).2 ⟨rfl, step, hstep, hboth⟩
          exact .inr (.inl ⟨slot, hslot, _, hpart, hbelow⟩)
      · cases hstep

theorem mem_faults_iff {fault : MessageFault} :
    fault ∈ faults kind members ↔ .fault fault ∈ course kind members := by
  rw [faults, List.mem_filterMap]
  constructor
  · rintro ⟨visit, hvisit, hfault⟩
    cases visit with
    | node => cases hfault
    | fault found =>
      cases hfault
      exact hvisit
  · exact fun h ↦ ⟨_, h, rfl⟩

/-- A message of the cucumber shape is read, or has an overloaded step. -/
theorem Shaped.ofMessage_cases (h : Shaped .document members) (uri : String) :
    (Overloaded .document members →
      Document.ofMessage uri (.object members) = .error .twoArguments) ∧
    (¬Overloaded .document members →
      ∃ document, Document.ofMessage uri (.object members) = .ok document) := by
  have hstops := stops_ofMessage uri (.object members)
  change Stops _ (faults .document members) at hstops
  constructor
  · intro hover
    have hmem : .twoArguments ∈ faults .document members :=
      mem_faults_iff.2 (h.fault_mem_course_iff.2 ⟨rfl, hover⟩)
    obtain ⟨first, hfirst⟩ := Option.ne_none_iff_exists'.1
      (mt List.head?_eq_none_iff.1 (List.ne_nil_of_mem hmem))
    have hone := mem_faults_iff.1 (List.mem_of_mem_head? hfirst)
    obtain ⟨rfl, -⟩ := h.fault_mem_course_iff.1 hone
    exact hstops.eq_error_iff.2 hfirst
  · intro hno
    refine hstops.exists_ok_iff.2 (List.eq_nil_iff_forall_not_mem.2 fun fault hfault ↦ ?_)
    exact hno (h.fault_mem_course_iff.1 (mem_faults_iff.1 hfault)).2

end GherkinLint.Message
