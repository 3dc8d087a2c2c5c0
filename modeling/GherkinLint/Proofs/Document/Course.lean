import GherkinLint.Proofs.Document.Reader

namespace GherkinLint.Message

inductive Kind where
  | document
  | comment
  | feature
  | child
  | group
  | background
  | scenario
  | examples
  | step
  | dataTable
  | docString
  | row
  | cell
  | location
  deriving DecidableEq, Repr

inductive Slot where
  | one (key : String) (kind : Kind)
  | many (key : String) (kind : Kind)
  deriving DecidableEq, Repr

def Slot.key : Slot → String
  | one key _ => key
  | many key _ => key

def Slot.kind : Slot → Kind
  | one _ kind => kind
  | many _ kind => kind

/-- Where the parts of a node stand, in the order in which they are read. -/
def Kind.slots : Kind → List Slot
  | document => [.one "feature" .feature, .many "comments" .comment]
  | feature | group => [.one "location" .location, .many "children" .child]
  | child => [.one "scenario" .scenario, .one "background" .background, .one "rule" .group]
  | background => [.one "location" .location, .many "steps" .step]
  | scenario =>
    [.one "location" .location, .many "steps" .step, .many "examples" .examples]
  | examples => [.one "location" .location, .one "tableHeader" .row, .many "tableBody" .row]
  | step =>
    [.one "location" .location, .one "dataTable" .dataTable, .one "docString" .docString]
  | dataTable => [.one "location" .location, .many "rows" .row]
  | row => [.one "location" .location, .many "cells" .cell]
  | cell | docString => [.one "location" .location]
  | comment | location => []

def Kind.scalars : Kind → List String
  | document => ["uri"]
  | feature => ["keyword", "name", "language"]
  | group | background | scenario | examples => ["keyword", "name"]
  | step => ["keyword", "text"]
  | docString => ["content", "delimiter"]
  | comment => ["text"]
  | cell => ["value"]
  | location => ["line", "column"]
  | child | dataTable | row => []

abbrev Part := Except MessageFault (Members Data)

def partOf : Data → Part
  | .object members => .ok members
  | _ => .error .notObject

/-- The items of a value that stands for a list: a text has its characters and an object its keys,
and none of them is an object. -/
def itemsOf : Data → List Part
  | .list items => items.map partOf
  | .text s => s.toList.map fun _ ↦ .error .notObject
  | .object members => members.map fun _ ↦ .error .notObject
  | .null | .bool _ | .int _ | .fraction _ | .moment .. => [.error .notList]

def Slot.partsAt (d : Data) : Slot → List Part
  | one .. => if d.isEmpty then [] else [partOf d]
  | many .. => itemsOf d

def Slot.parts (slot : Slot) (members : Members Data) : List Part :=
  match members.lookup slot.key with
  | some d => slot.partsAt d
  | none => []

def isFilled (key : String) (members : Members Data) : Bool :=
  (members.lookup key).any fun d ↦ !d.isEmpty

def overloads (kind : Kind) (members : Members Data) : Bool :=
  kind = .step && isFilled "dataTable" members && isFilled "docString" members

theorem sizeOf_lt_of_lookup {members : Members Data} {key : String} {d : Data}
    (h : members.lookup key = some d) : sizeOf d < sizeOf members := by
  induction members with
  | nil => cases h
  | cons first members ih =>
    obtain ⟨k, first⟩ := first
    rw [List.lookup_cons] at h
    split at h
    · cases h
      simp only [List.cons.sizeOf_spec, Prod.mk.sizeOf_spec]
      omega
    · have hlt := ih h
      simp only [List.cons.sizeOf_spec]
      omega

theorem partOf_eq_ok {d : Data} {members : Members Data} :
    partOf d = .ok members ↔ d = .object members := by
  cases d <;> simp [partOf]

theorem ok_mem_itemsOf {d : Data} {members : Members Data} :
    .ok members ∈ itemsOf d ↔ ∃ items, d = .list items ∧ .object members ∈ items := by
  cases d <;> simp [itemsOf, partOf_eq_ok]

theorem ok_mem_parts_one {key : String} {kind : Kind} {members inner : Members Data} :
    .ok inner ∈ (Slot.one key kind).parts members ↔
      members.lookup key = some (.object inner) ∧ inner ≠ [] := by
  unfold Slot.parts Slot.key Slot.partsAt
  cases members.lookup key with
  | none => simp
  | some d =>
    dsimp only
    rw [Option.some.injEq]
    by_cases hd : d.isEmpty
    · rw [if_pos hd]
      refine ⟨fun h ↦ absurd h List.not_mem_nil, fun h ↦ ?_⟩
      obtain ⟨rfl, hne⟩ := h
      exact absurd (List.isEmpty_iff.1 hd) hne
    · rw [if_neg hd, List.mem_singleton, eq_comm, partOf_eq_ok]
      refine ⟨fun h ↦ ⟨h, ?_⟩, And.left⟩
      rintro rfl
      exact hd (h ▸ rfl)

theorem ok_mem_parts_many {key : String} {kind : Kind} {members inner : Members Data} :
    .ok inner ∈ (Slot.many key kind).parts members ↔
      ∃ items, members.lookup key = some (.list items) ∧ .object inner ∈ items := by
  unfold Slot.parts Slot.key Slot.partsAt
  cases members.lookup key with
  | none => simp
  | some d => simp [ok_mem_itemsOf]

theorem sizeOf_lt_of_mem_parts {slot : Slot} {members inner : Members Data}
    (h : .ok inner ∈ slot.parts members) : sizeOf inner < sizeOf members := by
  cases slot with
  | one key kind =>
    have hlt := sizeOf_lt_of_lookup (ok_mem_parts_one.1 h).1
    simp only [Data.object.sizeOf_spec] at hlt
    omega
  | many key kind =>
    obtain ⟨items, hlookup, hitem⟩ := ok_mem_parts_many.1 h
    have hlt := sizeOf_lt_of_lookup hlookup
    have hitems := List.sizeOf_lt_of_mem hitem
    simp only [Data.object.sizeOf_spec, Data.list.sizeOf_spec] at hlt hitems
    omega

inductive Visit where
  | node (kind : Kind) (members : Members Data)
  | fault (fault : MessageFault)

def course (kind : Kind) (members : Members Data) : List Visit :=
  .node kind members ::
    (kind.slots.flatMap fun slot ↦ (slot.parts members).attach.flatMap fun
      | ⟨.ok inner, _⟩ => course slot.kind inner
      | ⟨.error fault, _⟩ => [.fault fault]) ++
    if overloads kind members then [.fault .twoArguments] else []
termination_by sizeOf members
decreasing_by exact sizeOf_lt_of_mem_parts ‹_›

def visitsOf (kind : Kind) : Part → List Visit
  | .ok members => course kind members
  | .error fault => [.fault fault]

def Slot.course (slot : Slot) (members : Members Data) : List Visit :=
  (slot.parts members).flatMap (visitsOf slot.kind)

theorem course_eq (kind : Kind) (members : Members Data) :
    course kind members = .node kind members :: (kind.slots.flatMap (·.course members)) ++
      if overloads kind members then [.fault .twoArguments] else [] := by
  rw [course]
  refine congrArg (· ++ _) (congrArg _ (congrArg (List.flatMap · _) (funext fun slot ↦ ?_)))
  have hvalue : (fun part : {part // part ∈ slot.parts members} ↦ visitsOf slot.kind part.1) = fun
      | ⟨.ok inner, _⟩ => Message.course slot.kind inner
      | ⟨.error fault, _⟩ => [.fault fault] := by
    funext part
    obtain ⟨part, h⟩ := part
    cases part <;> rfl
  rw [← hvalue, ← List.flatMap_map, List.attach_map_subtype_val]
  rfl

theorem mem_course_iff {kind : Kind} {members : Members Data} {visit : Visit} :
    visit ∈ course kind members ↔
      visit = .node kind members ∨
        (∃ slot ∈ kind.slots, ∃ part ∈ slot.parts members, visit ∈ visitsOf slot.kind part) ∨
          overloads kind members ∧ visit = .fault .twoArguments := by
  have hown : visit ∈ (if overloads kind members then [Visit.fault .twoArguments] else []) ↔
      overloads kind members ∧ visit = .fault .twoArguments := by
    split <;> simp [*]
  rw [course_eq, List.cons_append, List.mem_cons, List.mem_append, hown]
  simp only [Slot.course, List.mem_flatMap]

/-- What holds of all nodes of a course holds of the first one, and of all nodes in the courses of
its parts. -/
theorem forall_node_iff {P : Kind → Members Data → Prop} {kind : Kind} {members : Members Data} :
    (∀ k m, .node k m ∈ course kind members → P k m) ↔
      P kind members ∧ ∀ slot ∈ kind.slots, ∀ inner, .ok inner ∈ slot.parts members →
        ∀ k m, .node k m ∈ course slot.kind inner → P k m := by
  constructor
  · intro h
    refine ⟨h kind members (mem_course_iff.2 (.inl rfl)), ?_⟩
    intro slot hslot inner hinner k m hnode
    exact h k m (mem_course_iff.2 (.inr (.inl ⟨slot, hslot, _, hinner, hnode⟩)))
  · intro h k m hnode
    obtain ⟨hfirst, hparts⟩ := h
    rcases mem_course_iff.1 hnode with hnode | ⟨slot, hslot, part, hpart, hnode⟩ | ⟨-, hnode⟩
    · cases hnode
      exact hfirst
    · cases part with
      | error fault => cases List.mem_singleton.1 hnode
      | ok inner => exact hparts slot hslot inner hpart k m hnode
    · cases hnode

def Visit.fault? : Visit → Option MessageFault
  | .node .. => none
  | .fault found => some found

/-- All faults in a node and below it, in the order in which a reading comes to them. -/
def faults (kind : Kind) (members : Members Data) : List MessageFault :=
  (course kind members).filterMap Visit.fault?

def faultsOf (kind : Kind) : Part → List MessageFault
  | .ok members => faults kind members
  | .error fault => [fault]

def Slot.faults (slot : Slot) (members : Members Data) : List MessageFault :=
  (slot.parts members).flatMap (faultsOf slot.kind)

theorem filterMap_course (slot : Slot) (members : Members Data) :
    (slot.course members).filterMap Visit.fault? = slot.faults members := by
  rw [Slot.course, Slot.faults, List.filterMap_flatMap]
  congr 1
  funext part
  cases part <;> rfl

theorem faults_eq (kind : Kind) (members : Members Data) :
    faults kind members = kind.slots.foldr (fun slot below ↦ slot.faults members ++ below)
      (if overloads kind members then [.twoArguments] else []) := by
  have hown : (if overloads kind members then [Visit.fault .twoArguments] else []).filterMap
      Visit.fault? = if overloads kind members then [.twoArguments] else [] := by split <;> rfl
  rw [faults, course_eq, List.cons_append, List.filterMap_cons, Visit.fault?,
    List.filterMap_append, hown, List.filterMap_flatMap]
  simp only [filterMap_course]
  induction kind.slots with
  | nil => rfl
  | cons slot slots ih =>
    rw [List.flatMap_cons, List.append_assoc]
    exact congrArg (slot.faults members ++ ·) ih

end GherkinLint.Message
