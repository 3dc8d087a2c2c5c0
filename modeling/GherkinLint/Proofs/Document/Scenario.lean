import GherkinLint.Proofs.Document.Course

namespace GherkinLint.Message

def Visit.scenario? : Visit → Option (Members Data)
  | .node .scenario members => some members
  | .node .. | .fault _ => none

/-- The scenarios in a node and below it, in the order in which they stand. -/
def scenarios (kind : Kind) (members : Members Data) : List (Members Data) :=
  (course kind members).filterMap Visit.scenario?

def Slot.scenarios (slot : Slot) (members : Members Data) : List (Members Data) :=
  (slot.course members).filterMap Visit.scenario?

theorem scenarios_eq (kind : Kind) (members : Members Data) :
    scenarios kind members = (if kind = .scenario then [members] else []) ++
      kind.slots.flatMap (·.scenarios members) := by
  have hown : (if overloads kind members then [Visit.fault .twoArguments] else []).filterMap
      Visit.scenario? = [] := by split <;> rfl
  rw [scenarios, course_eq, List.cons_append, List.filterMap_cons, List.filterMap_append, hown,
    List.append_nil, List.filterMap_flatMap]
  cases kind <;> rfl

theorem Slot.scenarios_of_parts {slot : Slot} {members : Members Data}
    {inners : List (Members Data)} (h : slot.parts members = inners.map .ok) :
    slot.scenarios members = inners.flatMap (Message.scenarios slot.kind) := by
  rw [Slot.scenarios, Slot.course, h, List.flatMap_map, List.filterMap_flatMap]
  rfl

theorem Slot.scenarios_of_part {slot : Slot} {members inner : Members Data}
    (h : slot.parts members = [.ok inner]) :
    slot.scenarios members = Message.scenarios slot.kind inner := by
  rw [Slot.scenarios, Slot.course, h, List.flatMap_singleton]
  rfl

theorem Slot.scenarios_of_parts_eq_nil {slot : Slot} {members : Members Data}
    (h : slot.parts members = []) : slot.scenarios members = [] := by
  rw [Slot.scenarios, Slot.course, h]
  rfl

def Kind.IsLeaf (kind : Kind) : Prop :=
  kind ∉ [.document, .feature, .child, .group, .scenario]

instance (kind : Kind) : Decidable kind.IsLeaf := inferInstanceAs (Decidable (_ ∉ _))

theorem isLeaf_of_node {kind : Kind} (h : kind.IsLeaf) (members : Members Data) :
    ∀ k m, .node k m ∈ course kind members → k.IsLeaf := by
  have hslots : ∀ slot ∈ kind.slots, slot.kind.IsLeaf := by
    revert h
    cases kind <;> decide
  refine forall_node_iff.2 ⟨h, fun slot hslot inner hinner ↦ ?_⟩
  exact isLeaf_of_node (hslots slot hslot) inner
termination_by sizeOf members
decreasing_by exact sizeOf_lt_of_mem_parts hinner

theorem Slot.isLeaf_of_node {slot : Slot} (h : slot.kind.IsLeaf) {members : Members Data}
    {k : Kind} {m : Members Data} (hnode : .node k m ∈ slot.course members) : k.IsLeaf := by
  obtain ⟨part, -, hnode⟩ := List.mem_flatMap.1 hnode
  cases part with
  | error fault => cases List.mem_singleton.1 hnode
  | ok inner => exact Message.isLeaf_of_node h inner k m hnode

theorem Slot.scenarios_of_isLeaf {slot : Slot} (h : slot.kind.IsLeaf) (members : Members Data) :
    slot.scenarios members = [] := by
  refine List.filterMap_eq_nil_iff.2 fun visit hvisit ↦ ?_
  cases visit with
  | fault found => rfl
  | node k m =>
    cases k with
    | scenario => exact absurd (Slot.isLeaf_of_node h hvisit) (by decide)
    | _ => rfl

theorem scenarios_scenario (members : Members Data) : scenarios .scenario members = [members] := by
  have hslots : Kind.scenario.slots.flatMap (·.scenarios members) = [] := by
    rw [List.flatMap_eq_nil_iff]
    intro slot hslot
    refine Slot.scenarios_of_isLeaf ?_ members
    revert slot
    decide
  rw [scenarios_eq, hslots]
  rfl

theorem scenarios_child (members : Members Data) :
    scenarios .child members = (Slot.one "scenario" .scenario).scenarios members ++
      (Slot.one "rule" .group).scenarios members := by
  have hbackground : (Slot.one "background" .background).scenarios members = [] :=
    Slot.scenarios_of_isLeaf (by decide) members
  rw [scenarios_eq]
  simp [Kind.slots, hbackground]

/-- In a group and in a feature, scenarios stand among the children only. -/
theorem scenarios_of_children {kind : Kind} (h : kind = .group ∨ kind = .feature)
    (members : Members Data) :
    scenarios kind members = (Slot.many "children" .child).scenarios members := by
  have hlocation : (Slot.one "location" .location).scenarios members = [] :=
    Slot.scenarios_of_isLeaf (by decide) members
  rw [scenarios_eq]
  rcases h with rfl | rfl <;> simp [Kind.slots, hlocation]

theorem scenarios_document (members : Members Data) :
    scenarios .document members = (Slot.one "feature" .feature).scenarios members := by
  have hcomments : (Slot.many "comments" .comment).scenarios members = [] :=
    Slot.scenarios_of_isLeaf (by decide) members
  rw [scenarios_eq]
  simp [Kind.slots, hcomments]

def hasExamples (scenario : Members Data) : Bool :=
  match scenario.lookup "examples" with
  | some (.list items) => !items.isEmpty
  | _ => false

/-- The scenarios with examples, wherever they stand in the message. -/
def outlines (members : Members Data) : List (Members Data) :=
  (scenarios .document members).filter hasExamples

def alone (scenario : Members Data) : Data :=
  .object [("feature", .object [("children", .list [.object [("scenario", .object scenario)]])])]

/-- What the grammar of feature files asks of a node: a child is one of a scenario, a background and
a group, and a group holds no groups. -/
structure Regular (kind : Kind) (members : Members Data) : Prop where
  child : kind = .child → ["scenario", "background", "rule"].countP (isFilled · members) = 1
  group : kind = .group → ∀ inner, .ok inner ∈ (Slot.many "children" .child).parts members →
    isFilled "rule" inner = false

theorem regular_iff {kind : Kind} {members : Members Data} :
    Regular kind members ↔
      (kind = .child → ["scenario", "background", "rule"].countP (isFilled · members) = 1) ∧
        (kind = .group → ∀ part ∈ (Slot.many "children" .child).parts members,
          ∀ inner ∈ part.toOption, isFilled "rule" inner = false) := by
  constructor
  · refine fun h ↦ ⟨h.child, fun hkind part hpart inner hinner ↦ h.group hkind inner ?_⟩
    cases part with
    | error fault => cases hinner
    | ok _ =>
      cases hinner
      exact hpart
  · exact fun h ↦ ⟨h.1, fun hkind inner hinner ↦ h.2 hkind (.ok inner) hinner inner rfl⟩

instance (kind : Kind) (members : Members Data) : Decidable (Regular kind members) :=
  decidable_of_iff _ regular_iff.symm

/-- A child that has a group has nothing else. -/
theorem Regular.of_rule {members : Members Data} (h : Regular .child members)
    (hrule : isFilled "rule" members = true) :
    isFilled "scenario" members = false ∧ isFilled "background" members = false := by
  have hcount := h.child rfl
  simp only [List.countP_cons, List.countP_nil, hrule, if_true] at hcount
  cases hscenario : isFilled "scenario" members <;>
    cases hbackground : isFilled "background" members <;> simp_all

def Grammatical (members : Members Data) : Prop :=
  ∀ kind inner, .node kind inner ∈ course .document members → Regular kind inner

end GherkinLint.Message
