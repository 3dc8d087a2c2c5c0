import GherkinLint.Proofs.Document.Result
import GherkinLint.Proofs.Document.Scenario
import GherkinLint.Proofs.Document.WellFormed
import GherkinLint.Proofs.Members

namespace GherkinLint

namespace Message

def withChildren (members feature : Members Data) (children : List Data) : Members Data :=
  members.put "feature" (.object (feature.put "children" (.list children)))

def grouped (heading : Members Data) (children : List Data) : Data :=
  .object [("rule", .object (("children", .list children) :: heading))]

def IsGroupOf (child : Data) (inside : List Data) : Prop :=
  ∃ c g, child = .object c ∧ c.lookup "rule" = some (.object g) ∧ g ≠ [] ∧
    (Slot.many "children" .child).parts g = inside.map partOf

def Visit.IsSound : Visit → Prop
  | .node kind members => Regular kind members
  | .fault _ => False

instance : (visit : Visit) → Decidable visit.IsSound
  | .node kind members => inferInstanceAs (Decidable (Regular kind members))
  | .fault _ => inferInstanceAs (Decidable False)

/-- A message is read and has the form that the grammar asks for when its whole course is sound. -/
theorem sound_iff (uri : String) {members : Members Data} :
    (∀ visit ∈ course .document members, visit.IsSound) ↔
      (∃ document, Document.ofMessage uri (.object members) = .ok document) ∧
        Grammatical members := by
  have hfaults : faults .document members = [] ↔
      ∀ found, .fault found ∉ course .document members := by
    rw [faults, List.filterMap_eq_nil_iff]
    constructor
    · intro h found hfound
      cases h _ hfound
    · intro h visit hvisit
      cases visit with
      | node => rfl
      | fault found => exact absurd hvisit (h found)
  rw [(stops_ofMessage uri (.object members)).exists_ok_iff, partOf, faultsOf, hfaults]
  constructor
  · intro h
    exact ⟨fun found hfound ↦ h _ hfound, fun kind inner hnode ↦ h _ hnode⟩
  · intro h visit hvisit
    obtain ⟨hfault, hnode⟩ := h
    cases visit with
    | node kind inner => exact hnode kind inner hvisit
    | fault found => exact hfault found hvisit

/-- The courses of all children. -/
def walk (children : List Data) : List Visit := children.flatMap fun d ↦ visitsOf .child (partOf d)

theorem course_children {members : Members Data} {children : List Data}
    (h : (Slot.many "children" .child).parts members = children.map partOf) :
    (Slot.many "children" .child).course members = walk children := by
  rw [Slot.course, h, List.flatMap_map]
  rfl

theorem course_congr {slot : Slot} {members other : Members Data}
    (h : members.lookup slot.key = other.lookup slot.key) :
    slot.course members = slot.course other := by
  rw [Slot.course, Slot.course, Slot.parts, Slot.parts, h]

theorem course_of_children {kind : Kind} (h : kind = .feature ∨ kind = .group)
    {members : Members Data} {children : List Data}
    (hchildren : (Slot.many "children" .child).parts members = children.map partOf) :
    course kind members = .node kind members ::
      ((Slot.one "location" .location).course members ++ walk children) := by
  rw [course_eq, ← course_children hchildren]
  rcases h with rfl | rfl <;> simp [Kind.slots, overloads]

theorem course_one {key : String} {kind : Kind} {members inner : Members Data}
    (h : members.lookup key = some (.object inner)) (hne : inner ≠ []) :
    (Slot.one key kind).course members = course kind inner := by
  have hfilled : (Data.object inner).isEmpty = false := by simpa [Data.isEmpty] using hne
  have hparts : (Slot.one key kind).parts members = [.ok inner] := by
    unfold Slot.parts Slot.key
    rw [h]
    dsimp only [Slot.partsAt]
    rw [hfilled]
    rfl
  rw [Slot.course, hparts, List.flatMap_singleton]
  rfl

theorem course_of_feature {members feature : Members Data} {children : List Data}
    (hfeature : members.lookup "feature" = some (.object feature))
    (hchildren : feature.lookup "children" = some (.list children)) :
    course .document members = .node .document members :: .node .feature feature ::
      ((Slot.one "location" .location).course feature ++ walk children ++
        (Slot.many "comments" .comment).course members) := by
  have hne : feature ≠ [] := by
    rintro rfl
    cases hchildren
  have hparts : (Slot.many "children" .child).parts feature = children.map partOf := by
    unfold Slot.parts Slot.key
    rw [hchildren]
    rfl
  rw [course_eq]
  simp only [Kind.slots, List.flatMap_cons, List.flatMap_nil, course_one hfeature hne,
    course_of_children (.inl rfl) hparts]
  simp [overloads]

theorem course_of_group {c g : Members Data} {inside : List Data}
    (hscenario : isFilled "scenario" c = false) (hbackground : isFilled "background" c = false)
    (hgroup : c.lookup "rule" = some (.object g)) (hne : g ≠ [])
    (hinside : (Slot.many "children" .child).parts g = inside.map partOf) :
    course .child c = .node .child c :: .node .group g ::
      ((Slot.one "location" .location).course g ++ walk inside) := by
  have hempty {key : String} (kind : Kind) (h : isFilled key c = false) :
      (Slot.one key kind).course c = [] := by
    rw [Slot.course, parts_eq_nil_iff.2 h]
    rfl
  rw [course_eq]
  simp only [Kind.slots, List.flatMap_cons, List.flatMap_nil, hempty .scenario hscenario,
    hempty .background hbackground, course_one hgroup hne, course_of_children (.inr rfl) hinside]
  simp [overloads]

/-- Children that can stand where the others do, and hold the same scenarios. -/
def Replaces (others children : List Data) : Prop :=
  (∀ visit ∈ walk children, visit.IsSound) →
    (∀ visit ∈ walk others, visit.IsSound) ∧
      (walk others).filterMap Visit.scenario? = (walk children).filterMap Visit.scenario?

theorem Replaces.within {others children : List Data} (h : Replaces others children)
    (before after : List Data) :
    Replaces (before ++ others ++ after) (before ++ children ++ after) := by
  intro hsound
  simp only [walk, List.flatMap_append, List.forall_mem_append, List.filterMap_append] at hsound ⊢
  obtain ⟨⟨hbefore, hchildren⟩, hafter⟩ := hsound
  obtain ⟨hothers, hscenarios⟩ := h hchildren
  refine ⟨⟨⟨hbefore, hothers⟩, hafter⟩, ?_⟩
  exact congrArg (_ ++ · ++ _) hscenarios

/-- What surrounds the children keeps its course when others take their place. -/
theorem Replaces.withChildren {others children : List Data} (h : Replaces others children)
    {members feature : Members Data} (hfeature : members.lookup "feature" = some (.object feature))
    (hchildren : feature.lookup "children" = some (.list children))
    (hsound : ∀ visit ∈ course .document members, visit.IsSound) :
    (∀ visit ∈ course .document (withChildren members feature others), visit.IsSound) ∧
      scenarios .document (withChildren members feature others) = scenarios .document members := by
  have hfeature' : (Message.withChildren members feature others).lookup "feature" =
      some (.object (feature.put "children" (.list others))) := by
    rw [Message.withChildren, Members.lookup_put, if_pos rfl]
  have hchildren' : (feature.put "children" (.list others)).lookup "children" =
      some (.list others) := by
    rw [Members.lookup_put, if_pos rfl]
  have hlocation : (Slot.one "location" .location).course (feature.put "children" (.list others)) =
      (Slot.one "location" .location).course feature := by
    refine course_congr ?_
    rw [Members.lookup_put, if_neg (by decide)]
  have hcomments : (Slot.many "comments" .comment).course
      (Message.withChildren members feature others) =
        (Slot.many "comments" .comment).course members := by
    refine course_congr ?_
    rw [Message.withChildren, Members.lookup_put, if_neg (by decide)]
  rw [scenarios, scenarios, course_of_feature hfeature' hchildren', hlocation, hcomments]
  rw [course_of_feature hfeature hchildren] at hsound ⊢
  simp only [List.forall_mem_cons, List.forall_mem_append, List.filterMap_cons, Visit.scenario?,
    List.filterMap_append] at hsound ⊢
  obtain ⟨-, -, ⟨hplace, hwalk⟩, hrest⟩ := hsound
  obtain ⟨hothers, hscenarios⟩ := h hwalk
  have hregular {kind : Kind} (hkind : kind = .document ∨ kind = .feature) (m : Members Data) :
      Regular kind m := by
    constructor <;> rintro rfl <;> simp at hkind
  refine ⟨⟨hregular (.inl rfl) _, hregular (.inr rfl) _, ⟨hplace, hothers⟩, hrest⟩, ?_⟩
  rw [hscenarios]

/-- A group adds the child that has it, itself and its place, and no scenario. -/
theorem filterMap_walk_group {c g : Members Data} {inside : List Data}
    (hcourse : course .child c = .node .child c :: .node .group g ::
      ((Slot.one "location" .location).course g ++ walk inside)) :
    (walk [.object c]).filterMap Visit.scenario? = (walk inside).filterMap Visit.scenario? := by
  have hplace : ((Slot.one "location" .location).course g).filterMap Visit.scenario? = [] :=
    Slot.scenarios_of_isLeaf (by decide) g
  rw [walk, List.flatMap_singleton, partOf, visitsOf, hcourse]
  simp only [List.filterMap_cons, Visit.scenario?, List.filterMap_append, hplace, List.nil_append]

theorem isSound_of_location {g : Members Data}
    (h : ∀ d, g.lookup "location" = some d → (Slot.one "location" .location).Admits d) :
    ∀ visit ∈ (Slot.one "location" .location).course g, visit.IsSound := by
  intro visit hvisit
  obtain ⟨part, hpart, hvisit⟩ := List.mem_flatMap.1 hvisit
  cases part with
  | error fault => exact absurd hpart ((forall_admits_iff (.one _ _)).1 h fault)
  | ok place =>
    rw [Slot.kind, visitsOf, course_eq] at hvisit
    cases List.mem_singleton.1 hvisit
    constructor <;> rintro ⟨⟩

/-- A group of children that have no groups can take their place. -/
theorem replaces_grouped {heading : Members Data} {inside : List Data}
    (hinside : ∀ c, .object c ∈ inside → isFilled "rule" c = false)
    (hheading : ∀ d, heading.lookup "location" = some d →
      (Slot.one "location" .location).Admits d) :
    Replaces [grouped heading inside] inside := by
  intro hsound
  have hcourse : course .child [("rule", .object (("children", .list inside) :: heading))] =
      _ :: _ :: (_ ++ walk inside) :=
    course_of_group rfl rfl rfl (List.cons_ne_nil _ _) rfl
  refine ⟨?_, filterMap_walk_group hcourse⟩
  rw [walk, List.flatMap_singleton, grouped, partOf, visitsOf, hcourse]
  simp only [List.forall_mem_cons, List.forall_mem_append]
  refine ⟨?child, ?group, isSound_of_location hheading, hsound⟩
  case child => exact ⟨fun _ ↦ rfl, by rintro ⟨⟩⟩
  case group =>
    refine ⟨by rintro ⟨⟩, fun _ c hc ↦ ?_⟩
    obtain ⟨items, hitems, hmem⟩ := ok_mem_parts_many.1 hc
    cases hitems
    exact hinside c hmem

/-- The children of a group can take its place. -/
theorem IsGroupOf.replaces {child : Data} {inside : List Data} (h : IsGroupOf child inside) :
    Replaces inside [child] := by
  intro hsound
  obtain ⟨c, g, rfl, hgroup, hne, hinside⟩ := h
  rw [walk, List.flatMap_singleton, partOf, visitsOf] at hsound
  have hrule : isFilled "rule" c = true := by
    rw [isFilled, hgroup]
    simpa [Data.isEmpty] using hne
  have hone : Regular .child c := hsound (.node .child c) (mem_course_iff.2 (.inl rfl))
  obtain ⟨hscenario, hbackground⟩ := hone.of_rule hrule
  have hcourse := course_of_group hscenario hbackground hgroup hne hinside
  refine ⟨fun visit hvisit ↦ hsound visit ?_, (filterMap_walk_group hcourse).symm⟩
  rw [hcourse]
  simp [hvisit]

end Message

end GherkinLint
