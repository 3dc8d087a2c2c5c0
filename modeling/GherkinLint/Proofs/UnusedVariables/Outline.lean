import GherkinLint.Proofs.Document.Grouping
import GherkinLint.Rule.UnusedVariables

namespace GherkinLint.UnusedVariables

open Message

/-- The diagnostics are those of the documents that have one of the scenarios each. -/
def Told (uri : String) (scenarios : List (Members Data)) (found : List Diagnostic) : Prop :=
  ∃ documents, List.Forall₂ (fun s document ↦ Document.ofMessage uri (alone s) = .ok document)
    scenarios documents ∧ found = documents.flatMap check

namespace Told

variable {uri : String}

theorem nil : Told uri [] [] := ⟨[], .nil, rfl⟩

theorem append {first second : List (Members Data)} {found more : List Diagnostic}
    (h : Told uri first found) (h' : Told uri second more) :
    Told uri (first ++ second) (found ++ more) := by
  obtain ⟨documents, hread, rfl⟩ := h
  obtain ⟨others, hothers, rfl⟩ := h'
  exact ⟨documents ++ others, List.rel_append hread hothers, List.flatMap_append.symm⟩

theorem flatMap {α β : Type} {f : α → List (Members Data)} {g : β → List Diagnostic} {as : List α}
    {bs : List β} (h : List.Forall₂ (fun a b ↦ Told uri (f a) (g b)) as bs) :
    Told uri (as.flatMap f) (bs.flatMap g) := by
  induction h with
  | nil => exact nil
  | cons hfirst _ ih => exact hfirst.append ih

theorem exists_of_append {first second : List (Members Data)} {found : List Diagnostic}
    (h : Told uri (first ++ second) found) :
    ∃ front back, Told uri first front ∧ Told uri second back ∧ found = front ++ back := by
  obtain ⟨documents, hread, rfl⟩ := h
  have hfront := (List.forall₂_take_append _ _ _ hread.flip).flip
  have hback := (List.forall₂_drop_append _ _ _ hread.flip).flip
  refine ⟨_, _, ⟨_, hfront, rfl⟩, ⟨_, hback, rfl⟩, ?_⟩
  rw [← List.flatMap_append, List.take_append_drop]

theorem unique {scenarios : List (Members Data)} {found other : List Diagnostic}
    (h : Told uri scenarios found) (h' : Told uri scenarios other) : found = other := by
  obtain ⟨documents, hread, rfl⟩ := h
  obtain ⟨others, hothers, rfl⟩ := h'
  have hunique :
      Relator.RightUnique fun s document ↦ Document.ofMessage uri (alone s) = .ok document :=
    fun _ _ _ h h' ↦ Except.ok.inj (h.symm.trans h')
  rw [List.right_unique_forall₂' hunique hread hothers]

end Told

variable {uri : String}

theorem hasExamples_eq {α : Type} {read : Members Data → Except MessageFault α} {s : Members Data}
    {found : List α} (h : list (item read) "examples" s = .ok found) :
    hasExamples s = !found.isEmpty := by
  unfold list at h
  unfold hasExamples
  cases hlookup : s.lookup "examples" with
  | none =>
    rw [hlookup] at h
    cases h
    rfl
  | some d =>
    rw [hlookup] at h
    dsimp only at h
    cases d with
    | list items =>
      obtain ⟨inners, rfl, hinners⟩ := exists_of_mapM h
      cases hinners <;> rfl
    | text t =>
      by_cases ht : t = ""
      · subst ht
        cases h
        rfl
      · rw [listOf, if_neg ht] at h
        cases h
    | object inner =>
      cases inner with
      | nil =>
        cases h
        rfl
      | cons => cases h
    | null | bool | int | fraction | moment => cases h

theorem ofMessage_alone {s : Members Data} {found : Scenario} (hne : s ≠ [])
    (h : scenario s = .ok found) :
    Document.ofMessage uri (alone s) =
      .ok ⟨uri, some ⟨.unknown, "", "", "en", [.mk (some found) none none]⟩, []⟩ := by
  have hscenario : part scenario "scenario" [("scenario", .object s)] = .ok (some found) := by
    rw [part_of_object rfl hne, h]
    rfl
  have hchild : childNode [("scenario", .object s)] = .ok (.mk (some found) none none) := by
    simp only [childNode, hscenario]
    rfl
  have hchildren : list (item childNode) "children"
      [("children", .list [.object [("scenario", .object s)]])] =
        .ok [.mk (some found) none none] := by
    change [Data.object [("scenario", .object s)]].mapM (item childNode) = _
    rw [List.mapM_cons, item, hchild]
    rfl
  have hfeature : feature [("children", .list [.object [("scenario", .object s)]])] =
      .ok ⟨.unknown, "", "", "en", [.mk (some found) none none]⟩ := by
    rw [feature_eq, hchildren]
    rfl
  rw [alone, Document.ofMessage, part_of_object rfl (List.cons_ne_nil _ _), hfeature]
  by_cases huri : uri = ""
  · subst huri
    rfl
  · simp only [if_neg huri]
    rfl

theorem told_scenario {s : Members Data} {found : Scenario} (hne : s ≠ [])
    (h : scenario s = .ok found) :
    Told uri ([s].filter hasExamples) (if found.isOutline then checkScenario found else []) := by
  have hexamples : hasExamples s = found.isOutline := by
    obtain ⟨_, -, h⟩ := exists_of_bind h
    obtain ⟨_, -, h⟩ := exists_of_bind h
    obtain ⟨examples, hexamples, h⟩ := exists_of_bind h
    cases h
    exact hasExamples_eq hexamples
  rw [List.filter_singleton, hexamples]
  cases hf : found.isOutline with
  | false => exact .nil
  | true =>
    refine ⟨_, .cons (ofMessage_alone hne h) .nil, ?_⟩
    simp [check, Feature.spread, Child.group, checkChild, Child.scenario, hf]

theorem group_eq_none {c : Members Data} {found : Child} (h : childNode c = .ok found)
    (hrule : isFilled "rule" c = false) : found.group = none := by
  obtain ⟨_, -, h⟩ := exists_of_bind h
  obtain ⟨_, -, h⟩ := exists_of_bind h
  obtain ⟨g, hg, h⟩ := exists_of_bind h
  cases h
  exact Option.isNone_iff_eq_none.1 (Option.isSome_eq_false_iff.1 ((isSome_of_part hg).trans hrule))

/-- A child without a group has one scenario or none. -/
theorem told_child {c : Members Data} {found : Child} (h : childNode c = .ok found)
    (hrule : isFilled "rule" c = false) :
    Told uri ((scenarios .child c).filter hasExamples) (checkChild found) := by
  obtain ⟨s, hs, h⟩ := exists_of_bind h
  obtain ⟨_, -, h⟩ := exists_of_bind h
  obtain ⟨_, -, h⟩ := exists_of_bind h
  cases h
  rw [scenarios_child, Slot.scenarios_of_parts_eq_nil (parts_eq_nil_iff.2 hrule), List.append_nil]
  cases s with
  | none =>
    rw [Slot.scenarios_of_parts_eq_nil (parts_eq_nil_of_part hs .scenario)]
    exact .nil
  | some found =>
    obtain ⟨inner, hparts, hne, hread⟩ := exists_of_part hs .scenario
    rw [Slot.scenarios_of_part hparts, Slot.kind, scenarios_scenario]
    exact told_scenario hne hread

theorem told_children {cs : List (Members Data)} {found : List Child}
    (h : List.Forall₂ (fun c a ↦ childNode c = .ok a) cs found)
    (hrule : ∀ c ∈ cs, isFilled "rule" c = false) :
    Told uri ((cs.flatMap (scenarios .child)).filter hasExamples) (found.flatMap checkChild) := by
  rw [List.filter_flatMap]
  have hboth := (List.forall₂_and_left _ _).2 ⟨hrule, h⟩
  exact Told.flatMap (hboth.imp fun _ _ hc ↦ told_child hc.2 hc.1)

/-- What a child stands for: the children of its group, or itself. -/
def spread (child : Child) : List Child :=
  match child.group with
  | some group => group.children
  | none => [child]

theorem spread_eq (feature : Feature) : feature.spread = feature.children.flatMap spread := rfl

theorem told_group {members : Members Data} {found : Group Child} (h : group members = .ok found)
    (hregular : Regular .group members) :
    Told uri ((scenarios .group members).filter hasExamples)
      (found.children.flatMap checkChild) := by
  obtain ⟨_, -, h⟩ := exists_of_bind h
  obtain ⟨children, hchildren, h⟩ := exists_of_bind h
  cases h
  rw [child_eq] at hchildren
  obtain ⟨cs, hcs, hread⟩ := exists_of_list hchildren .child
  rw [scenarios_of_children (.inl rfl), Slot.scenarios_of_parts hcs]
  refine told_children hread fun c hc ↦ hregular.group rfl c ?_
  rw [hcs]
  exact List.mem_map_of_mem hc

theorem told_spread {c : Members Data} {found : Child} (h : childNode c = .ok found)
    (hregular : ∀ kind m, .node kind m ∈ course .child c → Regular kind m) :
    Told uri ((scenarios .child c).filter hasExamples) ((spread found).flatMap checkChild) := by
  by_cases hrule : isFilled "rule" c = false
  · rw [spread, group_eq_none h hrule, List.flatMap_singleton]
    exact told_child h hrule
  obtain ⟨s, -, h⟩ := exists_of_bind h
  obtain ⟨b, -, h⟩ := exists_of_bind h
  obtain ⟨g, hg, h⟩ := exists_of_bind h
  cases h
  rw [Bool.not_eq_false] at hrule
  obtain ⟨hone, hbelow⟩ := forall_node_iff.1 hregular
  have hscenario : (Slot.one "scenario" .scenario).parts c = [] :=
    parts_eq_nil_iff.2 (hone.of_rule hrule).1
  obtain ⟨g, rfl⟩ := Option.isSome_iff_exists.1 ((isSome_of_part hg).trans hrule)
  obtain ⟨inner, hparts, -, hread⟩ := exists_of_part hg .group
  have hmem : .ok inner ∈ (Slot.one "rule" .group).parts c := by
    rw [hparts]
    exact List.mem_cons_self
  rw [scenarios_child, Slot.scenarios_of_parts_eq_nil hscenario, Slot.scenarios_of_part hparts]
  refine told_group hread ?_
  exact (forall_node_iff.1 (hbelow (.one "rule" .group) (by decide) inner hmem)).1

theorem told_feature {members : Members Data} {found : Feature} (h : feature members = .ok found)
    (hregular : ∀ kind m, .node kind m ∈ course .feature members → Regular kind m) :
    Told uri ((scenarios .feature members).filter hasExamples)
      (found.spread.flatMap checkChild) := by
  rw [feature_eq] at h
  obtain ⟨_, -, h⟩ := exists_of_bind h
  obtain ⟨children, hchildren, h⟩ := exists_of_bind h
  cases h
  obtain ⟨cs, hcs, hread⟩ := exists_of_list hchildren .child
  have hchild : ∀ c ∈ cs, ∀ kind m, .node kind m ∈ course .child c → Regular kind m := by
    intro c hc
    refine (forall_node_iff.1 hregular).2 (.many "children" .child) (by decide) c ?_
    rw [hcs]
    exact List.mem_map_of_mem hc
  rw [scenarios_of_children (.inr rfl), Slot.scenarios_of_parts hcs, List.filter_flatMap, spread_eq,
    List.flatMap_assoc]
  have hboth := (List.forall₂_and_left _ _).2 ⟨hchild, hread⟩
  exact Told.flatMap (hboth.imp fun _ _ hc ↦ told_spread hc.2 hc.1)

/-- The diagnostics of a document are those of its outlines, each taken alone. -/
theorem told_document {members : Members Data} {document : Document}
    (h : Document.ofMessage uri (.object members) = .ok document) (hg : Grammatical members) :
    Told uri (outlines members) (check document) := by
  obtain ⟨f, hf, h⟩ := exists_of_bind h
  obtain ⟨comments, -, h⟩ := exists_of_bind h
  cases h
  rw [outlines, scenarios_document]
  cases f with
  | none =>
    rw [Slot.scenarios_of_parts_eq_nil (parts_eq_nil_of_part hf .feature)]
    exact .nil
  | some f =>
    obtain ⟨inner, hparts, -, hread⟩ := exists_of_part hf .feature
    have hmem : .ok inner ∈ (Slot.one "feature" .feature).parts members := by
      rw [hparts]
      exact List.mem_cons_self
    rw [Slot.scenarios_of_part hparts]
    exact told_feature hread ((forall_node_iff.1 hg).2 _ List.mem_cons_self inner hmem)

theorem check_replaced {members feature : Members Data} {document : Document}
    {others children : List Data} (h : Document.ofMessage uri (.object members) = .ok document)
    (hg : Grammatical members) (hfeature : members.lookup "feature" = some (.object feature))
    (hchildren : feature.lookup "children" = some (.list children))
    (hreplaces : Replaces others children) :
    ∃ other, Document.ofMessage uri (.object (withChildren members feature others)) = .ok other ∧
      check other = check document := by
  obtain ⟨hsound, hscenarios⟩ :=
    hreplaces.withChildren hfeature hchildren ((sound_iff uri).2 ⟨⟨document, h⟩, hg⟩)
  obtain ⟨⟨other, hread⟩, hother⟩ := (sound_iff uri).1 hsound
  refine ⟨other, hread, ?_⟩
  have htold := told_document hread hother
  rw [outlines, hscenarios] at htold
  exact htold.unique (told_document h hg)

/-- An outline in the place of another changes what is reported of that outline only. -/
theorem told_exchanged {before after : List (Members Data)} {s s' : Members Data}
    {found other : List Diagnostic} (h : Told uri (before ++ s :: after) found)
    (h' : Told uri (before ++ s' :: after) other) :
    ∃ front own own' back, Told uri [s] own ∧ Told uri [s'] own' ∧
      found = front ++ own ++ back ∧ other = front ++ own' ++ back := by
  obtain ⟨front, rest, hfront, hrest, rfl⟩ := h.exists_of_append
  obtain ⟨front', rest', hfront', hrest', rfl⟩ := h'.exists_of_append
  rw [← List.singleton_append] at hrest hrest'
  obtain ⟨own, back, hown, hback, rfl⟩ := hrest.exists_of_append
  obtain ⟨own', back', hown', hback', rfl⟩ := hrest'.exists_of_append
  obtain rfl := hfront.unique hfront'
  obtain rfl := hback.unique hback'
  exact ⟨front, own, own', back, hown, hown', (List.append_assoc ..).symm,
    (List.append_assoc ..).symm⟩

/-- What is reported of a document is what is reported of each of its outlines alone, in the order
of the document. An outline has no part in what is reported of another, and nothing changes when
children of the feature come into a group, or out of one. -/
theorem check_outlines_apart {members : Members Data} {document : Document}
    (h : Document.ofMessage uri (.object members) = .ok document) (hg : Grammatical members) :
    (∃ documents, List.Forall₂ (fun s d ↦ Document.ofMessage uri (alone s) = .ok d)
        (outlines members) documents ∧
      check document = documents.flatMap check) ∧
    (∀ before s after, outlines members = before ++ s :: after →
      ∀ others other s', Document.ofMessage uri (.object others) = .ok other →
        Grammatical others → outlines others = before ++ s' :: after →
        ∃ front own own' back, Told uri [s] own ∧ Told uri [s'] own' ∧
          check document = front ++ own ++ back ∧ check other = front ++ own' ++ back) ∧
    ∀ feature before inside after, members.lookup "feature" = some (.object feature) →
      (∀ heading, feature.lookup "children" = some (.list (before ++ inside ++ after)) →
        (∀ c, .object c ∈ inside → isFilled "rule" c = false) →
        (∀ d, heading.lookup "location" = some d → (Slot.one "location" .location).Admits d) →
        ∃ other, Document.ofMessage uri (.object (withChildren members feature
            (before ++ [grouped heading inside] ++ after))) = .ok other ∧
          check other = check document) ∧
      ∀ child, feature.lookup "children" = some (.list (before ++ [child] ++ after)) →
        IsGroupOf child inside →
        ∃ other, Document.ofMessage uri (.object (withChildren members feature
            (before ++ inside ++ after))) = .ok other ∧
          check other = check document := by
  refine ⟨told_document h hg, ?exchanged,
    fun feature before inside after hfeature ↦ ⟨?wrapped, ?dissolved⟩⟩
  case exchanged =>
    intro before s after houtlines others other s' hother hgother houtlines'
    have htold := told_document h hg
    have htold' := told_document hother hgother
    rw [houtlines] at htold
    rw [houtlines'] at htold'
    exact told_exchanged htold htold'
  case wrapped =>
    intro heading hchildren hinside hheading
    exact check_replaced h hg hfeature hchildren
      ((replaces_grouped hinside hheading).within before after)
  case dissolved =>
    intro child hchildren hgroup
    exact check_replaced h hg hfeature hchildren (hgroup.replaces.within before after)

/-- A child with an outline whose only variable has the name. -/
def declaring (name : String) : Data :=
  .object [("scenario", .object [("examples", .list [.object [("tableHeader", .object [("cells",
    .list [.object [("value", .text name)]])])]])])]

def mixed : List Data :=
  [.object [("background", .object [("name", .text "data")])],
    .object [("rule", .object [("children", .list [declaring "a"])])], declaring "b"]

theorem check_outlines_apart_mixed :
    Grammatical [("feature", .object [("children", .list mixed)])] ∧
    ∃ document other,
      Document.ofMessage "" (.object [("feature", .object [("children", .list mixed)])]) =
        .ok document ∧
      Document.ofMessage "" (.object [("feature", .object [("children", .list
        [.object [("background", .object [("name", .text "data")])], declaring "a",
          declaring "b"])])]) = .ok other ∧
      check other = check document ∧ (check document).length = 2 := by
  have hread : Document.ofMessage "" (.object [("feature", .object [("children", .list mixed)])]) =
    .ok _ := rfl
  have hsound : ∀ visit ∈ course .document [("feature", .object [("children", .list mixed)])],
      visit.IsSound := by decide +kernel
  have hg := ((sound_iff "").1 hsound).2
  obtain ⟨-, -, hregroup⟩ := check_outlines_apart hread hg
  obtain ⟨other, hother, hcheck⟩ := (hregroup [("children", .list mixed)]
    [.object [("background", .object [("name", .text "data")])]] [declaring "a"] [declaring "b"]
    rfl).2 _ rfl ⟨_, _, rfl, rfl, List.cons_ne_nil _ _, rfl⟩
  exact ⟨hg, _, other, hread, hother, hcheck, by decide +kernel⟩

end GherkinLint.UnusedVariables
