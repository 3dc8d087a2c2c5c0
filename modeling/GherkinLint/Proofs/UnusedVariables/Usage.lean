import GherkinLint.Proofs.Placeholder.Occurrence
import GherkinLint.Proofs.UnusedVariables.Report

namespace GherkinLint.UnusedVariables

def textsOfArgument : Argument → List String
  | .table table => (table.rows.flatMap (·.cells)).filterMap (·.value)
  | .docString docString => [docString.content]

def texts (scenario : Scenario) : List String :=
  scenario.name :: scenario.steps.flatMap fun step ↦
    step.text :: (step.argument.map textsOfArgument).getD []

def IsColumn (scenario : Scenario) (c : String) : Prop :=
  ∃ examples ∈ scenario.examples, ∃ header ∈ examples.header, ∃ cell ∈ header.cells,
    cell.value = some c

def Bracketed (c text : String) : Prop := ("<" ++ c ++ ">").toList <:+: text.toList

/-- The variable stands between brackets in the text, and every `<` before them and after the last
`>` before them is followed by a space. -/
def Used (c text : String) : Prop :=
  ∃ before after, text.toList = before ++ ("<" ++ c ++ ">").toList ++ after ∧
    Placeholder.Unopened before

theorem exists_placeholder_iff_used {c text : String} (hc : Placeholder.IsName c.toList)
    (hgt : '>' ∉ c.toList) : (∃ p ∈ placeholders text, p.name = c) ↔ Used c text := by
  have hbrackets : ("<" ++ c ++ ">").toList = '<' :: c.toList ++ ['>'] := by
    rw [String.toList_append, String.toList_append]
    rfl
  rw [Used, hbrackets]
  constructor
  · intro h
    obtain ⟨p, hp, rfl⟩ := h
    obtain ⟨before, name, after, htext, -, -, hopen, rfl⟩ := mem_placeholders_iff.1 hp
    exact ⟨before, after, by simpa using htext, hopen⟩
  · intro h
    obtain ⟨before, after, htext, hopen⟩ := h
    refine ⟨⟨c, before.length⟩, mem_placeholders_iff.2 ⟨before, c.toList, after, ?_, hgt, hc,
      hopen, ?_⟩, rfl⟩
    · simpa using htext
    · rw [String.ofList_toList]

theorem mem_headed_iff {scenario : Scenario} {c : String} (hc : c ≠ "") :
    c ∈ (headed scenario).map (·.1) ↔ IsColumn scenario c := by
  constructor
  · intro h
    obtain ⟨s, hs, rfl⟩ := List.mem_map.1 h
    obtain ⟨cell, hcell, rfl⟩ := List.mem_map.1 (List.mem_filter.1 hs).1
    obtain ⟨examples, hexamples, hcell⟩ := List.mem_flatMap.1 hcell
    cases hheader : examples.header with
    | none => simp [hheader] at hcell
    | some header =>
      cases hvalue : cell.value with
      | none => simp [hvalue] at hc
      | some value =>
        have hmem : cell ∈ header.cells := by simpa [hheader] using hcell
        exact ⟨examples, hexamples, header, hheader, cell, hmem, hvalue⟩
  · intro h
    obtain ⟨examples, hexamples, header, hheader, cell, hcell, hvalue⟩ := h
    have hmem : cell ∈ headerCells scenario := by
      refine List.mem_flatMap.2 ⟨examples, hexamples, ?_⟩
      rw [hheader]
      exact hcell
    refine List.mem_map.2 ⟨(c, cell.location), List.mem_filter.2 ⟨?_, decide_eq_true hc⟩, rfl⟩
    exact List.mem_map.2 ⟨cell, hmem, by rw [hvalue, Option.getD_some]⟩

theorem exists_ofCell_iff {P : String → Prop} (hempty : ¬P "") (cells : List TableCell) :
    (∃ passage ∈ cells.map Passage.ofCell, P passage.text) ↔
      ∃ text ∈ cells.filterMap (·.value), P text := by
  constructor
  · intro h
    obtain ⟨passage, hpassage, hP⟩ := h
    obtain ⟨cell, hcell, rfl⟩ := List.mem_map.1 hpassage
    cases hvalue : cell.value with
    | none => exact absurd (by simpa [Passage.ofCell, Passage.inLine, hvalue] using hP) hempty
    | some value =>
      refine ⟨value, List.mem_filterMap.2 ⟨cell, hcell, hvalue⟩, ?_⟩
      simpa [Passage.ofCell, Passage.inLine, hvalue] using hP
  · intro h
    obtain ⟨text, htext, hP⟩ := h
    obtain ⟨cell, hcell, hvalue⟩ := List.mem_filterMap.1 htext
    refine ⟨_, List.mem_map_of_mem hcell, ?_⟩
    simpa [Passage.ofCell, Passage.inLine, hvalue] using hP

theorem exists_ofArgument_iff {P : String → Prop} (hempty : ¬P "") (step : Step) :
    (∃ passage ∈ Passage.ofArgument step, P passage.text) ↔
      ∃ text ∈ (step.argument.map textsOfArgument).getD [], P text := by
  unfold Passage.ofArgument Step.dataTable Step.docString
  cases step.argument with
  | none => simp
  | some argument =>
    cases argument with
    | table table =>
      dsimp only
      rw [← List.map_flatMap]
      exact exists_ofCell_iff hempty _
    | docString docString => simp [textsOfArgument, Passage.ofDocString]

/-- The passages hold the texts of the outline; a cell without a value gives an empty one. -/
theorem exists_ofScenario_iff {P : String → Prop} (hempty : ¬P "") (scenario : Scenario) :
    (∃ passage ∈ Passage.ofScenario scenario, P passage.text) ↔
      ∃ text ∈ texts scenario, P text := by
  have hstep (step : Step) : (∃ passage ∈ Passage.ofStep step, P passage.text) ↔
      ∃ text ∈ step.text :: (step.argument.map textsOfArgument).getD [], P text := by
    rw [Passage.ofStep, List.exists_mem_cons_iff, List.exists_mem_cons_iff,
      exists_ofArgument_iff hempty]
    rfl
  rw [Passage.ofScenario, texts, List.exists_mem_cons_iff, List.exists_mem_cons_iff]
  refine or_congr Iff.rfl ⟨?_, ?_⟩
  · intro h
    obtain ⟨passage, hpassage, hP⟩ := h
    obtain ⟨step, hs, hpassage⟩ := List.mem_flatMap.1 hpassage
    obtain ⟨text, htext, hP⟩ := (hstep step).1 ⟨passage, hpassage, hP⟩
    exact ⟨text, List.mem_flatMap.2 ⟨step, hs, htext⟩, hP⟩
  · intro h
    obtain ⟨text, htext, hP⟩ := h
    obtain ⟨step, hs, htext⟩ := List.mem_flatMap.1 htext
    obtain ⟨passage, hpassage, hP⟩ := (hstep step).2 ⟨text, htext, hP⟩
    exact ⟨passage, List.mem_flatMap.2 ⟨step, hs, hpassage⟩, hP⟩

theorem mem_placed_iff {scenario : Scenario} {c : String} :
    c ∈ (placed scenario).map (·.1) ↔ ∃ t ∈ texts scenario, ∃ p ∈ placeholders t, p.name = c := by
  have hempty : ¬∃ p ∈ placeholders "", p.name = c := by
    intro h
    obtain ⟨p, hp, -⟩ := h
    cases hp
  rw [← exists_ofScenario_iff hempty, placed, List.map_flatMap, List.mem_flatMap]
  simp only [Passage.sightings, List.map_map, List.mem_map, Function.comp_apply]

section Column

variable {c : String} (hne : c ≠ "") (hgt : '>' ∉ c.toList) (hhead : c.toList.head? ≠ some ' ')
  (hlast : c.toList.getLast? ≠ some ' ')
include hne hgt hhead hlast

theorem exists_unused_iff_not_used (scenario : Scenario) :
    (∃ d ∈ checkScenario scenario, d.message = unusedMessage c) ↔
      IsColumn scenario c ∧ ∀ text ∈ texts scenario, ¬Used c text := by
  have hname : Placeholder.IsName c.toList := ⟨by simpa using hne, hhead, hlast⟩
  rw [exists_unused_iff, mem_headed_iff hne, mem_placed_iff]
  simp only [exists_placeholder_iff_used hname hgt, not_exists, not_and]

/-- A column of an outline is reported as unused exactly when none of the texts of the outline uses
it, and a document is reported to have an unused column exactly when one of its outlines has. -/
theorem unused_reported_iff :
    (∀ scenario, IsColumn scenario c →
      ((∃ d ∈ checkScenario scenario, d.message = unusedMessage c) ↔
        ∀ text ∈ texts scenario, ¬Used c text)) ∧
    ∀ document, (∃ d ∈ check document, d.message = unusedMessage c) ↔
      ∃ scenario ∈ outlines document, IsColumn scenario c ∧
        ∀ text ∈ texts scenario, ¬Used c text := by
  have hscenario := exists_unused_iff_not_used hne hgt hhead hlast
  refine ⟨fun scenario hcolumn ↦ ?_, fun document ↦ ?_⟩
  · rw [hscenario, and_iff_right hcolumn]
  · rw [check_eq_flatMap_outlines]
    constructor
    · intro h
      obtain ⟨d, hd, hm⟩ := h
      obtain ⟨scenario, hs, hd⟩ := List.mem_flatMap.1 hd
      exact ⟨scenario, hs, (hscenario scenario).1 ⟨d, hd, hm⟩⟩
    · intro h
      obtain ⟨scenario, hs, hunused⟩ := h
      obtain ⟨d, hd, hm⟩ := (hscenario scenario).2 hunused
      exact ⟨d, List.mem_flatMap.2 ⟨scenario, hs, hd⟩, hm⟩

end Column

/-- An outline whose title holds a `<` that opens a name before `<c>` can. -/
def comparison : Scenario where
  location := ⟨2, some 3⟩
  keyword := "Scenario Outline"
  name := "from 1 <2 and <c>"
  steps := [⟨⟨3, some 5⟩, "Given ", "g", none⟩]
  examples :=
    [⟨⟨4, some 5⟩, "Examples", "",
      some ⟨⟨5, some 7⟩, [⟨⟨5, some 9⟩, some "c"⟩]⟩, [⟨⟨6, some 7⟩, [⟨⟨6, some 9⟩, some "1"⟩]⟩]⟩]

theorem isColumn_comparison : IsColumn comparison "c" :=
  ⟨_, List.mem_singleton_self _, _, rfl, _, List.mem_singleton_self _, rfl⟩

theorem unused_reported_iff_comparison :
    ("c" ≠ "" ∧ '>' ∉ "c".toList ∧ "c".toList.head? ≠ some ' ' ∧
      "c".toList.getLast? ≠ some ' ' ∧ IsColumn comparison "c") ∧
    ((∃ d ∈ checkScenario comparison, d.message = unusedMessage "c") ↔
      ∀ text ∈ texts comparison, ¬Used "c" text) := by
  have hne : "c" ≠ "" := by decide +kernel
  have hgt : '>' ∉ "c".toList := by decide +kernel
  have hhead : "c".toList.head? ≠ some ' ' := by decide +kernel
  have hlast : "c".toList.getLast? ≠ some ' ' := by decide +kernel
  exact ⟨⟨hne, hgt, hhead, hlast, isColumn_comparison⟩,
    (unused_reported_iff hne hgt hhead hlast).1 comparison isColumn_comparison⟩

/-- Brackets alone do not make a use: an earlier `<` may have opened another name. -/
theorem unused_reported_of_bracketed :
    ¬∀ (scenario : Scenario) (c : String), IsColumn scenario c → c ≠ "" → '<' ∉ c.toList →
      '>' ∉ c.toList → c.toList.head? ≠ some ' ' → c.toList.getLast? ≠ some ' ' →
      ((∃ d ∈ checkScenario scenario, d.message = unusedMessage c) ↔
        ∀ text ∈ texts scenario, ¬Bracketed c text) := by
  intro h
  have hreported : ⟨unusedMessage "c", name, 5, 9⟩ ∈ checkScenario comparison := by
    decide +kernel
  have hbracketed : Bracketed "c" comparison.name := by
    unfold Bracketed
    decide +kernel
  have hiff := h comparison "c" isColumn_comparison (by decide +kernel) (by decide +kernel)
    (by decide +kernel) (by decide +kernel) (by decide +kernel)
  exact hiff.1 ⟨_, hreported, rfl⟩ comparison.name List.mem_cons_self hbracketed

end GherkinLint.UnusedVariables
