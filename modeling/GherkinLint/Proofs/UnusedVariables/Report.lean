import GherkinLint.Proofs.UnusedVariables.Sighting

namespace GherkinLint.UnusedVariables

/-- A text in which placeholders are looked for, with the location of its character at each
offset. -/
structure Passage where
  text : String
  location : Nat → Location

namespace Passage

def inLine (line column : Int) (text : String) : Passage :=
  ⟨text, fun k ↦ ⟨line, some (column + k)⟩⟩

def ofCell (cell : TableCell) : Passage :=
  inLine cell.location.line (cell.location.column.getD 0) (cell.value.getD "")

/-- All of a doc string counts as its first line, at column 0. -/
def ofDocString (docString : DocString) : Passage :=
  ⟨docString.content, fun _ ↦ ⟨docString.location.line, some 0⟩⟩

def ofArgument (step : Step) : List Passage :=
  match step.dataTable, step.docString with
  | some table, _ => table.rows.flatMap fun row ↦ row.cells.map ofCell
  | none, some docString => [ofDocString docString]
  | none, none => []

/-- The keyword of a step holds the space that separates it from the text. -/
def ofStep (step : Step) : List Passage :=
  inLine step.location.line (step.location.column.getD 0 + step.keyword.length) step.text ::
    ofArgument step

/-- The texts of a scenario in the order in which they are looked through. A colon and a space
separate the keyword from the name. -/
def ofScenario (scenario : Scenario) : List Passage :=
  inLine scenario.location.line
      (scenario.location.column.getD 0 + scenario.keyword.length + 2) scenario.name ::
    scenario.steps.flatMap ofStep

def sightings (passage : Passage) : List Sighting :=
  (placeholders passage.text).map fun p ↦ (p.name, passage.location p.offset)

end Passage

def placed (scenario : Scenario) : List Sighting :=
  (Passage.ofScenario scenario).flatMap Passage.sightings

def headerCells (scenario : Scenario) : List TableCell :=
  scenario.examples.flatMap fun examples ↦ (examples.header.map (·.cells)).getD []

def headed (scenario : Scenario) : List Sighting :=
  ((headerCells scenario).map fun cell ↦ (cell.value.getD "", cell.location)).filter (·.1 ≠ "")

/-- One diagnostic for each variable that is seen and not known: in the order of the first
sightings, each at the location of the last one. -/
def reportOf (message : String → String) (seen : List Sighting) (known : List String) :
    List Diagnostic :=
  ((seen.map (·.1)).eraseDups.filter (· ∉ known)).map fun v ↦
    ⟨message v, name, (lastSeen v seen).line, (lastSeen v seen).column.getD 0⟩

def reportOfScenario (scenario : Scenario) : List Diagnostic :=
  reportOf unusedMessage (headed scenario) ((placed scenario).map (·.1)) ++
    reportOf undeclaredMessage (placed scenario) ((headed scenario).map (·.1))

/-- The scenarios with examples, those of groups in the place of their group. -/
def outlines (document : Document) : List Scenario :=
  match document.feature with
  | some feature => (feature.spread.filterMap (·.scenario)).filter (·.examples ≠ [])
  | none => []

def report (document : Document) : List Diagnostic := (outlines document).flatMap reportOfScenario

theorem unusedMessage_injective : Function.Injective unusedMessage := fun _ _ h ↦
  (String.append_right_inj _).1 ((String.append_left_inj _).1 h)

theorem undeclaredMessage_injective : Function.Injective undeclaredMessage := fun _ _ h ↦
  (String.append_right_inj _).1 ((String.append_left_inj _).1 h)

theorem head?_toList_append {s : String} {c : Char} (h : s.toList.head? = some c) (t : String) :
    (s ++ t).toList.head? = some c := by
  rw [String.toList_append, List.head?_append, h, Option.some_or]

theorem undeclaredMessage_ne_unusedMessage (v w : String) :
    undeclaredMessage v ≠ unusedMessage w := by
  intro h
  have hs : (undeclaredMessage v).toList.head? = some 'S' :=
    head?_toList_append (head?_toList_append (by decide +kernel) v) _
  have he : (unusedMessage w).toList.head? = some 'E' :=
    head?_toList_append (head?_toList_append (by decide +kernel) w) _
  rw [h, he] at hs
  cases hs

theorem exists_of_mem_reportOf {message : String → String} {seen : List Sighting}
    {known : List String} {d : Diagnostic} (h : d ∈ reportOf message seen known) :
    ∃ s ∈ seen, d = ⟨message s.1, name, s.2.line, s.2.column.getD 0⟩ := by
  obtain ⟨v, hv, rfl⟩ := List.mem_map.1 h
  have hseen : v ∈ seen.map (·.1) := List.mem_eraseDups.1 (List.mem_filter.1 hv).1
  exact ⟨_, lastSeen_mem hseen, rfl⟩

theorem exists_message_mem_reportOf {message : String → String}
    (hm : Function.Injective message) {seen : List Sighting} {known : List String} {v : String} :
    (∃ d ∈ reportOf message seen known, d.message = message v) ↔
      v ∈ seen.map (·.1) ∧ v ∉ known := by
  constructor
  · intro h
    obtain ⟨d, hd, hv⟩ := h
    obtain ⟨w, hw, rfl⟩ := List.mem_map.1 hd
    obtain rfl := hm hv
    obtain ⟨hseen, hknown⟩ := List.mem_filter.1 hw
    exact ⟨List.mem_eraseDups.1 hseen, of_decide_eq_true hknown⟩
  · intro h
    obtain ⟨hseen, hknown⟩ := h
    refine ⟨_, List.mem_map_of_mem (List.mem_filter.2 ⟨List.mem_eraseDups.2 hseen, ?_⟩), rfl⟩
    exact decide_eq_true hknown

theorem cellText_eq (cell : TableCell) :
    cellText cell = if cell.value.getD "" = "" then none else some (cell.value.getD "") := by
  unfold cellText
  cases cell.value with
  | none => rfl
  | some value => by_cases h : value = "" <;> simp [Option.filter, h]

theorem usesInCell_eq (cell : TableCell) : usesInCell cell = (Passage.ofCell cell).sightings := by
  rw [usesInCell, cellText_eq]
  by_cases h : cell.value.getD "" = ""
  · simp [h, Passage.sightings, Passage.ofCell, Passage.inLine, placeholders, Placeholder.scan]
  · rw [if_neg h]
    rfl

theorem usesInArgument_eq (step : Step) :
    (step.argument.map usesInArgument).getD [] =
      (Passage.ofArgument step).flatMap Passage.sightings := by
  unfold Passage.ofArgument Step.dataTable Step.docString
  cases step.argument with
  | none => rfl
  | some argument =>
    cases argument with
    | table table =>
      simp [usesInArgument, List.flatMap_assoc, List.flatMap_map, ← usesInCell_eq]
    | docString docString => simp [usesInArgument, usesInDocString]; rfl

theorem uses_eq_placed (scenario : Scenario) : uses scenario = placed scenario := by
  have hstep (step : Step) : usesInStep step = (Passage.ofStep step).flatMap Passage.sightings := by
    rw [usesInStep, usesInArgument_eq, Passage.ofStep, List.flatMap_cons]
    rfl
  rw [uses, placed, Passage.ofScenario, List.flatMap_cons, List.flatMap_assoc,
    ← funext hstep]
  rfl

theorem declarations_eq_headed (scenario : Scenario) : declarations scenario = headed scenario := by
  have hcells (cells : List TableCell) :
      (cells.filterMap fun cell ↦ (cellText cell).map fun name ↦ (name, cell.location)) =
        (cells.map fun cell ↦ (cell.value.getD "", cell.location)).filter (·.1 ≠ "") := by
    simp only [cellText_eq]
    induction cells with
    | nil => rfl
    | cons cell cells ih =>
      by_cases h : cell.value.getD "" = "" <;> simpa [h] using ih
  rw [headed, headerCells, List.map_flatMap, List.filter_flatMap, declarations]
  congr 1
  funext examples
  cases examples.header with
  | none => rfl
  | some header => exact hcells header.cells

theorem checkScenario_eq (scenario : Scenario) :
    checkScenario scenario = reportOfScenario scenario := by
  simp only [checkScenario, missingFrom_latest, uses_eq_placed, declarations_eq_headed]
  rfl

theorem exists_unused_iff {scenario : Scenario} {v : String} :
    (∃ d ∈ checkScenario scenario, d.message = unusedMessage v) ↔
      v ∈ (headed scenario).map (·.1) ∧ v ∉ (placed scenario).map (·.1) := by
  rw [checkScenario_eq, reportOfScenario, ← exists_message_mem_reportOf unusedMessage_injective]
  constructor
  · intro h
    obtain ⟨d, hd, hm⟩ := h
    rcases List.mem_append.1 hd with hd | hd
    · exact ⟨d, hd, hm⟩
    · obtain ⟨s, -, rfl⟩ := exists_of_mem_reportOf hd
      exact absurd hm (undeclaredMessage_ne_unusedMessage s.1 v)
  · intro h
    obtain ⟨d, hd, hm⟩ := h
    exact ⟨d, List.mem_append_left _ hd, hm⟩

theorem checkChild_eq (child : Child) :
    checkChild child =
      ((child.scenario.toList).filter (·.examples ≠ [])).flatMap checkScenario := by
  unfold checkChild Scenario.isOutline
  cases child.scenario with
  | none => rfl
  | some scenario => cases h : scenario.examples <;> simp [h]

theorem check_eq_flatMap_outlines (document : Document) :
    check document = (outlines document).flatMap checkScenario := by
  unfold check outlines
  cases document.feature with
  | none => rfl
  | some feature =>
    dsimp only
    rw [List.filterMap_eq_flatMap_toList, List.filter_flatMap, List.flatMap_assoc,
      ← funext checkChild_eq]

theorem check_eq_report (document : Document) : check document = report document := by
  rw [check_eq_flatMap_outlines, report, ← funext checkScenario_eq]

end GherkinLint.UnusedVariables
