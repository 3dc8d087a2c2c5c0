import GherkinLint.Proofs.Placeholder.Occurrence
import GherkinLint.Proofs.UnusedVariables.Report

namespace GherkinLint.UnusedVariables

/-- The line reads `text` from `column` on, where columns count from 1. -/
def Reads (line : String) (column : Int) (text : String) : Prop :=
  1 ≤ column ∧ text.toList <+: line.toList.drop (column - 1).toNat

def StandsAt (lines : Int → String) (location : Location) (text : String) : Prop :=
  ∃ column, location.column = some column ∧ Reads (lines location.line) column text

/-- The locations of a scenario and of its parts are those of a file with these lines. Nothing is
asked of doc strings, and of cells without a value. -/
structure FaithfulScenario (lines : Int → String) (scenario : Scenario) : Prop where
  title : StandsAt lines scenario.location (scenario.keyword ++ ": " ++ scenario.name)
  step : ∀ step ∈ scenario.steps, StandsAt lines step.location (step.keyword ++ step.text)
  cell : ∀ step ∈ scenario.steps, ∀ table ∈ step.dataTable, ∀ row ∈ table.rows, ∀ cell ∈ row.cells,
    ∀ value ∈ cell.value, value ≠ "" → StandsAt lines cell.location value
  header : ∀ examples ∈ scenario.examples, ∀ header ∈ examples.header, ∀ cell ∈ header.cells,
    ∀ value ∈ cell.value, value ≠ "" → StandsAt lines cell.location value

/-- What is not checked may stand anywhere. -/
def Faithful (lines : Int → String) (document : Document) : Prop :=
  ∀ scenario ∈ outlines document, FaithfulScenario lines scenario

def InDocString (document : Document) (line : Int) (v : String) : Prop :=
  ∃ scenario ∈ outlines document, ∃ step ∈ scenario.steps, ∃ docString ∈ step.docString,
    docString.location.line = line ∧ ∃ p ∈ placeholders docString.content, p.name = v

theorem Reads.part {line text part : String} {column : Int} (h : Reads line column text)
    {before after : List Char} (htext : text.toList = before ++ part.toList ++ after) :
    Reads line (column + before.length) part := by
  obtain ⟨hcolumn, rest, hrest⟩ := h
  have hskip : (column + before.length - 1).toNat = (column - 1).toNat + before.length := by omega
  refine ⟨by omega, after ++ rest, ?_⟩
  rw [hskip, ← List.drop_drop, ← hrest, htext]
  simp

theorem StandsAt.part {lines : Int → String} {location : Location} {text part : String}
    (h : StandsAt lines location text) {before after : List Char}
    (htext : text.toList = before ++ part.toList ++ after) :
    Reads (lines location.line) (location.column.getD 0 + before.length) part := by
  obtain ⟨column, hcolumn, hreads⟩ := h
  rw [hcolumn]
  exact hreads.part htext

def Passage.Legible (lines : Int → String) (passage : Passage) : Prop :=
  ∀ s ∈ passage.sightings, Reads (lines s.2.line) (s.2.column.getD 0) ("<" ++ s.1 ++ ">")

/-- A text of a line, behind a keyword that stands at a known location. -/
theorem legible_inLine {lines : Int → String} {location : Location} {lead text : String}
    (h : StandsAt lines location (lead ++ text)) {column : Int}
    (hcolumn : column = location.column.getD 0 + lead.length) :
    (Passage.inLine location.line column text).Legible lines := by
  intro s hs
  obtain ⟨p, hp, rfl⟩ := List.mem_map.1 hs
  obtain ⟨before, after, htext, hoffset⟩ := exists_of_mem_placeholders hp
  change text.toList = _ at htext
  have hpart : (lead ++ text).toList =
      (lead.toList ++ before) ++ ("<" ++ p.name ++ ">").toList ++ after := by
    rw [String.toList_append, htext]
    simp only [List.append_assoc]
  have hread := h.part hpart
  rw [List.length_append, String.length_toList, Int.natCast_add, ← Int.add_assoc, ← hcolumn,
    ← hoffset] at hread
  exact hread

theorem legible_of_text_empty {lines : Int → String} {passage : Passage} (h : passage.text = "") :
    passage.Legible lines := by
  intro s hs
  rw [Passage.sightings, h] at hs
  cases hs

theorem legible_ofCell {lines : Int → String} {cell : TableCell}
    (h : ∀ value ∈ cell.value, value ≠ "" → StandsAt lines cell.location value) :
    (Passage.ofCell cell).Legible lines := by
  by_cases hvalue : cell.value.getD "" = ""
  · exact legible_of_text_empty hvalue
  · have hlead : StandsAt lines cell.location ("" ++ cell.value.getD "") := by
      cases hc : cell.value with
      | none => simp [hc] at hvalue
      | some value =>
        rw [hc, Option.getD_some] at hvalue
        simpa using h value hc hvalue
    exact legible_inLine hlead (by simp)

/-- What holds of the name, of the texts and cells of all steps and of their doc strings holds of
every passage of a scenario. -/
theorem Passage.forall_mem_ofScenario {P : Passage → Prop} {scenario : Scenario}
    (title : P (inLine scenario.location.line
      (scenario.location.column.getD 0 + scenario.keyword.length + 2) scenario.name))
    (step : ∀ step ∈ scenario.steps, P (inLine step.location.line
      (step.location.column.getD 0 + step.keyword.length) step.text))
    (cell : ∀ step ∈ scenario.steps, ∀ table ∈ step.dataTable, ∀ row ∈ table.rows,
      ∀ cell ∈ row.cells, P (ofCell cell))
    (docString : ∀ step ∈ scenario.steps, ∀ docString ∈ step.docString,
      P (ofDocString docString)) :
    ∀ passage ∈ ofScenario scenario, P passage := by
  intro passage hp
  rcases List.mem_cons.1 hp with rfl | hp
  · exact title
  obtain ⟨s, hs, hp⟩ := List.mem_flatMap.1 hp
  rcases List.mem_cons.1 hp with rfl | hp
  · exact step s hs
  unfold ofArgument at hp
  split at hp
  next table htable =>
    obtain ⟨row, hrow, hp⟩ := List.mem_flatMap.1 hp
    obtain ⟨c, hc, rfl⟩ := List.mem_map.1 hp
    exact cell s hs table htable row hrow c hc
  next d _ hd =>
    obtain rfl := List.mem_singleton.1 hp
    exact docString s hs d hd
  next => cases hp

/-- Every text of an outline is legible, or is a doc string. -/
theorem legible_or_docString {lines : Int → String} {scenario : Scenario}
    (h : FaithfulScenario lines scenario) :
    ∀ passage ∈ Passage.ofScenario scenario,
      passage.Legible lines ∨ ∃ step ∈ scenario.steps, ∃ docString ∈ step.docString,
        passage = Passage.ofDocString docString := by
  refine Passage.forall_mem_ofScenario ?title ?step ?cell ?docString
  case title =>
    refine .inl (legible_inLine h.title ?_)
    rw [String.length_append]
    push_cast
    rw [Int.add_assoc]
    rfl
  case step => exact fun step hstep ↦ .inl (legible_inLine (h.step step hstep) rfl)
  case cell =>
    intro step hstep table htable row hrow cell hcell
    exact .inl (legible_ofCell (h.cell step hstep table htable row hrow cell hcell))
  case docString => exact fun step hstep docString hd ↦ .inr ⟨step, hstep, docString, hd, rfl⟩

theorem headed_stands {lines : Int → String} {scenario : Scenario}
    (h : FaithfulScenario lines scenario) {s : Sighting} (hs : s ∈ headed scenario) :
    StandsAt lines s.2 s.1 := by
  obtain ⟨hs, hne⟩ := List.mem_filter.1 hs
  obtain ⟨cell, hcell, rfl⟩ := List.mem_map.1 hs
  obtain ⟨examples, hexamples, hcell⟩ := List.mem_flatMap.1 hcell
  have hvalue : cell.value.getD "" ≠ "" := of_decide_eq_true hne
  cases hh : examples.header with
  | none => simp [hh] at hcell
  | some header =>
    cases hv : cell.value with
    | none => simp [hv] at hvalue
    | some value =>
      rw [hv] at hvalue
      exact h.header examples hexamples header hh cell (by simpa [hh] using hcell) value hv hvalue

/-- A variable that is used and not declared is reported where its placeholder can be read, or at
the doc string that holds it; a column that is not used is reported where its header cell is. -/
theorem reads_of_mem_check {lines : Int → String} {document : Document}
    (h : Faithful lines document) {d : Diagnostic} (hd : d ∈ check document) (v : String) :
    (d.message = undeclaredMessage v →
      (d.column = 0 ∧ InDocString document d.line v) ∨
        Reads (lines d.line) d.column ("<" ++ v ++ ">")) ∧
    (d.message = unusedMessage v → Reads (lines d.line) d.column v) := by
  rw [check_eq_flatMap_outlines] at hd
  obtain ⟨scenario, hscenario, hd⟩ := List.mem_flatMap.1 hd
  rw [checkScenario_eq, reportOfScenario, List.mem_append] at hd
  rcases hd with hd | hd
  · obtain ⟨s, hs, rfl⟩ := exists_of_mem_reportOf hd
    refine ⟨fun hm ↦ absurd hm.symm (undeclaredMessage_ne_unusedMessage v s.1), fun hm ↦ ?_⟩
    obtain rfl := unusedMessage_injective hm
    obtain ⟨column, hcolumn, hread⟩ := headed_stands (h scenario hscenario) hs
    rw [hcolumn]
    exact hread
  · obtain ⟨s, hs, rfl⟩ := exists_of_mem_reportOf hd
    refine ⟨fun hm ↦ ?_, fun hm ↦ absurd hm (undeclaredMessage_ne_unusedMessage s.1 v)⟩
    obtain rfl := undeclaredMessage_injective hm
    obtain ⟨passage, hpassage, hs⟩ := List.mem_flatMap.1 hs
    rcases legible_or_docString (h scenario hscenario) passage hpassage with
      hl | ⟨step, hstep, docString, hdocString, rfl⟩
    · exact .inr (hl s hs)
    · obtain ⟨p, hp, rfl⟩ := List.mem_map.1 hs
      exact .inl ⟨rfl, scenario, hscenario, step, hstep, docString, hdocString, rfl, p, hp, rfl⟩

/-- An outline with a placeholder in its title, one in a step and one in the doc string of that
step, and with a column that none of them names. -/
def transfer : Scenario where
  location := ⟨2, some 3⟩
  keyword := "Scenario Outline"
  name := "pay <sum>"
  steps :=
    [⟨⟨3, some 5⟩, "Given ", "<payer> pays", some (.docString ⟨⟨4, some 7⟩, "<note>", "```"⟩)⟩]
  examples :=
    [⟨⟨7, some 5⟩, "Examples", "",
      some ⟨⟨8, some 7⟩, [⟨⟨8, some 9⟩, some "total"⟩, ⟨⟨8, some 17⟩, none⟩]⟩, []⟩]

def transferLines : Int → String
  | 2 => "  Scenario Outline: pay <sum>"
  | 3 => "    Given <payer> pays"
  | 8 => "      | total |  |"
  | _ => ""

def transferDocument : Document :=
  ⟨"", some ⟨⟨1, some 1⟩, "Feature", "", "en", [.mk (some transfer) none none]⟩, []⟩

theorem faithful_transfer : FaithfulScenario transferLines transfer := by
  constructor
  · exact ⟨3, rfl, by decide, by decide +kernel⟩
  · intro step hstep
    obtain rfl := List.mem_singleton.1 hstep
    exact ⟨5, rfl, by decide, by decide +kernel⟩
  · intro step hstep table htable
    obtain rfl := List.mem_singleton.1 hstep
    cases htable
  · intro examples hexamples header hheader cell hcell value hvalue _
    obtain rfl := List.mem_singleton.1 hexamples
    obtain rfl := Option.some.inj hheader
    rcases List.mem_cons.1 hcell with rfl | hcell
    · obtain rfl := Option.some.inj hvalue
      exact ⟨9, rfl, by decide, by decide +kernel⟩
    · obtain rfl := List.mem_singleton.1 hcell
      cases hvalue

theorem faithful_transferDocument : Faithful transferLines transferDocument := by
  intro scenario hscenario
  obtain rfl := List.mem_singleton.1 hscenario
  exact faithful_transfer

theorem reads_of_mem_check_transfer :
    Faithful transferLines transferDocument ∧
      ⟨undeclaredMessage "sum", name, 2, 25⟩ ∈ check transferDocument ∧
      Reads (transferLines 2) 25 ("<" ++ "sum" ++ ">") ∧
      ⟨unusedMessage "total", name, 8, 9⟩ ∈ check transferDocument ∧
      Reads (transferLines 8) 9 "total" := by
  have hsum : ⟨undeclaredMessage "sum", name, 2, 25⟩ ∈ check transferDocument := by decide +kernel
  have htotal : ⟨unusedMessage "total", name, 8, 9⟩ ∈ check transferDocument := by decide +kernel
  refine ⟨faithful_transferDocument, hsum, ?_, htotal,
    (reads_of_mem_check faithful_transferDocument htotal "total").2 rfl⟩
  rcases (reads_of_mem_check faithful_transferDocument hsum "sum").1 rfl with ⟨h, -⟩ | h
  · cases h
  · exact h

end GherkinLint.UnusedVariables
