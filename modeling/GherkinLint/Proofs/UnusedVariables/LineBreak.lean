import GherkinLint.Proofs.UnusedVariables.Place

namespace GherkinLint

namespace Text

def lineBreaks : List Char :=
  [0x0A, 0x0B, 0x0C, 0x0D, 0x1C, 0x1D, 0x1E, 0x85, 0x2028, 0x2029].map Char.ofNat

def OneLine (breaks : List Char) (text : String) : Prop := ∀ c ∈ text.toList, c ∉ breaks

instance (breaks : List Char) (text : String) : Decidable (OneLine breaks text) :=
  decidable_of_iff (text.toList.all fun c ↦ decide (c ∉ breaks))
    (by simp only [OneLine, List.all_eq_true, decide_eq_true_eq])

variable {breaks : List Char}

theorem oneLine_append {s t : String} :
    OneLine breaks (s ++ t) ↔ OneLine breaks s ∧ OneLine breaks t := by
  simp only [OneLine, String.toList_append, List.forall_mem_append]

variable (hbreaks : breaks ⊆ lineBreaks)
include hbreaks

theorem OneLine.of_lineBreaks {s : String} (h : OneLine lineBreaks s) : OneLine breaks s :=
  fun c hc hbreak ↦ h c hc (hbreaks hbreak)

theorem oneLine_repr (n : Nat) : OneLine breaks n.repr := by
  refine .of_lineBreaks hbreaks fun c hc hbreak ↦ ?_
  have hnot : lineBreaks.all fun c ↦ !c.isDigit := by decide
  have hdigit : c.isDigit = true := by
    rw [Nat.toList_repr] at hc
    exact Nat.isDigit_of_mem_toDigits (by decide) (by decide) hc
  have hother := List.all_eq_true.1 hnot c hbreak
  rw [hdigit] at hother
  cases hother

theorem oneLine_toString (n : Int) : OneLine breaks (toString n) := by
  cases n with
  | ofNat n => exact oneLine_repr hbreaks n
  | negSucc n =>
    have hminus : OneLine lineBreaks "-" := by decide +kernel
    exact oneLine_append.2 ⟨hminus.of_lineBreaks hbreaks, oneLine_repr hbreaks (n + 1)⟩

end Text

open Text

section Breaks

variable {breaks : List Char} (hbreaks : breaks ⊆ lineBreaks)
include hbreaks

theorem Diagnostic.oneLine_render_iff (path : String) (d : Diagnostic) :
    OneLine breaks (d.render path) ↔
      OneLine breaks path ∧ OneLine breaks d.message ∧ OneLine breaks d.rule := by
  have hfixed : ∀ s ∈ [":", ": ", " [", "]"], OneLine breaks s := by
    intro s hs
    refine .of_lineBreaks hbreaks ?_
    revert s
    decide +kernel
  have hline := oneLine_toString hbreaks d.line
  have hcolumn := oneLine_toString hbreaks d.column
  simp only [List.forall_mem_cons] at hfixed
  simp only [render, oneLine_append, hfixed, hline, hcolumn, and_true, and_assoc]

namespace UnusedVariables

theorem oneLine_unusedMessage_iff (v : String) :
    OneLine breaks (unusedMessage v) ↔ OneLine breaks v := by
  have hfront : OneLine lineBreaks "Examples table variable \"" := by decide +kernel
  have hback : OneLine lineBreaks "\" is not used in any step" := by decide +kernel
  unfold unusedMessage
  rw [oneLine_append, oneLine_append,
    and_iff_left (hback.of_lineBreaks hbreaks), and_iff_right (hfront.of_lineBreaks hbreaks)]

theorem oneLine_undeclaredMessage_iff (v : String) :
    OneLine breaks (undeclaredMessage v) ↔ OneLine breaks v := by
  have hfront : OneLine lineBreaks "Step variable \"" := by decide +kernel
  have hback : OneLine lineBreaks "\" does not exist in the examples table" := by decide +kernel
  unfold undeclaredMessage
  rw [oneLine_append, oneLine_append,
    and_iff_left (hback.of_lineBreaks hbreaks), and_iff_right (hfront.of_lineBreaks hbreaks)]

theorem oneLine_name : OneLine breaks name := by
  have hname : OneLine lineBreaks name := by decide +kernel
  exact hname.of_lineBreaks hbreaks

end UnusedVariables

end Breaks

namespace UnusedVariables

variable {breaks : List Char}

theorem oneLine_of_mem_placeholders {text : String} {p : Placeholder} (hp : p ∈ placeholders text)
    (h : OneLine breaks text) : OneLine breaks p.name := by
  obtain ⟨before, after, htext, -⟩ := exists_of_mem_placeholders hp
  intro c hc
  refine h c ?_
  rw [htext, String.toList_append, String.toList_append]
  simp only [List.mem_append, hc, true_or, or_true]

/-- All texts of the scenario take one line, but for its doc strings. -/
structure OneLined (breaks : List Char) (scenario : Scenario) : Prop where
  title : OneLine breaks scenario.name
  step : ∀ step ∈ scenario.steps, OneLine breaks step.text
  cell : ∀ step ∈ scenario.steps, ∀ table ∈ step.dataTable, ∀ row ∈ table.rows, ∀ cell ∈ row.cells,
    ∀ value ∈ cell.value, OneLine breaks value
  header : ∀ examples ∈ scenario.examples, ∀ header ∈ examples.header, ∀ cell ∈ header.cells,
    ∀ value ∈ cell.value, OneLine breaks value

section Scenario

variable {scenario : Scenario} (h : OneLined breaks scenario)
include h

theorem OneLined.passage : ∀ passage ∈ Passage.ofScenario scenario,
    OneLine breaks passage.text ∨ ∃ step ∈ scenario.steps, ∃ docString ∈ step.docString,
      passage = Passage.ofDocString docString := by
  refine Passage.forall_mem_ofScenario ?title ?step ?cell ?docString
  case title => exact .inl h.title
  case step => exact fun step hstep ↦ .inl (h.step step hstep)
  case cell =>
    intro step hstep table htable row hrow cell hcell
    refine .inl ?_
    change OneLine breaks (cell.value.getD "")
    cases hvalue : cell.value with
    | none => exact fun c hc ↦ by cases hc
    | some value => exact h.cell step hstep table htable row hrow cell hcell value hvalue
  case docString => exact fun step hstep docString hd ↦ .inr ⟨step, hstep, docString, hd, rfl⟩

theorem OneLined.headed {s : Sighting} (hs : s ∈ headed scenario) : OneLine breaks s.1 := by
  obtain ⟨hs, hne⟩ := List.mem_filter.1 hs
  obtain ⟨cell, hcell, rfl⟩ := List.mem_map.1 hs
  obtain ⟨examples, hexamples, hcell⟩ := List.mem_flatMap.1 hcell
  change OneLine breaks (cell.value.getD "")
  cases hh : examples.header with
  | none => simp [hh] at hcell
  | some header =>
    cases hv : cell.value with
    | none => exact fun c hc ↦ by cases hc
    | some value =>
      exact h.header examples hexamples header hh cell (by simpa [hh] using hcell) value hv

theorem OneLined.placed {s : Sighting} (hs : s ∈ placed scenario) :
    OneLine breaks s.1 ∨ s.2.column = some 0 ∧ ∃ step ∈ scenario.steps,
      ∃ docString ∈ step.docString, docString.location.line = s.2.line ∧
        ∃ p ∈ placeholders docString.content, p.name = s.1 := by
  obtain ⟨passage, hpassage, hs⟩ := List.mem_flatMap.1 hs
  obtain ⟨p, hp, rfl⟩ := List.mem_map.1 hs
  rcases h.passage passage hpassage with hone | ⟨step, hstep, docString, hdocString, rfl⟩
  · exact .inl (oneLine_of_mem_placeholders hp hone)
  · exact .inr ⟨rfl, step, hstep, docString, hdocString, rfl, p, hp, rfl⟩

end Scenario

theorem ofDocString_mem_ofScenario {scenario : Scenario} {step : Step} {docString : DocString}
    (hstep : step ∈ scenario.steps) (hd : docString ∈ step.docString) :
    Passage.ofDocString docString ∈ Passage.ofScenario scenario := by
  have hargument : Passage.ofArgument step = [Passage.ofDocString docString] := by
    unfold Step.docString at hd
    unfold Passage.ofArgument Step.dataTable Step.docString
    split at hd
    next hargument =>
      obtain rfl := Option.some.inj hd
      rw [hargument]
    next => cases hd
  refine List.mem_cons_of_mem _ (List.mem_flatMap.2 ⟨step, hstep, List.mem_cons_of_mem _ ?_⟩)
  rw [hargument]
  exact List.mem_singleton_self _

theorem rule_of_mem_check {document : Document} {d : Diagnostic} (hd : d ∈ check document) :
    d.rule = name := by
  rw [check_eq_report] at hd
  obtain ⟨scenario, -, hd⟩ := List.mem_flatMap.1 hd
  rcases List.mem_append.1 hd with hd | hd
  · obtain ⟨s, -, rfl⟩ := exists_of_mem_reportOf hd
    rfl
  · obtain ⟨s, -, rfl⟩ := exists_of_mem_reportOf hd
    rfl

/-- A doc string of an outline has a placeholder that does not end on the line where it begins. -/
def HasBrokenPlaceholder (breaks : List Char) (document : Document) : Prop :=
  ∃ scenario ∈ outlines document, ∃ step ∈ scenario.steps, ∃ docString ∈ step.docString,
    ∃ p ∈ placeholders docString.content, ¬OneLine breaks p.name

section Document

variable {document : Document} (hbreaks : breaks ⊆ lineBreaks)
  (h : ∀ scenario ∈ outlines document, OneLined breaks scenario)
include hbreaks h

theorem oneLine_or_undeclared {d : Diagnostic} (hd : d ∈ check document) :
    OneLine breaks d.message ∨ ∃ v, d.message = undeclaredMessage v ∧ ¬OneLine breaks v ∧
      d.column = 0 ∧ InDocString document d.line v := by
  rw [check_eq_flatMap_outlines] at hd
  obtain ⟨scenario, hscenario, hd⟩ := List.mem_flatMap.1 hd
  rw [checkScenario_eq, reportOfScenario, List.mem_append] at hd
  rcases hd with hd | hd
  · obtain ⟨s, hs, rfl⟩ := exists_of_mem_reportOf hd
    exact .inl ((oneLine_unusedMessage_iff hbreaks _).2 ((h scenario hscenario).headed hs))
  · obtain ⟨s, hs, rfl⟩ := exists_of_mem_reportOf hd
    by_cases hone : OneLine breaks s.1
    · exact .inl ((oneLine_undeclaredMessage_iff hbreaks _).2 hone)
    · obtain ⟨hcolumn, step, hstep, docString, hd, hline, hp⟩ :=
        ((h scenario hscenario).placed hs).resolve_left hone
      have hzero : s.2.column.getD 0 = 0 := by rw [hcolumn, Option.getD_some]
      exact .inr ⟨s.1, rfl, hone, hzero, scenario, hscenario, step, hstep, docString, hd, hline, hp⟩

theorem exists_of_hasBrokenPlaceholder (hbroken : HasBrokenPlaceholder breaks document) :
    ∃ d ∈ check document, ¬OneLine breaks d.message := by
  obtain ⟨scenario, hscenario, step, hstep, docString, hd, p, hp, hbroken⟩ := hbroken
  have hplaced : p.name ∈ (placed scenario).map (·.1) := by
    have hs : (p.name, ⟨docString.location.line, some 0⟩) ∈ placed scenario :=
      List.mem_flatMap.2 ⟨_, ofDocString_mem_ofScenario hstep hd, List.mem_map_of_mem hp⟩
    exact List.mem_map_of_mem hs
  have hheaded : p.name ∉ (headed scenario).map (·.1) := by
    intro hmem
    obtain ⟨s, hs, hname⟩ := List.mem_map.1 hmem
    exact hbroken (hname ▸ (h scenario hscenario).headed hs)
  obtain ⟨d, hd, hm⟩ :=
    (exists_message_mem_reportOf undeclaredMessage_injective).2 ⟨hplaced, hheaded⟩
  refine ⟨d, ?_, ?_⟩
  · rw [check_eq_flatMap_outlines]
    refine List.mem_flatMap.2 ⟨scenario, hscenario, ?_⟩
    rw [checkScenario_eq]
    exact List.mem_append_right _ hd
  · rwa [hm, oneLine_undeclaredMessage_iff hbreaks]

/-- When only doc strings have line breaks, the message of a diagnostic takes one line, and so does
the diagnostic when it is printed for a path that does. The exception are undeclared variables with
a line break in their names: they stand in doc strings, and each doc string that holds such a
placeholder leads to one. -/
theorem oneLine_of_mem_check :
    (∀ d ∈ check document,
      (OneLine breaks d.message ∨ ∃ v, d.message = undeclaredMessage v ∧ ¬OneLine breaks v ∧
        d.column = 0 ∧ InDocString document d.line v) ∧
      ∀ path, OneLine breaks path → (OneLine breaks (d.render path) ↔ OneLine breaks d.message)) ∧
    ((∃ d ∈ check document, ¬OneLine breaks d.message) ↔
      HasBrokenPlaceholder breaks document) := by
  refine ⟨fun d hd ↦ ⟨oneLine_or_undeclared hbreaks h hd, fun path hpath ↦ ?_⟩,
    fun hbroken ↦ ?_, exists_of_hasBrokenPlaceholder hbreaks h⟩
  · have hrule : OneLine breaks d.rule := by
      rw [rule_of_mem_check hd]
      exact oneLine_name hbreaks
    rw [Diagnostic.oneLine_render_iff hbreaks, and_iff_right hpath, and_iff_left hrule]
  · obtain ⟨d, hd, hbroken⟩ := hbroken
    obtain ⟨v, -, hv, -, scenario, hscenario, step, hstep, docString, hdocString, -, p, hp, rfl⟩ :=
      (oneLine_or_undeclared hbreaks h hd).resolve_left hbroken
    exact ⟨scenario, hscenario, step, hstep, docString, hdocString, p, hp, hv⟩

end Document

/-- An outline whose only line break is inside a placeholder of a doc string. -/
def snippet : Scenario where
  location := ⟨2, some 3⟩
  keyword := "Scenario Outline"
  name := "<n> lines"
  steps := [⟨⟨3, some 5⟩, "Given ", "<m> lines",
    some (.docString ⟨⟨4, some 7⟩, "if i <n\nthen p->next", "```"⟩)⟩]
  examples := [⟨⟨8, some 5⟩, "Examples", "", some ⟨⟨9, some 7⟩, [⟨⟨9, some 9⟩, some "n"⟩]⟩, []⟩]

def snippetDocument : Document :=
  ⟨"", some ⟨⟨1, some 1⟩, "Feature", "", "en", [.mk (some snippet) none none]⟩, []⟩

theorem oneLined_snippet : OneLined lineBreaks snippet := by
  constructor
  · decide +kernel
  · decide +kernel
  · intro step hstep table htable
    obtain rfl := List.mem_singleton.1 hstep
    cases htable
  · decide +kernel

theorem oneLined_snippetDocument :
    ∀ scenario ∈ outlines snippetDocument, OneLined lineBreaks scenario := by
  intro scenario hscenario
  obtain rfl := List.mem_singleton.1 hscenario
  exact oneLined_snippet

theorem oneLine_of_mem_check_snippet :
    lineBreaks ⊆ lineBreaks ∧
    (∀ scenario ∈ outlines snippetDocument, OneLined lineBreaks scenario) ∧
    (⟨undeclaredMessage "m", name, 3, 11⟩ ∈ check snippetDocument ∧
      OneLine lineBreaks
        ((⟨undeclaredMessage "m", name, 3, 11⟩ : Diagnostic).render "a.feature")) ∧
    ∃ d ∈ check snippetDocument, ¬OneLine lineBreaks d.message := by
  have hm : ⟨undeclaredMessage "m", name, 3, 11⟩ ∈ check snippetDocument := by decide +kernel
  have hbroken : HasBrokenPlaceholder lineBreaks snippetDocument := by
    refine ⟨snippet, List.mem_singleton_self _, _, List.mem_singleton_self _, _, rfl, ?_⟩
    decide +kernel
  obtain ⟨hlines, hexists⟩ := oneLine_of_mem_check (List.Subset.refl _) oneLined_snippetDocument
  refine ⟨List.Subset.refl _, oneLined_snippetDocument, ⟨hm, ?_⟩, hexists.2 hbroken⟩
  exact ((hlines _ hm).2 "a.feature" (by decide +kernel)).2 (by decide +kernel)

/-- A doc string of two lines is enough to break a diagnostic. -/
theorem exists_message_not_oneLine :
    ¬∀ document, (∀ scenario ∈ outlines document, OneLined lineBreaks scenario) →
      ∀ d ∈ check document, OneLine ['\n'] d.message := by
  intro h
  have hd : ⟨undeclaredMessage "n\nthen p-", name, 4, 0⟩ ∈ check snippetDocument := by
    decide +kernel
  have hbreak : '\n' ∈ (undeclaredMessage "n\nthen p-").toList := by decide +kernel
  exact h snippetDocument oneLined_snippetDocument _ hd _ hbreak (List.mem_singleton_self _)

end UnusedVariables

end GherkinLint
