import GherkinLint.Proofs.Printed
import GherkinLint.Proofs.UnusedVariables.LineBreak
import GherkinLint.Proofs.UnusedVariables.Repair

namespace GherkinLint.UnusedVariables

inductive Finding where
  | unused (variableName : String)
  | undeclared (variableName : String)
  deriving DecidableEq, Repr

namespace Finding

def message : Finding → String
  | unused v => unusedMessage v
  | undeclared v => undeclaredMessage v

def Holds (scenario : Scenario) : Finding → Prop
  | unused v => v ∈ (headed scenario).map (·.1) ∧ v ∉ (placed scenario).map (·.1)
  | undeclared v => v ∈ (placed scenario).map (·.1) ∧ v ∉ (headed scenario).map (·.1)

instance (scenario : Scenario) (f : Finding) : Decidable (f.Holds scenario) :=
  match f with
  | unused _ => inferInstanceAs (Decidable (_ ∧ _))
  | undeclared _ => inferInstanceAs (Decidable (_ ∧ _))

def location (scenario : Scenario) : Finding → Location
  | unused v => lastSeen v (headed scenario)
  | undeclared v => lastSeen v (placed scenario)

def diagnostic (scenario : Scenario) (f : Finding) : Diagnostic :=
  ⟨f.message, name, (f.location scenario).line, (f.location scenario).column.getD 0⟩

/-- The diagnostic reports the finding, which is true of an outline of the document. -/
def ReportedAs (document : Document) (d : Diagnostic) (f : Finding) : Prop :=
  ∃ scenario ∈ outlines document, f.Holds scenario ∧ d = f.diagnostic scenario

theorem message_injective : Function.Injective message := by
  intro f g h
  match f, g with
  | unused v, unused w => exact congrArg unused (unusedMessage_injective h)
  | undeclared v, undeclared w => exact congrArg undeclared (undeclaredMessage_injective h)
  | unused v, undeclared w => exact absurd h.symm (undeclaredMessage_ne_unusedMessage w v)
  | undeclared v, unused w => exact absurd h (undeclaredMessage_ne_unusedMessage v w)

end Finding

theorem mem_checkScenario_iff {scenario : Scenario} {d : Diagnostic} :
    d ∈ checkScenario scenario ↔ ∃ f : Finding, f.Holds scenario ∧ d = f.diagnostic scenario := by
  rw [checkScenario_eq, reportOfScenario, List.mem_append, mem_reportOf_iff, mem_reportOf_iff]
  constructor
  · intro h
    rcases h with ⟨v, hv, hd⟩ | ⟨v, hv, hd⟩
    · exact ⟨.unused v, hv, hd⟩
    · exact ⟨.undeclared v, hv, hd⟩
  · intro h
    obtain ⟨f, hf, hd⟩ := h
    cases f with
    | unused v => exact .inl ⟨v, hf, hd⟩
    | undeclared v => exact .inr ⟨v, hf, hd⟩

theorem mem_check_iff {document : Document} {d : Diagnostic} :
    d ∈ check document ↔ ∃ f : Finding, f.ReportedAs document d := by
  rw [check_eq_flatMap_outlines, List.mem_flatMap]
  simp only [mem_checkScenario_iff, Finding.ReportedAs]
  constructor
  · intro h
    obtain ⟨scenario, hscenario, f, hf⟩ := h
    exact ⟨f, scenario, hscenario, hf⟩
  · intro h
    obtain ⟨f, scenario, hscenario, hf⟩ := h
    exact ⟨scenario, hscenario, f, hf⟩

theorem Finding.eq_of_message_eq {document other : Document} {d e : Diagnostic} {f g : Finding}
    (hf : f.ReportedAs document d) (hg : g.ReportedAs other e) (h : d.message = e.message) :
    f = g := by
  obtain ⟨scenario, -, -, rfl⟩ := hf
  obtain ⟨scenario', -, -, rfl⟩ := hg
  exact message_injective h

theorem not_mem_rule_of_mem_check {document : Document} {d : Diagnostic}
    (hd : d ∈ check document) : '[' ∉ d.rule.toList := by
  rw [rule_of_mem_check hd]
  decide +kernel

/-- Two diagnostics are never printed alike for one path, for each can be read back from its line,
as long as the name of its rule has no bracket. What the rule reports are findings, and they differ
where the messages or the printed lines do. -/
theorem printed_apart (path : String) :
    (∀ d : Diagnostic, '[' ∉ d.rule.toList → Diagnostic.read? path (d.render path) = some d) ∧
    (∀ d e : Diagnostic, '[' ∉ d.rule.toList → '[' ∉ e.rule.toList →
      d.render path = e.render path → d = e) ∧
    (∀ document d, d ∈ check document ↔ ∃ f : Finding, f.ReportedAs document d) ∧
    ∀ document other d e (f g : Finding), f.ReportedAs document d → g.ReportedAs other e →
      (d.message = e.message → f = g) ∧ (d.render path = e.render path → d = e ∧ f = g) := by
  refine ⟨fun d hd ↦ Diagnostic.read?_render path hd,
    fun d e hd he h ↦ Diagnostic.render_injective path hd he h, fun document d ↦ mem_check_iff, ?_⟩
  intro document other d e f g hf hg
  refine ⟨Finding.eq_of_message_eq hf hg, fun h ↦ ?_⟩
  have hd := not_mem_rule_of_mem_check (mem_check_iff.2 ⟨f, hf⟩)
  have he := not_mem_rule_of_mem_check (mem_check_iff.2 ⟨g, hg⟩)
  obtain rfl := Diagnostic.render_injective path hd he h
  exact ⟨rfl, Finding.eq_of_message_eq hf hg rfl⟩

/-- An outline with a placeholder and a column that differ in a bracket. -/
def price : Scenario where
  location := ⟨2, some 3⟩
  keyword := "Scenario Outline"
  name := "<net: \"5\" [EUR> paid"
  steps := []
  examples := [⟨⟨4, some 5⟩, "Examples", "",
    some ⟨⟨5, some 7⟩, [⟨⟨5, some 9⟩, some "net: \"5\" [EUR]"⟩]⟩, []⟩]

def priceDocument : Document :=
  ⟨"", some ⟨⟨1, some 1⟩, "Feature", "", "en", [.mk (some price) none none]⟩, []⟩

def unusedPrice : Diagnostic := ⟨unusedMessage "net: \"5\" [EUR]", name, 5, 9⟩

def undeclaredPrice : Diagnostic := ⟨undeclaredMessage "net: \"5\" [EUR", name, 2, 21⟩

theorem printed_apart_price :
    '[' ∉ unusedPrice.rule.toList ∧
    (Finding.unused "net: \"5\" [EUR]").ReportedAs priceDocument unusedPrice ∧
    (Finding.undeclared "net: \"5\" [EUR").ReportedAs priceDocument undeclaredPrice ∧
    Diagnostic.read? "a:1:2: [b]" (unusedPrice.render "a:1:2: [b]") = some unusedPrice ∧
    unusedPrice.render "a:1:2: [b]" ≠ undeclaredPrice.render "a:1:2: [b]" := by
  have hrule : '[' ∉ unusedPrice.rule.toList := by decide +kernel
  have hunused : (Finding.unused "net: \"5\" [EUR]").ReportedAs priceDocument unusedPrice :=
    ⟨price, List.mem_singleton_self _, by decide +kernel, by decide +kernel⟩
  have hundeclared : (Finding.undeclared "net: \"5\" [EUR").ReportedAs priceDocument
      undeclaredPrice :=
    ⟨price, List.mem_singleton_self _, by decide +kernel, by decide +kernel⟩
  obtain ⟨hread, -, -, hapart⟩ := printed_apart "a:1:2: [b]"
  refine ⟨hrule, hunused, hundeclared, hread _ hrule, fun h ↦ ?_⟩
  obtain ⟨-, hsame⟩ := (hapart _ _ _ _ _ _ hunused hundeclared).2 h
  cases hsame

end GherkinLint.UnusedVariables
