import GherkinLint.Rule.UnusedVariables
import Mathlib.Logic.Relation

namespace GherkinLint

inductive Child.Idle : Child → Prop
  | mk {scenario : Option Scenario} {background : Option Background}
      {group : Option (Group Child)} :
      (∀ s ∈ scenario, s.isOutline = false) → (∀ g ∈ group, ∀ child ∈ g.children, Idle child) →
      Idle (.mk scenario background group)

def TableCell.IsEmpty (cell : TableCell) : Prop := cell.value = none ∨ cell.value = some ""

inductive Examples.Edit : Examples → Examples → Prop
  | heading {block : Examples} (location : Location) (keyword name : String) :
      Edit block { block with location, keyword, name }
  | body {block : Examples} (body : List TableRow) : Edit block { block with body }
  | headerPlace {block : Examples} {header : TableRow} (location : Location) :
      block.header = some header → Edit block { block with header := some { header with location } }
  | emptyCells {block : Examples} {location : Location}
      (before : List TableCell) {cells others : List TableCell} (after : List TableCell) :
      block.header = some ⟨location, before ++ cells ++ after⟩ → (∀ cell ∈ cells, cell.IsEmpty) →
      (∀ cell ∈ others, cell.IsEmpty) →
      Edit block { block with header := some ⟨location, before ++ others ++ after⟩ }

inductive Argument.Edit : Argument → Argument → Prop
  | tablePlace {table : DataTable} (location : Location) :
      Edit (.table table) (.table { table with location })
  | rowPlace {tablePlace : Location} {row : TableRow} (before : List TableRow) (location : Location)
      (after : List TableRow) :
      Edit (.table ⟨tablePlace, before ++ row :: after⟩)
        (.table ⟨tablePlace, before ++ { row with location } :: after⟩)
  | delimiter {docString : DocString} (delimiter : String) :
      Edit (.docString docString) (.docString { docString with delimiter })

inductive Scenario.Edit : Scenario → Scenario → Prop
  | argument {scenario : Scenario} {step : Step} {old new : Argument} (before after : List Step) :
      scenario.steps = before ++ { step with argument := some old } :: after → old.Edit new →
      Edit scenario
        { scenario with steps := before ++ { step with argument := some new } :: after }
  | examples {scenario : Scenario} {old new : Examples} (before after : List Examples) :
      scenario.examples = before ++ old :: after → old.Edit new →
      Edit scenario { scenario with examples := before ++ new :: after }

/-- Edits of the children of a feature or of a group. Those inside a group are of the same kind as
those around it. -/
inductive ChildrenEdit : List Child → List Child → Prop
  | insert {child : Child} (before after : List Child) :
      child.Idle → ChildrenEdit (before ++ after) (before ++ child :: after)
  | remove {child : Child} (before after : List Child) :
      child.Idle → ChildrenEdit (before ++ child :: after) (before ++ after)
  | scenario {old new : Scenario} {background : Option Background} {group : Option (Group Child)}
      (before after : List Child) :
      old.Edit new →
      ChildrenEdit (before ++ .mk (some old) background group :: after)
        (before ++ .mk (some new) background group :: after)
  | background {scenario : Option Scenario} {old : Option Background}
      {group : Option (Group Child)} (before : List Child) (new : Option Background)
      (after : List Child) :
      ChildrenEdit (before ++ .mk scenario old group :: after)
        (before ++ .mk scenario new group :: after)
  | heading {scenario : Option Scenario} {background : Option Background} {group : Group Child}
      (before : List Child) (location : Location) (keyword name : String) (after : List Child) :
      ChildrenEdit (before ++ .mk scenario background (some group) :: after)
        (before ++ .mk scenario background (some { group with location, keyword, name }) :: after)
  | inside {scenario : Option Scenario} {background : Option Background} {group : Group Child}
      {children : List Child} (before after : List Child) :
      ChildrenEdit group.children children →
      ChildrenEdit (before ++ .mk scenario background (some group) :: after)
        (before ++ .mk scenario background (some { group with children }) :: after)

inductive Document.Edit : Document → Document → Prop
  | uri {document : Document} (uri : String) : Edit document { document with uri }
  | comments {document : Document} (comments : List String) :
      Edit document { document with comments }
  | heading {document : Document} {feature : Feature} (location : Location)
      (keyword name language : String) :
      document.feature = some feature →
      Edit document
        { document with feature := some { feature with location, keyword, name, language } }
  | children {document : Document} {feature : Feature} {children : List Child} :
      document.feature = some feature → ChildrenEdit feature.children children →
      Edit document { document with feature := some { feature with children } }

namespace UnusedVariables

theorem flatMap_exchange {α β : Type} {f : α → List β} {a b : α} (before after : List α)
    (h : f a = f b) :
    (before ++ a :: after).flatMap f = (before ++ b :: after).flatMap f := by
  simp only [List.flatMap_append, List.flatMap_cons, h]

theorem cellText_of_isEmpty {cell : TableCell} (h : cell.IsEmpty) : cellText cell = none := by
  rcases h with h | h <;> simp [cellText, h, Option.filter]

def declaredIn (block : Examples) : List Sighting :=
  match block.header with
  | some header =>
    header.cells.filterMap fun cell ↦ (cellText cell).map fun name ↦ (name, cell.location)
  | none => []

theorem declaredIn_eq_of_edit {old new : Examples} (h : old.Edit new) :
    declaredIn old = declaredIn new := by
  cases h with
  | heading | body => rfl
  | headerPlace location hheader => rw [declaredIn, hheader]; rfl
  | emptyCells before after hheader hcells hothers =>
    have hempty {cells : List TableCell} (h : ∀ cell ∈ cells, cell.IsEmpty) :
        (cells.filterMap fun cell ↦ (cellText cell).map fun name ↦ (name, cell.location)) = [] := by
      rw [List.filterMap_eq_nil_iff]
      intro cell hcell
      rw [cellText_of_isEmpty (h cell hcell), Option.map_none]
    rw [declaredIn, hheader, declaredIn]
    simp only [List.filterMap_append, hempty hcells, hempty hothers]

theorem usesInArgument_eq_of_edit {old new : Argument} (h : old.Edit new) :
    usesInArgument old = usesInArgument new := by
  cases h with
  | tablePlace | delimiter => rfl
  | rowPlace before location after => exact flatMap_exchange before after (by rfl)

theorem checkScenario_eq_of_edit {old new : Scenario} (h : old.Edit new) :
    checkScenario old = checkScenario new := by
  cases h with
  | @argument step oldArgument newArgument before after hsteps h =>
    have hstep : usesInStep { step with argument := some oldArgument } =
        usesInStep { step with argument := some newArgument } :=
      congrArg (usesInText step ++ ·) (usesInArgument_eq_of_edit h)
    have huses : uses old = uses { old with
        steps := before ++ { step with argument := some newArgument } :: after } := by
      rw [uses, hsteps, flatMap_exchange before after hstep]
      rfl
    rw [checkScenario, huses]
    rfl
  | @examples oldBlock newBlock before after hexamples h =>
    have hdeclared : declarations old =
        declarations { old with examples := before ++ newBlock :: after } := by
      rw [declarations, hexamples]
      exact flatMap_exchange before after (declaredIn_eq_of_edit h)
    rw [checkScenario, hdeclared]
    rfl

theorem isOutline_eq_of_edit {old new : Scenario} (h : old.Edit new) :
    old.isOutline = new.isOutline := by
  cases h with
  | argument => rfl
  | examples before after hexamples =>
    rw [Scenario.isOutline, hexamples, Scenario.isOutline]
    cases before <;> rfl

/-- What is reported of a child of a feature: of those in its group, or else of itself. -/
def checkSpread (child : Child) : List Diagnostic :=
  match child.group with
  | some group => group.children.flatMap checkChild
  | none => checkChild child

theorem check_eq_flatMap {document : Document} {feature : Feature}
    (h : document.feature = some feature) :
    check document = feature.children.flatMap checkSpread := by
  rw [check, h]
  dsimp only
  rw [Feature.spread, List.flatMap_assoc]
  congr 1
  funext child
  unfold checkSpread
  cases child.group with
  | none => exact List.flatMap_singleton ..
  | some group => rfl

theorem checkChild_of_idle {child : Child} (h : child.Idle) : checkChild child = [] := by
  obtain ⟨hscenario, -⟩ := h
  unfold checkChild
  dsimp only [Child.scenario]
  split
  next scenario => rw [hscenario scenario rfl]; rfl
  next => rfl

theorem checkSpread_of_idle {child : Child} (h : child.Idle) : checkSpread child = [] := by
  unfold checkSpread
  cases hgroup : child.group with
  | none => exact checkChild_of_idle h
  | some group =>
    obtain ⟨-, hinside⟩ := h
    rw [List.flatMap_eq_nil_iff]
    intro child hchild
    exact checkChild_of_idle (hinside group hgroup child hchild)

/-- Neither the children nor what they are spread to tell of an edit. -/
theorem flatMap_eq_of_edit {old new : List Child} (h : ChildrenEdit old new) :
    old.flatMap checkChild = new.flatMap checkChild ∧
      old.flatMap checkSpread = new.flatMap checkSpread := by
  induction h with
  | insert before after hidle | remove before after hidle =>
    simp only [List.flatMap_append, List.flatMap_cons, checkChild_of_idle hidle,
      checkSpread_of_idle hidle, List.nil_append, and_self]
  | @scenario old new background group before after hedit =>
    have hchild : checkChild (.mk (some old) background group) =
        checkChild (.mk (some new) background group) := by
      simp only [checkChild, Child.scenario, isOutline_eq_of_edit hedit,
        checkScenario_eq_of_edit hedit]
    refine ⟨flatMap_exchange before after hchild, flatMap_exchange before after ?_⟩
    cases group with
    | none => exact hchild
    | some group => rfl
  | @background scenario old group before new after =>
    refine ⟨flatMap_exchange before after (by rfl), flatMap_exchange before after ?_⟩
    cases group <;> rfl
  | heading before location keyword name after =>
    exact ⟨flatMap_exchange before after (by rfl), flatMap_exchange before after (by rfl)⟩
  | inside before after _ ih =>
    exact ⟨flatMap_exchange before after (by rfl), flatMap_exchange before after ih.1⟩

theorem check_eq_of_edit {old new : Document} (h : old.Edit new) : check old = check new := by
  cases h with
  | uri | comments => rfl
  | heading location keyword name language hfeature =>
    rw [check_eq_flatMap hfeature, check_eq_flatMap rfl]
  | children hfeature hedit =>
    rw [check_eq_flatMap hfeature, check_eq_flatMap rfl]
    exact (flatMap_eq_of_edit hedit).2

/-- No sequence of edits of what the rule does not read changes what it reports. -/
theorem check_eq_of_edits {old new : Document} (h : Relation.ReflTransGen Document.Edit old new) :
    check old = check new := by
  induction h with
  | refl => rfl
  | tail _ hedit ih => exact ih.trans (check_eq_of_edit hedit)

def priced (cells : List TableCell) (body : List TableRow) : Examples :=
  ⟨⟨5, some 7⟩, "Examples", "", some ⟨⟨6, some 9⟩, ⟨⟨6, some 11⟩, some "price"⟩ :: cells⟩, body⟩

/-- A market in the file of name `uri`, with an outline in a group and `others` before the group. -/
def market (uri : String) (others : List Child) (examples : Examples) : Document where
  uri := uri
  feature := some ⟨⟨1, some 1⟩, "Feature", "market", "en",
    others ++ [.mk none none (some ⟨⟨2, some 3⟩, "Rule", "prices", [.mk (some {
      location := ⟨3, some 5⟩
      keyword := "Scenario Outline"
      name := "cheap"
      steps := [⟨⟨4, some 7⟩, "When ", "I buy <fruit>", none⟩]
      examples := [examples]
    }) none none]⟩)]⟩
  comments := []

def lone : Child := .mk (some ⟨⟨2, some 3⟩, "Scenario", "a <lone> one", [], []⟩) none none

def emptyCell : TableCell := ⟨⟨6, some 19⟩, some ""⟩

def pricedRow : TableRow := ⟨⟨7, some 9⟩, [⟨⟨7, some 11⟩, some "3"⟩]⟩

theorem edit_market {old new : Examples} (uri : String) (others : List Child) (h : old.Edit new) :
    (market uri others old).Edit (market uri others new) :=
  @Document.Edit.children (market uri others old) _ _ rfl
    (.inside others [] (.scenario [] [] (.examples [] [] rfl h)))

theorem edits_market : Relation.ReflTransGen Document.Edit
    (market "market.feature" [] (priced [emptyCell] []))
    (market "moved.feature" [lone] (priced [] [pricedRow])) := by
  have hlone : lone.Idle := .mk (by simp [Scenario.isOutline]) (by simp)
  have hempty : ∀ cell ∈ [emptyCell], cell.IsEmpty := by
    intro cell hcell
    exact .inr (List.mem_singleton.1 hcell ▸ rfl)
  have hcells : (priced [emptyCell] []).Edit (priced [] []) :=
    .emptyCells [⟨⟨6, some 11⟩, some "price"⟩] [] rfl hempty (List.forall_mem_nil _)
  have hbody : (priced [] []).Edit (priced [] [pricedRow]) := .body [pricedRow]
  refine .head (.uri "moved.feature") ?_
  refine .head (.children rfl (.insert [] _ hlone)) ?_
  refine .head (edit_market _ [lone] hcells) ?_
  exact .single (edit_market _ [lone] hbody)

theorem check_market :
    Relation.ReflTransGen Document.Edit
        (market "market.feature" [] (priced [emptyCell] []))
        (market "moved.feature" [lone] (priced [] [pricedRow])) ∧
      check (market "moved.feature" [lone] (priced [] [pricedRow])) =
        [⟨unusedMessage "price", name, 6, 11⟩, ⟨undeclaredMessage "fruit", name, 4, 18⟩] := by
  refine ⟨edits_market, (check_eq_of_edits edits_market).symm.trans ?_⟩
  decide +kernel

end UnusedVariables

end GherkinLint
