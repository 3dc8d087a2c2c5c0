import GherkinLint.Acceptance.Scenario

namespace GherkinLint.Behave

open Acceptance

inductive Purpose where
  | scene
  | action
  | outcome
  deriving DecidableEq, Repr

structure Step where
  purpose : Purpose
  text : String
  docString : Option String
  deriving DecidableEq, Repr

/-- Fills a gap with the fewest characters, at least one, behind which the rest fits. -/
def fillGap (rest : List Char → Option (List String)) (taken : List Char) :
    List Char → Option (List String)
  | [] => none
  | c :: s =>
    match rest s with
    | some more => some (String.ofList (c :: taken).reverse :: more)
    | none => fillGap rest (c :: taken) s

def fill : List String → List Char → Option (List String)
  | [], s => if s.isEmpty then some [] else none
  | part :: parts, s =>
    if Text.startsWith s part.toList then
      let s := s.drop part.length
      match parts with
      | [] => if s.isEmpty then some [] else none
      | _ :: _ => fillGap (fill parts) [] s
    else none

/-- A sentence with gaps between its parts, and what it asks for when they are filled. -/
structure Definition where
  purpose : Purpose
  sentence : List String
  task : Option String → List String → Option Task

def definitions : List Definition :=
  [⟨.scene, ["a new project"], fun _ _ ↦ some .newProject⟩,
    ⟨.scene, ["there is no project file"], fun _ _ ↦ some .noProjectFile⟩,
    ⟨.scene, ["the example feature \"", "\""], fun _ gaps ↦ gaps[0]?.map .exampleFeature⟩,
    ⟨.scene, ["the rule ", " has severity \"", "\""], fun _ gaps ↦
      match gaps with
      | [rule, severity] => some (.ruleSeverity rule severity)
      | _ => none⟩,
    ⟨.action, ["I run featurelint with \"", "\""], fun _ gaps ↦ gaps[0]?.map .run⟩,
    ⟨.action, ["I run featurelint with no arguments"], fun _ _ ↦ some .runPlain⟩,
    ⟨.outcome, ["the exit code is ", ""], fun _ gaps ↦ gaps[0]?.map .exitCode⟩,
    ⟨.outcome, ["the output contains the text"], fun docString _ ↦
      some (.outputHoldsText docString)⟩,
    ⟨.outcome, ["the output contains \"", "\""], fun _ gaps ↦ gaps[0]?.map .outputHolds⟩,
    ⟨.outcome, ["the output does not contain \"", "\""], fun _ gaps ↦ gaps[0]?.map .outputLacks⟩]

def task? (step : Step) : Option Task :=
  definitions.findSome? fun d ↦
    if d.purpose = step.purpose then (fill d.sentence step.text.toList).bind (d.task step.docString)
    else none

def play : List Step → Play
  | [] => .done
  | step :: steps =>
    match task? step with
    | none => .done
    | some task => .call task fun failure ↦ if failure.isNone then play steps else .done

inductive Status where
  | passed
  | failed
  | error
  | undefined
  | skipped
  deriving DecidableEq, Repr

def Status.ofFailure : Option Failure → Status
  | none => passed
  | some .assertion => failed
  | some _ => error

def statuses : List Step → List Result → List Status
  | [], _ => []
  | _ :: steps, result :: results => .ofFailure result.failure :: statuses steps results
  | step :: steps, [] =>
    (if (task? step).isSome then .skipped else .undefined) :: statuses steps []

def verdict (statuses : List Status) : Status :=
  match statuses.find? (· ≠ .passed) with
  | none => .passed
  | some .failed => .failed
  | some _ => .error

end GherkinLint.Behave
