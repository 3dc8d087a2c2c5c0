import GherkinLint.Packages.Gherkin.Line

namespace GherkinLint.Gherkin

inductive Scope where
  | feature
  | group
  deriving DecidableEq, Repr

inductive Owner where
  | background
  | scenario
  deriving DecidableEq, Repr

inductive StepPart where
  | line
  | table
  | tableDocString
  | tableDocStringEnd
  | docString
  | docStringEnd
  | docStringTable
  deriving DecidableEq, Repr

/-- A place in a feature file. `described` tells whether a description has begun. -/
inductive Place where
  | start
  | language
  | featureTags
  | feature (described : Bool)
  | groupTags
  | group (described : Bool)
  | background (scope : Scope) (described : Bool)
  | scenarioTags (scope : Scope)
  | scenario (scope : Scope) (described : Bool)
  | step (scope : Scope) (owner : Owner) (part : StepPart)
  | examplesTags (scope : Scope)
  | examples (scope : Scope) (described : Bool)
  | examplesTable (scope : Scope)
  | finish
  deriving DecidableEq, Repr

structure Alternative where
  kind : Kind
  /-- The kind of the first line ahead that is not blank, a comment or a line of tags, where that
  matters. -/
  ahead : Option Kind
  next : Place
  deriving DecidableEq, Repr

namespace Place

def inTable : Place → Bool
  | step _ _ .table => true
  | step _ _ .docStringTable => true
  | examplesTable _ => true
  | _ => false

def on (kind : Kind) (next : Place) : Alternative := ⟨kind, none, next⟩

def tagsBefore (kind : Kind) (next : Place) : Alternative := ⟨.tags, some kind, next⟩

def following (scope : Scope) : List Alternative :=
  [tagsBefore .scenario (scenarioTags scope), on .tags groupTags,
    on .scenario (scenario scope false), on .group (group false)]

def followingInScenario (scope : Scope) : List Alternative :=
  [tagsBefore .examples (examplesTags scope), tagsBefore .scenario (scenarioTags scope),
    on .tags groupTags, on .examples (examples scope false), on .scenario (scenario scope false),
    on .group (group false)]

def followingStep (scope : Scope) : Owner → List Alternative
  | .background => following scope
  | .scenario => followingInScenario scope

/-- Comments and blank lines, which change nothing. -/
def pause (here : Place) : List Alternative := [on .comment here, on .blank here]

/-- A heading, at whose place blank lines are passed over until a description begins; its first
line may be a comment. -/
def heading (described : Bool) (withDescription : Place) (here : Place)
    (more : List Alternative) : List Alternative :=
  on .eof finish ::
    ((if described then [on .comment withDescription]
      else [on .blank here, on .comment withDescription]) ++
    more ++ [on .other withDescription])

def stepAlternatives (scope : Scope) (owner : Owner) (part : StepPart) :
    List Alternative :=
  let here := step scope owner
  let more := on .step (here .line) :: followingStep scope owner ++ pause (here part)
  match part with
  | .line => on .eof finish :: on .row (here .table) :: on .fence (here .docString) :: more
  | .table => on .eof finish :: on .row (here .table) :: on .fence (here .tableDocString) :: more
  | .tableDocString => [on .fence (here .tableDocStringEnd), on .other (here .tableDocString)]
  | .tableDocStringEnd => on .eof finish :: more
  | .docString => [on .fence (here .docStringEnd), on .other (here .docString)]
  | .docStringEnd => on .eof finish :: on .row (here .docStringTable) :: more
  | .docStringTable => on .eof finish :: on .row (here .docStringTable) :: more

def alternatives : Place → List Alternative
  | start =>
    [on .eof finish, on .language language, on .tags featureTags, on .feature (feature false)] ++
      pause start
  | language => [on .tags featureTags, on .feature (feature false)] ++ pause language
  | featureTags => [on .tags featureTags, on .feature (feature false)] ++ pause featureTags
  | feature described =>
    heading described (feature true) (feature false)
      (on .background (background .feature false) :: following .feature)
  | groupTags => [on .tags groupTags, on .group (group false)] ++ pause groupTags
  | group described =>
    heading described (group true) (group false)
      (on .background (background .group false) :: following .group)
  | background scope described =>
    heading described (background scope true) (background scope false)
      (on .step (step scope .background .line) :: following scope)
  | scenarioTags scope =>
    [on .tags (scenarioTags scope), on .scenario (scenario scope false)] ++
      pause (scenarioTags scope)
  | scenario scope described =>
    heading described (scenario scope true) (scenario scope false)
      (on .step (step scope .scenario .line) :: followingInScenario scope)
  | step scope owner part => stepAlternatives scope owner part
  | examplesTags scope =>
    [on .tags (examplesTags scope), on .examples (examples scope false)] ++
      pause (examplesTags scope)
  | examples scope described =>
    heading described (examples scope true) (examples scope false)
      (on .row (examplesTable scope) :: followingInScenario scope)
  | examplesTable scope =>
    [on .eof finish, on .row (examplesTable scope)] ++ followingInScenario scope ++
      pause (examplesTable scope)
  | finish => []

def expected (place : Place) : List Kind :=
  place.alternatives.foldl
    (fun kinds a ↦ if a.kind ∈ kinds then kinds else kinds ++ [a.kind]) []

end Place

end GherkinLint.Gherkin
