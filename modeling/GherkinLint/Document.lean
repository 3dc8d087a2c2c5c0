namespace GherkinLint

structure Location where
  line : Int
  column : Option Int
  deriving DecidableEq, Repr

def Location.unknown : Location := ⟨0, none⟩

structure TableCell where
  location : Location
  value : Option String
  deriving DecidableEq, Repr

structure TableRow where
  location : Location
  cells : List TableCell
  deriving DecidableEq, Repr

structure DataTable where
  location : Location
  rows : List TableRow
  deriving DecidableEq, Repr

structure DocString where
  location : Location
  content : String
  delimiter : String
  deriving DecidableEq, Repr

inductive Argument where
  | table (table : DataTable)
  | docString (docString : DocString)
  deriving DecidableEq, Repr

structure Step where
  location : Location
  /-- With its trailing space, where the language writes one. -/
  keyword : String
  text : String
  argument : Option Argument
  deriving DecidableEq, Repr

structure Examples where
  location : Location
  keyword : String
  name : String
  header : Option TableRow
  body : List TableRow
  deriving DecidableEq, Repr

structure Scenario where
  location : Location
  keyword : String
  name : String
  steps : List Step
  examples : List Examples
  deriving DecidableEq, Repr

structure Background where
  location : Location
  keyword : String
  name : String
  steps : List Step
  deriving DecidableEq, Repr

structure Group (α : Type) where
  location : Location
  keyword : String
  name : String
  children : List α
  deriving Repr

/-- A part of a feature or of a group. Each of the three may be present or not. -/
inductive Child where
  | mk (scenario : Option Scenario) (background : Option Background) (group : Option (Group Child))
  deriving Repr

structure Feature where
  location : Location
  keyword : String
  name : String
  language : String
  children : List Child
  deriving Repr

structure Document where
  uri : String
  feature : Option Feature
  comments : List String
  deriving Repr

namespace Step

def dataTable (step : Step) : Option DataTable :=
  match step.argument with
  | some (.table table) => some table
  | _ => none

def docString (step : Step) : Option DocString :=
  match step.argument with
  | some (.docString docString) => some docString
  | _ => none

end Step

def Scenario.isOutline (scenario : Scenario) : Bool := !scenario.examples.isEmpty

namespace Child

def scenario : Child → Option Scenario
  | mk scenario _ _ => scenario

def background : Child → Option Background
  | mk _ background _ => background

def group : Child → Option (Group Child)
  | mk _ _ group => group

end Child

/-- The children of a feature, where a group stands for its own children. Groups inside a group
stay as they are. -/
def Feature.spread (feature : Feature) : List Child :=
  feature.children.flatMap fun child ↦
    match child.group with
    | some group => group.children
    | none => [child]

end GherkinLint
