import GherkinLint.Text.Quoted

namespace GherkinLint

abbrev Members (α : Type) := List (String × α)

/-- The members with a value put under a name: in the place of an earlier value, or else behind all
others. -/
def Members.put {α : Type} (name : String) (value : α) : Members α → Members α
  | [] => [(name, value)]
  | first :: rest => if first.1 = name then (name, value) :: rest else first :: put name value rest

def Members.names {α : Type} (members : Members α) : List String := members.map (·.1)

/-- A structured value: a message that describes a document, or the settings of a project. -/
inductive Data where
  | null
  | bool (value : Bool)
  | int (value : Int)
  /-- A number with a fraction or an exponent, by the way it is written. -/
  | fraction (written : String)
  /-- A date or a time: how it reads on its own, and inside another value. -/
  | moment (text written : String)
  | text (value : String)
  | list (items : List Data)
  | object (members : List (String × Data))
  deriving Repr, Inhabited

namespace Data

/-- Absent and empty are one: null, false, zero, and the text, list or object without content. -/
def isEmpty : Data → Bool
  | null => true
  | bool b => !b
  | int n => n == 0
  | fraction written => written == "0.0" || written == "-0.0"
  | moment _ _ => false
  | text s => s == ""
  | list items => items.isEmpty
  | object members => members.isEmpty

def text? : Data → Option String
  | text s => some s
  | _ => none

def int? : Data → Option Int
  | int n => some n
  | _ => none

mutual

def write : Data → String
  | null => "None"
  | bool true => "True"
  | bool false => "False"
  | int n => toString n
  | fraction written => written
  | moment _ written => written
  | text s => Text.quote s
  | list items => "[" ++ ", ".intercalate (writeItems items) ++ "]"
  | object members => "\x7b" ++ ", ".intercalate (writeMembers members) ++ "\x7d"

def writeItems : List Data → List String
  | [] => []
  | d :: items => write d :: writeItems items

def writeMembers : Members Data → List String
  | [] => []
  | (key, d) :: members => (Text.quote key ++ ": " ++ write d) :: writeMembers members

end

/-- A value on its own, where texts are not quoted. -/
def render : Data → String
  | text s => s
  | moment shown _ => shown
  | d => d.write

end Data

end GherkinLint
