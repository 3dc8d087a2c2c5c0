import GherkinLint.Document.Decode
import GherkinLint.FileTree
import GherkinLint.Text.Blank
import GherkinLint.Text.Utf8

namespace GherkinLint

/-- An exception of another program, which is not looked into. -/
structure Raised where
  kind : String
  message : String
  deriving DecidableEq, Repr

inductive ParserFault where
  | parserError (message : String)
  | raised (e : Raised)
  deriving DecidableEq, Repr

/-- A parser of feature files: it turns a text into a message that describes a document. -/
abbrev Parser := String → Except ParserFault Data

structure Unreadable where
  uri : String
  reason : String
  deriving DecidableEq, Repr

def Unreadable.message (e : Unreadable) : String :=
  if e.uri = "" then e.reason else e.uri ++ ": " ++ e.reason

inductive SourceFault where
  | unreadable (e : Unreadable)
  | message (fault : MessageFault)
  | raised (e : Raised)
  deriving DecidableEq, Repr

def Document.ofText (parse : Parser) (uri text : String) : Except SourceFault Document :=
  match parse text with
  | .error (.parserError message) => .error (.unreadable ⟨uri, message⟩)
  | .error (.raised e) => .error (.raised e)
  | .ok d => (Document.ofMessage uri d).mapError .message

inductive Source where
  | text (uri text : String)
  | message (uri : String) (message : Data)

def Source.document (parse : Parser) : Source → Except SourceFault Document
  | .text uri written => Document.ofText parse uri written
  | .message uri d => (Document.ofMessage uri d).mapError .message

/-- The text of a file, with uniform line ends, or why it has none. -/
def FileSystem.readText (fs : FileSystem) (path : Path) : Except String String :=
  match fs.read path with
  | .error fault => .error (fault.message path)
  | .ok bytes =>
    match Text.Utf8.decode bytes with
    | .error fault => .error fault.message
    | .ok s => .ok (String.ofList (Text.uniformLineEnds s))

def Document.ofFile (parse : Parser) (fs : FileSystem) (path : Path) :
    Except SourceFault Document :=
  match fs.readText path with
  | .error reason => .error (.unreadable ⟨path.text, reason⟩)
  | .ok text => Document.ofText parse path.text text

end GherkinLint
