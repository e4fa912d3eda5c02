import Scenario.Span
import Scenario.Text.Quoted

/-! # Tokens

Scanning a scenario gives tokens: stretches of prose, the contents of tags and directives, the
segments of labels, and one token for the end of the input.
-/

namespace Scenario

/-- The kinds of token (`TokenKind`). -/
inductive Kind where
  | text
  | tag
  | label
  | endOfInput
  deriving DecidableEq

/-- All kinds, in the order in which they are listed. -/
def Kind.all : List Kind := [.text, .tag, .label, .endOfInput]

/-- The name of a kind. -/
def Kind.name : Kind → String
  | .text => "TEXT"
  | .tag => "TAG"
  | .label => "LABEL"
  | .endOfInput => "END_OF_INPUT"

/-- The kind of a given name. -/
def Kind.ofName? (name : String) : Option Kind :=
  Kind.all.find? fun kind => kind.name == name

/-- A piece of a scenario, without the delimiters around it (`TokenEvent`). -/
structure Token where
  kind : Kind
  value : String
  /-- Whether a tag stands right after prose on the same line. -/
  inline : Bool := false
  line : Int := 1
  column : Int := 1
  start : Int := 0
  stop : Int := 0
  file : Option String := none
  deriving DecidableEq

namespace Token

/-- Where the token stands (`TokenEvent.location`). -/
def span (token : Token) : Span :=
  { line := token.line, column := token.column, offset := token.start, stop := token.stop,
    file := token.file }

/-- A value in short: one of more than twenty characters is cut to seventeen and three dots. -/
def excerpt (value : String) : String :=
  if value.length > 20 then String.ofList (value.toList.take 17) ++ "..." else value

/-- The token on one line: its kind, an excerpt of its value, and its line and column
(`TokenEvent.__repr__`). -/
def describe (token : Token) : String :=
  "TokenEvent(" ++ token.kind.name ++ ", " ++ Text.quoted (excerpt token.value) ++ ", " ++
    toString token.line ++ ":" ++ toString token.column ++ ")"

end Token

end Scenario
