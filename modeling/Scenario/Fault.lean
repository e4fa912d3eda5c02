import Scenario.Span

/-! # Faults

A scan ends early for one of four causes. Each belongs to a category, the categories form a
hierarchy, and a diagnostic is the text of a fault together with the place it names.
-/

namespace Scenario

/-- Categories of failure, from the most general (`KagScriptError`) to the most special. -/
inductive Category where
  | general
  /-- A scan fails (`ParseError`). -/
  | parse
  /-- A tag or a directive is not finished (`InvalidTagError`). -/
  | invalidTag
  /-- A label is not finished (`InvalidLabelError`). -/
  | invalidLabel
  /-- A subscription is not held (`ListenerError`). -/
  | listener
  deriving DecidableEq

namespace Category

/-- All categories. -/
def all : List Category := [.general, .parse, .invalidTag, .invalidLabel, .listener]

/-- The category and all that are more general than it. -/
def lineage : Category → List Category
  | .general => [.general]
  | .parse => [.parse, .general]
  | .invalidTag => [.invalidTag, .parse, .general]
  | .invalidLabel => [.invalidLabel, .parse, .general]
  | .listener => [.listener, .general]

/-- Whether failures of the category name a place in the source. -/
def isPlaced (category : Category) : Bool := category.lineage.contains .parse

end Category

/-- A failure with the place it names, as far as the place is known (`ParseError`). -/
structure Diagnostic where
  text : String
  line : Option Int := none
  column : Option Int := none
  file : Option String := none
  deriving DecidableEq

namespace Diagnostic

/-- The parts of the place that are known, file first. A column without a line is not shown. -/
def parts (diagnostic : Diagnostic) : List String :=
  (Span.named diagnostic.file).toList ++
    match diagnostic.line with
    | none => []
    | some line => toString line :: (diagnostic.column.map toString).toList

/-- A text without the colons at its end. -/
def dropColons (s : String) : String :=
  String.ofList (s.toList.reverse.dropWhile (· == ':')).reverse

/-- The text behind its place (`ParseError.__init__`). Each part of the place is written with a
colon after it, and the colons at the end of that are replaced by a space, those of a file name
too. -/
def message (diagnostic : Diagnostic) : String :=
  match diagnostic.parts with
  | [] => diagnostic.text
  | parts => dropColons (String.join (parts.map (· ++ ":"))) ++ " " ++ diagnostic.text

end Diagnostic

/-- Why a scan ends early. -/
inductive Cause where
  /-- A directive runs to the end of the input. -/
  | openDirective
  /-- A label opens at the end of the input. -/
  | namelessLabel
  /-- A segment of a label runs to the end of the input. -/
  | openLabel
  /-- A tag runs to the end of the input where tags have to be closed. -/
  | openTag
  deriving DecidableEq

/-- The words for a cause. -/
def Cause.text : Cause → String
  | .openDirective => "directive is not terminated by a newline"
  | .namelessLabel => "label has no name"
  | .openLabel => "label is not terminated by '|' or a newline"
  | .openTag => "inline tag is missing its closing ']'"

/-- The category that a cause belongs to. -/
def Cause.category : Cause → Category
  | .openDirective | .openTag => .invalidTag
  | .namelessLabel | .openLabel => .invalidLabel

/-- A cause and the place of the construct that was not finished. -/
structure Fault where
  cause : Cause
  place : Span
  deriving DecidableEq

/-- The fault as a diagnostic. -/
def Fault.diagnostic (fault : Fault) : Diagnostic :=
  { text := fault.cause.text, line := some fault.place.line, column := some fault.place.column,
    file := fault.place.file }

end Scenario
