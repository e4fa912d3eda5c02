import Scenario.Span

/-! # Scripts as trees

A script is a list of statements: labels, tags on their own, and runs of prose with the tags that
stand inside them. `Node` is the wider type of trees that can be walked: there any node may stand
below any other, and a node may be of no particular sort.
-/

namespace Scenario

/-- A directive or a tag, with everything between its delimiters (`Tag`). -/
structure Tag where
  span : Span
  text : String
  deriving DecidableEq

/-- A statement of a script. -/
inductive Statement where
  /-- A label with the names of its segments (`Label`). -/
  | label (span : Span) (names : List String)
  /-- A tag on its own. -/
  | tag (tag : Tag)
  /-- A run of prose with the tags inside it, in their order (`Text`). -/
  | prose (span : Span) (text : String) (tags : List Tag)
  deriving DecidableEq

/-- A whole script (`Script`). -/
structure Script where
  span : Span
  statements : List Statement
  deriving DecidableEq

/-- A tree of nodes (`Node`). -/
inductive Node where
  | script (span : Span) (children : List Node)
  | label (span : Span) (names : List String)
  | tag (span : Span) (text : String)
  | prose (span : Span) (text : String) (tags : List Node)
  /-- A node of no particular sort. -/
  | bare (span : Span)

namespace Node

/-- Where the node stands. -/
def span : Node → Span
  | .script span _ | .label span _ | .tag span _ | .prose span _ _ | .bare span => span

/-- The nodes directly below a node. -/
def children : Node → List Node
  | .script _ children => children
  | .prose _ _ tags => tags
  | .label _ _ | .tag _ _ | .bare _ => []

end Node

/-- A tag as a node. -/
def Tag.toNode (tag : Tag) : Node := .tag tag.span tag.text

/-- A statement as a node. -/
def Statement.toNode : Statement → Node
  | .label span names => .label span names
  | .tag alone => alone.toNode
  | .prose span text tags => .prose span text (tags.map Tag.toNode)

/-- A script as a node. -/
def Script.toNode (script : Script) : Node :=
  .script script.span (script.statements.map Statement.toNode)

end Scenario
