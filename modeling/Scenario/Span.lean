import Scenario.Position

/-! # Stretches of a source

A `Span` says where something stands: the line and column at which it starts, the offsets at which
it starts and stops, and, once it has been joined with a later span, the line and column of that
later one. Coordinates are whole numbers of any size and sign, because a span may be made by hand.
-/

namespace Scenario

/-- Where something stands in a source (`SourceLocation`). -/
structure Span where
  line : Int := 1
  column : Int := 1
  offset : Int := 0
  stop : Int := 0
  stopLine : Option Int := none
  stopColumn : Option Int := none
  file : Option String := none
  deriving DecidableEq

namespace Span

/-- The name of a file if there is one; an empty name is no name. -/
def named (file : Option String) : Option String :=
  file.filter fun name => name != ""

/-- The span as text: file, line and column, joined by colons (`SourceLocation.__str__`). -/
def render (span : Span) : String :=
  let place := toString span.line ++ ":" ++ toString span.column
  match named span.file with
  | some file => file ++ ":" ++ place
  | none => place

/-- A coordinate, or another one in its place if it is zero. -/
def orElse (coordinate other : Int) : Int :=
  if coordinate = 0 then other else coordinate

/-- The span from the start of one span to the end of another (`SourceLocation.span_to`). An end
that the other span does not give, or gives as zero, is taken from its start. -/
def through (span other : Span) : Span :=
  { span with
    stop := orElse other.stop other.offset
    stopLine := some (orElse (other.stopLine.getD 0) other.line)
    stopColumn := some (orElse (other.stopColumn.getD 0) other.column) }

end Span

/-- The empty span at a position. -/
def Position.toSpan (p : Position) (file : Option String) : Span :=
  { line := p.line, column := p.column, offset := p.offset, stop := p.offset, file }

end Scenario
