/-! # Delimiters of a scenario

A scenario mixes prose with markup. At the start of a line `@` opens a directive, `*` a label and
`[` a tag; `]` closes a tag and `|` divides the segments of a label. This module names the classes
of characters that scanning looks for.
-/

namespace Scenario.Delimiter

/-- Carriage return and line feed (`is_newline`). -/
def isNewline (c : Char) : Bool := c == '\r' || c == '\n'

/-- The characters that may be skipped before a line: space, tab and the newline characters
(`is_whitespace`). -/
def isBlank (c : Char) : Bool := c == ' ' || c == '\t' || isNewline c

/-- Every delimiter of the markup, the newline characters among them (`is_reserved`). -/
def isReserved (c : Char) : Bool :=
  c == '@' || c == '*' || c == '[' || c == ']' || c == '|' || isNewline c

/-- The characters that end a segment of a label (`LABEL_STOP`). -/
def endsSegment (c : Char) : Bool := c == '|' || isNewline c

/-- The characters at which prose may give way to markup (`TEXT_STOP`). -/
def opensMarkup (c : Char) : Bool := c == '@' || c == '*' || c == '['

/-- A class of characters asked of a text. Only a text of exactly one character can belong to
it. -/
def ofText (member : Char → Bool) (s : String) : Bool :=
  match s.toList with
  | [c] => member c
  | _ => false

/-- The class of the characters that the given texts spell; texts of other lengths name none. -/
def spelledBy (texts : List String) (c : Char) : Bool :=
  texts.any (ofText (· == c))

end Scenario.Delimiter
