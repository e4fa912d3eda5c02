import Scenario.Text.Printable

/-! # Quoted text

A quotation shows a text on one line of printable characters. It stands in single quotes, or in
double quotes if the text has a single quote in it and no double quote. The backslash and the quote
in use are escaped, line feed, carriage return and tab have short forms, and any other character
that is not printable is given by its code point.
-/

namespace Scenario.Text

/-- The quote that a quotation of the text stands in. -/
def quoteOf (s : List Char) : Char :=
  if s.contains '\x27' && !s.contains '"' then '"' else '\x27'

/-- A code point in hexadecimal digits, filled up with zeros to the given width. -/
def hex (width code : Nat) : List Char :=
  let digits := Nat.toDigits 16 code
  List.replicate (width - digits.length) '0' ++ digits

/-- One character inside a quotation that stands in the given quote. -/
def escape (quote c : Char) : List Char :=
  if c == '\\' || c == quote then ['\\', c]
  else if c == '\n' then ['\\', 'n']
  else if c == '\r' then ['\\', 'r']
  else if c == '\t' then ['\\', 't']
  else if isPrintable c then [c]
  else if c.toNat < 0x100 then '\\' :: 'x' :: hex 2 c.toNat
  else if c.toNat < 0x10000 then '\\' :: 'u' :: hex 4 c.toNat
  else '\\' :: 'U' :: hex 8 c.toNat

/-- The text as a quotation (`repr`). -/
def quoted (s : String) : String :=
  let quote := quoteOf s.toList
  String.ofList (quote :: s.toList.flatMap (escape quote) ++ [quote])

end Scenario.Text
