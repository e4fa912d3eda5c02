/-! # Lines and surrounding space

Text is cut at every character that the Unicode standard names as a line boundary, and not only at
line feeds; the separators of information units (`U+001C` to `U+001E`) count too. Trimming takes
away every character with the white-space property and those separators.
-/

namespace Scenario.Text

/-- The characters at which a line ends. -/
def isBoundary (c : Char) : Bool :=
  let code := c.toNat
  (0x0a ≤ code && code ≤ 0x0d) || (0x1c ≤ code && code ≤ 0x1e) || code == 0x85 ||
    code == 0x2028 || code == 0x2029

/-- The characters that trimming takes away. -/
def isSpace (c : Char) : Bool :=
  let code := c.toNat
  (0x09 ≤ code && code ≤ 0x0d) || (0x1c ≤ code && code ≤ 0x20) || code == 0x85 ||
    code == 0xa0 || code == 0x1680 || (0x2000 ≤ code && code ≤ 0x200a) ||
    code == 0x2028 || code == 0x2029 || code == 0x202f || code == 0x205f || code == 0x3000

/-- Put one character at the start of the first line. -/
def consLine (c : Char) : List (List Char) → List (List Char)
  | [] => [[c]]
  | line :: lines => (c :: line) :: lines

/-- The lines of a text without the characters that end them (`splitlines`). A carriage return and
the line feed right after it end one line together. A text that ends in a boundary has no further
line after it. -/
def lines : List Char → List (List Char)
  | [] => []
  | '\r' :: '\n' :: rest => [] :: lines rest
  | c :: rest => if isBoundary c then [] :: lines rest else consLine c (lines rest)

/-- The text without the space on either side of it (`strip`). -/
def trim (s : List Char) : List Char :=
  ((s.dropWhile isSpace).reverse.dropWhile isSpace).reverse

end Scenario.Text
