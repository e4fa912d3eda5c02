import Scenario.Scan.Pass
import Scenario.Text.Buffer
import Scenario.Text.Lines

/-! # WebGAL statements

A scenario is written for WebGAL as one line per statement: each line of prose that is not blank is
said, and each label is named after its first segment. Tags have no counterpart there.
-/

namespace Scenario.WebGal

/-- A statement of a WebGAL script. -/
inductive Statement where
  /-- A line that is said. -/
  | say (line : String)
  /-- A place to jump to. -/
  | label (name : String)
  deriving DecidableEq

/-- The line that a statement is written as (`WebGalPrinter._emit`). -/
def Statement.render : Statement → String
  | .say line => (((Text.Buffer.empty.append ":").append line).append ";\n").text
  | .label name => (((Text.Buffer.empty.append "label:").append name).append ";\n").text

/-- Statements written one after another. -/
def render (statements : List Statement) : String :=
  String.join (statements.map Statement.render)

/-- The lines of a text that are not blank, without the space around them (the loop of
`WebGalPrinter.on_text`). -/
def sayings (s : String) : List String :=
  (((Text.lines s.toList).map Text.trim).filter fun line => !line.isEmpty).map String.ofList

/-- A script that is being written (`WebGalPrinter`). -/
structure Printer where
  /-- Where the last segment of a label stops, if nothing but segments came since. -/
  labelStop : Option Int := none
  /-- The statements written so far. -/
  written : Array Statement := #[]

namespace Printer

/-- The tokens that matter to the printer (`WebGalPrinter.accepts`). -/
def accepts (token : Token) : Bool := token.kind == .text || token.kind == .label

/-- Whether a segment continues the label before it: exactly one character lies between them. -/
def continues (p : Printer) (token : Token) : Bool :=
  p.labelStop.any fun stop => token.start = stop + 1

/-- The statements that a token gives (`WebGalPrinter.on_text`, `WebGalPrinter.on_label`). -/
def statements (p : Printer) (token : Token) : List Statement :=
  match token.kind with
  | .text => (sayings token.value).map .say
  | .label => if p.continues token then [] else [.label token.value]
  | .tag | .endOfInput => []

/-- The printer after a token (`WebGalPrinter.on_token`). -/
def receive (p : Printer) (token : Token) : Printer :=
  { labelStop :=
      match token.kind with
      | .text => none
      | .label => some token.stop
      | .tag | .endOfInput => p.labelStop
    written := p.written ++ p.statements token }

/-- Everything written so far. -/
def output (p : Printer) : String := render p.written.toList

end Printer

/-- The statements for the tokens of a scenario. -/
def ofTokens (tokens : List Token) : List Statement :=
  ((tokens.filter Printer.accepts).foldl Printer.receive {}).written.toList

end Scenario.WebGal

namespace Scenario

/-- A scenario written for WebGAL, or the fault that ends the scan early (`to_webgal`). -/
def toWebGal (source : String) (file : Option String) (options : Options) :
    Except Fault String :=
  (tokenize source file options).map fun tokens => WebGal.render (WebGal.ofTokens tokens)

end Scenario
