import Scenario.Scan.Pass
import Scenario.Text.Quoted

/-! # The journal of the tools

The tools write records about their work. A record has a level, the name of its logger and a text.
The names of all loggers begin with that of one root. The root has a level, below which records are
dropped, and handlers, which write records to streams and have levels of their own. At most one
handler is the tools' own (`enable`); any others are plain and write the text alone.

A logger hands its records to its parent, which is the nearest logger whose name encloses its own,
and only what comes to the root this way is written (`reaches`). Loggers are made when they are
first asked for, and a new one may come between others and their parents. Whether it keeps records
of a level, a logger works out once; it stays with the answer until the level of the root is set.
-/

namespace Scenario

namespace Journal

/-! ## Levels -/

/-- The levels that have names. The first name of a level is the one it is written with. -/
def levels : List (String × Int) :=
  [("NOTSET", 0), ("DEBUG", 10), ("INFO", 20), ("WARNING", 30), ("WARN", 30), ("ERROR", 40),
   ("CRITICAL", 50), ("FATAL", 50)]

/-- The name that a level is written with. -/
def levelName (level : Int) : String :=
  match levels.find? fun entry => entry.2 = level with
  | some (name, _) => name
  | none => "Level " ++ toString level

/-- A level as it is asked for. -/
inductive Level where
  | number (level : Int)
  | name (name : String)
  deriving DecidableEq

/-- The level that is asked for, unless its name is unknown. -/
def Level.resolve : Level → Except String Int
  | .number level => .ok level
  | .name given =>
      match levels.lookup given with
      | some level => .ok level
      | none => .error given

/-! ## Loggers -/

/-- The name of the root (`ROOT_LOGGER`). -/
def root : String := "kagscript"

/-- The full name of a logger: names that do not stand under the root are put under it
(`get_logger`). -/
def loggerName (name : String) : String :=
  if name = root || (root ++ ".").toList.isPrefixOf name.toList then name
  else root ++ "." ++ name

/-- The loggers that the tools themselves write with. -/
def toolLoggers : List String :=
  [root ++ ".listeners", root ++ ".lexer.driver", root ++ ".lexer.rules"]

/-- The names that enclose a name, the nearest first. All are read from their ends. An enclosing
name stops before a dot, and the search for the next dot passes over its last character. So where
dots stand side by side, every other one of them is missed. -/
def enclosing : List Char → List (List Char)
  | '.' :: last :: front => (last :: front) :: enclosing front
  | _ :: front => enclosing front
  | [] => []

theorem length_lt_of_mem_enclosing {name up : List Char} (encloses : up ∈ enclosing name) :
    up.length < name.length := by
  fun_induction enclosing name with
  | case1 last front ih =>
    rcases List.mem_cons.1 encloses with rfl | further
    · simp
    · have shorter := ih further
      simp only [List.length_cons]
      omega
  | case2 c front _ ih =>
    have shorter := ih encloses
    simp only [List.length_cons]
    omega
  | case3 => cases encloses

/-- A record. -/
structure Entry where
  level : Int
  /-- The full name of the logger. -/
  logger : String
  text : String
  deriving DecidableEq

/-- A handler of records. -/
structure Handler where
  /-- Whether it is the tools' own. -/
  own : Bool
  level : Int := 0
  /-- The stream that it writes to; without a name it is the standard error stream. -/
  stream : Option String
  deriving DecidableEq

/-- The line that a handler writes for a record (`LOG_FORMAT`). -/
def Handler.render (handler : Handler) (entry : Entry) : String :=
  if handler.own then
    levelName entry.level ++ " " ++ entry.logger ++ ": " ++ entry.text ++ "\n"
  else entry.text ++ "\n"

/-- A text that was written to a stream. -/
structure Writing where
  stream : Option String
  text : String
  deriving DecidableEq

/-- The level below which records are dropped while the root has none. -/
def inherited : Int := 30

end Journal

/-- The root of all loggers, and what is known of the others. -/
structure Journal where
  level : Int := 0
  handlers : List Journal.Handler := []
  /-- The streams that have been named. -/
  streams : List String := []
  /-- The full names of the loggers that there are. -/
  loggers : List String := Journal.root :: Journal.toolLoggers
  /-- Whether a logger keeps records of a level, as far as it has worked that out. -/
  answers : List ((String × Int) × Bool) := []
  deriving DecidableEq

namespace Journal

/-! ## Parents -/

/-- The logger that a logger hands its records to, if there is one (`_fixupParents`). -/
def parent? (journal : Journal) (name : String) : Option String :=
  ((enclosing name.toList.reverse).map fun up => String.ofList up.reverse).find?
    journal.loggers.contains

theorem length_parent? {journal : Journal} {name up : String}
    (parent : journal.parent? name = some up) : up.length < name.length := by
  obtain ⟨chars, encloses, rfl⟩ := List.mem_map.1 (List.mem_of_find?_eq_some parent)
  simpa [String.length_toList] using length_lt_of_mem_enclosing encloses

/-- Whether the records of a logger come to the root. -/
def reaches (journal : Journal) (name : String) : Bool :=
  if name = root then true
  else
    match _ : journal.parent? name with
    | none => false
    | some up => journal.reaches up
termination_by name.length
decreasing_by
  apply length_parent?
  assumption

/-! ## Records -/

/-- The level from which on records that come to the root are kept (`getEffectiveLevel`). A root at
level zero leaves it to what is above. -/
def threshold (journal : Journal) : Int :=
  if journal.level = 0 then inherited else journal.level

/-- Whether a logger keeps records of a level at all. Those of level zero and below it never does.
Away from the root the level of the root does not count. -/
def keeps (journal : Journal) (logger : String) (level : Int) : Bool :=
  0 < level && (if journal.reaches logger then journal.threshold else inherited) ≤ level

/-- Ask for a logger by its full name. It is made if there is none. -/
def addLogger (journal : Journal) (logger : String) : Journal :=
  if journal.loggers.contains logger then journal
  else { journal with loggers := journal.loggers ++ [logger] }

/-- Ask a logger whether it keeps records of a level (`isEnabledFor`). An answer that it has given
before is given again, whatever its parents are now. -/
def ask (journal : Journal) (logger : String) (level : Int) : Journal × Bool :=
  match journal.answers.lookup (logger, level) with
  | some kept => (journal, kept)
  | none =>
      let kept := journal.keeps logger level
      ({ journal with answers := ((logger, level), kept) :: journal.answers }, kept)

/-- What handlers write for a record (`callHandlers`). -/
def writings (handlers : List Handler) (entry : Entry) : List Writing :=
  (handlers.filter fun handler => handler.level ≤ entry.level).map fun handler =>
    { stream := handler.stream, text := handler.render entry }

/-- Write a record: its logger is asked for and keeps it or not, and the handlers write what comes
to the root. -/
def write (journal : Journal) (entry : Entry) : Journal × List Writing :=
  let (journal, kept) := (journal.addLogger entry.logger).ask entry.logger entry.level
  (journal, if kept && journal.reaches entry.logger then writings journal.handlers entry else [])

/-- Write records one after another. -/
def writeAll (journal : Journal) : List Entry → Journal × List Writing
  | [] => (journal, [])
  | entry :: rest =>
      let (journal, first) := journal.write entry
      let (journal, others) := journal.writeAll rest
      (journal, first ++ others)

/-- Know a stream by name from now on. -/
def addStream (journal : Journal) (stream : Option String) : Journal :=
  match stream with
  | none => journal
  | some stream =>
      if journal.streams.contains stream then journal
      else { journal with streams := journal.streams ++ [stream] }

/-- Add a handler after all others. -/
def attach (journal : Journal) (handler : Handler) : Journal :=
  { journal with handlers := journal.handlers ++ [handler] }

/-- The journal with the tools' own handler attached, and the place of that handler. -/
def ensureOwn (journal : Journal) (stream : Option String) : Journal × Nat :=
  match journal.handlers.findIdx? (·.own) with
  | some index => (journal, index)
  | none => (journal.attach { own := true, stream }, journal.handlers.length)

/-- Write records from a level on with the tools' own handler, which is attached first if there is
none (`enable_logging`). Answers with the place of the handler, or with a level's name that is
unknown; no level changes in that case. Once the level is set, all loggers work out anew what they
keep. -/
def enable (journal : Journal) (level : Level) (stream : Option String) :
    Journal × Except String Nat :=
  let (journal, index) := (journal.addStream stream).ensureOwn stream
  match level.resolve with
  | .error name => (journal, .error name)
  | .ok level =>
      ({ journal with
          level
          handlers := journal.handlers.modify index fun handler => { handler with level }
          answers := [] },
        .ok index)

/-! ## Records of a scan -/

/-- The records of registering listeners, taking each back and registering it anew, one listener
after another. -/
def registrations (listeners : Nat) : List Entry :=
  (List.range listeners).flatMap fun i =>
    let title := "<listener " ++ toString i ++ ">"
    let entry (text : String) : Entry :=
      { level := 10, logger := root ++ ".listeners", text }
    let registered :=
      entry ("Registered listener " ++ title ++ " (" ++ toString (i + 1) ++ " total)")
    [registered, entry ("Unregistered listener " ++ title), registered]

/-- The records of a pass with a number of listeners: one when it begins, one for each warning, and
one when it has come to the end of the input. -/
def passEntries (start : Cursor) (pass : Scan.Pass) (listeners : Nat) : List Entry :=
  let title := (Span.named start.file).getD "<string>"
  let driver (text : String) : Entry :=
    { level := 10, logger := root ++ ".lexer.driver", text }
  let warning (place : Span) : Entry :=
    { level := 30
      logger := root ++ ".lexer.rules"
      text := place.render ++ ": inline tag has no closing ']', read to end of input" }
  let length := start.behind.length + start.ahead.length
  driver ("Parsing " ++ title ++ " (" ++ toString length ++ " chars, " ++ toString listeners ++
      " listeners)") ::
    pass.warnings.map warning ++
    match pass.fault with
    | some _ => []
    | none =>
        [driver ("Finished " ++ title ++ ": " ++ toString pass.cursor.count ++ " tokens")]

/-! ## Actions -/

/-- What can be done with a journal. -/
inductive Action where
  | enable (level : Level) (stream : Option String)
  /-- Attach a plain handler with a level of its own. -/
  | plain (stream : String) (level : Int := 0)
  /-- Write a record with the logger of a name. -/
  | log (name : String) (level : Int) (text : String)
  /-- Scan a source while listeners are registered. -/
  | scan (source : String) (file : Option String) (options : Options) (listeners : Nat)

/-- Why an action fails. -/
inductive Failure where
  | unknownLevel (name : String)
  | fault (fault : Fault)
  deriving DecidableEq

/-- The words for a failure. -/
def Failure.message : Failure → String
  | .unknownLevel name => "Unknown level: " ++ Text.quoted name
  | .fault cause => cause.diagnostic.message

/-- What an action answers. -/
inductive Reply where
  | nothing
  /-- The place of the tools' own handler and the name of the level it has now. -/
  | enabled (handler : Nat) (level : String)
  /-- The number of tokens that were read. -/
  | count (tokens : Nat)
  deriving DecidableEq

/-- What is known after an action. -/
structure Report where
  result : Except Failure Reply
  /-- The journal after the action. -/
  journal : Journal
  /-- What was written during the action. -/
  written : List Writing := []

/-- What an action wrote to a stream. -/
def Report.textOn (report : Report) (stream : Option String) : String :=
  String.join ((report.written.filter fun writing => writing.stream = stream).map (·.text))

/-- Do one thing. -/
def act (journal : Journal) : Action → Report
  | .enable level stream =>
      match journal.enable level stream with
      | (journal, .error name) => { result := .error (.unknownLevel name), journal }
      | (journal, .ok handler) =>
          { result := .ok (.enabled handler (levelName journal.level)), journal }
  | .plain stream level =>
      { result := .ok .nothing
        journal :=
          (journal.addStream (some stream)).attach
            { own := false, level, stream := some stream } }
  | .log name level text =>
      let (journal, written) := journal.write { level, logger := loggerName name, text }
      { result := .ok .nothing, journal, written }
  | .scan source file options listeners =>
      let start := Cursor.ofSource source file options
      let pass := Scan.pass start
      let (journal, written) :=
        journal.writeAll (registrations listeners ++ passEntries start pass listeners)
      { result :=
          match pass.fault with
          | some fault => .error (.fault fault)
          | none => .ok (.count pass.cursor.count)
        journal
        written }

/-- Do one thing after another, starting with an empty journal. -/
def run (actions : List Action) : List Report :=
  go {} actions
where
  /-- Do the rest. -/
  go (journal : Journal) : List Action → List Report
    | [] => []
    | action :: rest =>
        let report := journal.act action
        report :: go report.journal rest

end Journal

end Scenario
