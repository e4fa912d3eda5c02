import Scenario.Observer
import Scenario.Scan.Rule

/-! # Commands of a session

A session drives any number of named cursors by commands. A listener that is registered by a
command may have reactions, which are commands again, so that scanning can be driven from inside
the delivery of a token, to any depth.
-/

namespace Scenario.Session

/-- The name of the cursor that a step is for if nothing else says so. -/
def mainCursor : String := "c"

/-- A command and the cursor it is for, if it names one. -/
structure Step (γ : Type) where
  cursor : Option String := none
  command : γ

/-- A step that a listener takes when it is called: on the call of the given number, counted from
one, or on every call, and only with a token of the given class. -/
structure Reaction (γ : Type) where
  call : Option Int := none
  given : Token → Bool := fun _ => true
  step : Step γ

/-- What a session can be told to do. -/
inductive Command where
  /-- Put a new cursor at the start of a source, under the name of the cursor it is for
  (`new_cursor`). Without options of its own it takes those that are active. -/
  | create (source : String) (file : Option String) (options : Option Options)
  | peek (distance : Int)
  | advance
  | skipOne
  | skipBlanks
  | skipNewline
  /-- Record up to the next of some characters (`Cursor.scan_until_any`). -/
  | recordUntil (stops : List String)
  /-- Make a token of what was recorded (`Cursor.finalize_token`). -/
  | finalize (kind : Kind) (inline : Bool)
  | place
  | describe
  | inspect
  /-- Follow one rule of the scan (`dispatch_line` and the `parse_*` functions). -/
  | follow (rule : Scan.Rule)
  /-- Scan to the end of the input (`start_parse`). -/
  | start
  /-- Deliver a token that was not scanned (`Cursor.notify`). -/
  | notify (token : Token)
  /-- Subscribe a listener that records what it is given and then reacts (`register_listener`, or
  `Cursor.register` for whole tokens). With `like`, the listener that was last registered under that
  name is subscribed once more. -/
  | register (name : String) (filter : Filter) (whole : Bool) (reactions : List (Reaction Command))
      (like : Option String)
  /-- Take back the latest subscription made under a name (`Cursor.unregister`). -/
  | unregister (name : String)
  | subscribers
  /-- Subscribe an observer (`TokenObserver.attach`). -/
  | observe (name : String) (observer : Observer)
  /-- Subscribe a builder of scripts (`AstBuilder`). -/
  | build (name : String)
  | script (name : String)
  /-- Subscribe a printer of WebGAL statements (`WebGalPrinter`). -/
  | print (name : String)
  | output (name : String)
  /-- Make options the active ones (`set_parse_config`). -/
  | setOptions (options : Options)
  /-- Make the default options active (`reset_parse_config`). -/
  | resetOptions
  /-- Ask for the active options (`get_parse_config`). -/
  | getOptions
  /-- Scan a source apart from all cursors, with the active options (`tokenize`). -/
  | tokenize (source : String)
  /-- Take steps with other options active, until one fails (`parse_config_context`). -/
  | within (options : Options) (steps : List (Step Command))
  /-- Fail with a message. -/
  | raise (message : String)

end Scenario.Session
