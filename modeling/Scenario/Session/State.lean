import Scenario.Session.Command
import Scenario.Tree.Builder
import Scenario.WebGal

/-! # The state of a session

A session holds its scans, the consumers of tokens, and a log of what was delivered. Scans and
consumers are kept for good and known by number: a name can be given to another scan while the one
that had it is still being driven.
-/

namespace Scenario

/-- A cursor and who listens to it. -/
structure Scanner where
  cursor : Cursor
  registry : Registry := {}

namespace Session

/-- A listener that records what it is given and reacts. -/
structure Recorder where
  name : String
  /-- The cursor that its reactions are for if they name none. -/
  home : String
  reactions : List (Reaction Command) := []
  /-- How often it was called. -/
  calls : Nat := 0

/-- Who receives tokens. -/
inductive Consumer where
  | recorder (recorder : Recorder)
  | observer (name : String) (observer : Observer)
  | builder (name : String) (builder : Builder)
  | printer (name : String) (printer : WebGal.Printer)

/-- How a failure refers to a consumer. -/
def Consumer.title : Consumer → String
  | .recorder listener => "<listener " ++ listener.name ++ ">"
  | .observer name _ => method ("<observer " ++ name ++ ">")
  | .builder _ _ => method "<builder>"
  | .printer _ _ => method "<webgal>"
where
  /-- The entry point of a consumer that is more than a function. -/
  method (owner : String) : String := "<bound method TokenObserver.on_token of " ++ owner ++ ">"

/-- What was delivered to a consumer that keeps a record. -/
inductive Delivery where
  /-- The kind and the value of a token. -/
  | plain (name : String) (kind : Kind) (value : String)
  /-- A whole token. -/
  | whole (name : String) (token : Token)
  /-- A token at a hook of an observer. -/
  | call (name : String) (hook : Hook) (token : Token)
  deriving DecidableEq

/-- Why a step fails. -/
inductive Failure where
  | fault (fault : Fault)
  /-- A subscription was to be taken back where it is not held (`ListenerError`). -/
  | notRegistered (title : String)
  /-- A listener, a filter or a step failed on purpose. -/
  | raised (message : String)
  /-- A step is for something that does not exist. -/
  | unknown (name : String)
  /-- The bound on nested work was reached. -/
  | exhausted
  deriving DecidableEq

/-- The words for a failure. -/
def Failure.message : Failure → String
  | .fault cause => cause.diagnostic.message
  | .notRegistered title => "Listener " ++ title ++ " is not registered"
  | .raised message => message
  | .unknown name => name
  | .exhausted => "nested too deeply"

/-- What a step answers. -/
inductive Reply where
  | nothing
  | char (char : Option Char)
  | flag (flag : Bool)
  | text (text : String)
  | token (token : Token)
  | tokens (tokens : List Token)
  | place (place : Span)
  | source (source : String) (file : Option String) (options : Options)
  | names (names : List String)
  | script (script : Option Script)
  | options (options : Options)

/-- What is known after a step. -/
structure Report where
  result : Except Failure Reply
  /-- What was delivered during the step. -/
  trace : List Delivery := []
  /-- The scan of the cursor that the step was for, if there is one. -/
  scanner : Option Scanner := none
  /-- The reports on the steps inside this one, if it is one that has such. -/
  body : Option (List Report) := none

/-- What doing something gives: a reply, and the reports on steps inside it. -/
structure Answer where
  reply : Reply := .nothing
  body : Option (List Report) := none

end Session

/-- A session. -/
structure Session where
  /-- All scans, by number. -/
  scanners : Array Scanner := #[]
  /-- The numbers of the scans that have a name now, the latest first. -/
  cursors : List (String × Nat) := []
  /-- All consumers, by number. -/
  consumers : Array Session.Consumer := #[]
  /-- The subscriptions made under a name, the latest first. -/
  handles : List (String × Subscription) := []
  /-- The ticket of the next subscription. -/
  nextTicket : Nat := 0
  /-- The active options (`get_parse_config`). -/
  options : Options := {}
  /-- Everything that was delivered. -/
  log : Array Session.Delivery := #[]

namespace Session

/-- The number of the scan that has a name. -/
def find? (session : Session) (name : String) : Option Nat := session.cursors.lookup name

/-- The scan that has a name. -/
def scanner? (session : Session) (name : String) : Option Scanner := do
  session.scanners[← session.find? name]?

/-- Give a name to a new scan. -/
def create (session : Session) (name : String) (scanner : Scanner) : Session :=
  { session with
    scanners := session.scanners.push scanner
    cursors := (name, session.scanners.size) :: session.cursors }

/-- Change the cursor of a scan. -/
def modifyCursor (session : Session) (number : Nat) (change : Cursor → Cursor) : Session :=
  { session with
    scanners := session.scanners.modify number fun scanner =>
      { scanner with cursor := change scanner.cursor } }

/-- Change the registry of a scan. -/
def modifyRegistry (session : Session) (number : Nat) (change : Registry → Registry) : Session :=
  { session with
    scanners := session.scanners.modify number fun scanner =>
      { scanner with registry := change scanner.registry } }

/-- Add a consumer. It is known by the number of those before it. -/
def addConsumer (session : Session) (consumer : Consumer) : Session :=
  { session with consumers := session.consumers.push consumer }

/-- Subscribe a consumer to a scan under a name. -/
def subscribe (session : Session) (number : Nat) (name : String) (consumer : Nat)
    (filter : Filter) (whole : Bool) : Session :=
  let subscription : Subscription :=
    { ticket := session.nextTicket, name, consumer, filter, whole }
  { session.modifyRegistry number (·.register subscription) with
    handles := (name, subscription) :: session.handles
    nextTicket := session.nextTicket + 1 }

/-- Put a consumer in the place of another one. -/
def setConsumer (session : Session) (number : Nat) (consumer : Consumer) : Session :=
  { session with consumers := session.consumers.setIfInBounds number consumer }

/-- Add to the log. -/
def record (session : Session) (delivery : Delivery) : Session :=
  { session with log := session.log.push delivery }

/-- Whether the consumer of a number is a recorder. -/
def isRecorder (session : Session) (consumer : Nat) : Bool :=
  session.consumers[consumer]?.any fun
    | .recorder _ => true
    | _ => false

/-- The latest subscription made under a name. -/
def handle? (session : Session) (name : String) : Option Subscription :=
  session.handles.lookup name

/-- The recorder that was last subscribed under a name, by number. Consumers of other sorts have
names of their own, so those that share the name with it do not count. -/
def recorder? (session : Session) (name : String) : Option Nat :=
  session.handles.findSome? fun (other, subscription) =>
    if other = name && session.isRecorder subscription.consumer then some subscription.consumer
    else none

/-- What the last builder of a name has built. -/
def script? (session : Session) (name : String) : Option (Option Script) :=
  session.consumers.toList.reverse.findSome? fun
    | .builder other builder => if other = name then some builder.script else none
    | _ => none

/-- What the last printer of a name has written. -/
def output? (session : Session) (name : String) : Option String :=
  session.consumers.toList.reverse.findSome? fun
    | .printer other printer => if other = name then some printer.output else none
    | _ => none

end Session

end Scenario
