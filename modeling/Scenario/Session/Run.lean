import Scenario.Session.State

/-! # Running a session

A command may scan, a scan delivers tokens, and a delivery may make listeners run commands. The
work is cut into jobs, and `perform` does one job, handing every job inside it to a function that
it is given. `exec` closes this circle with a bound on how deep jobs may lie inside each other.
A failure stops the work but takes nothing back: the session stays as it is at that moment.
-/

namespace Scenario.Session

/-- Work on a session that may fail. -/
abbrev Run := ExceptT Failure (StateM Session)

/-- A piece of work. -/
inductive Job where
  /-- Obey a command for the cursor of a name. -/
  | obey (name : String) (command : Command)
  /-- Make a token of what the cursor of a scan has recorded, and deliver it
  (`Cursor.finalize_token`). -/
  | finalize (number : Nat) (kind : Kind) (inline : Bool)
  /-- Follow a rule from its start. -/
  | follow (number : Nat) (rule : Scan.Rule)
  /-- Follow what is left of a rule. -/
  | resume (number : Nat) (resume : Scan.Resume)
  /-- Read line after line until the end of the input has been read (`start_parse`). -/
  | pass (number : Nat)
  /-- Deliver a token to subscribers, one after another (`ListenerRegistry.notify`). -/
  | deliver (token : Token) (subscriptions : List Subscription)
  /-- Hand a token to one subscriber. -/
  | hand (token : Token) (subscription : Subscription)
  /-- Take the steps of a listener that are due on a call. -/
  | react (home : String) (call : Nat) (reactions : List (Reaction Command))
  /-- Take steps until one fails, and report on each. -/
  | steps (steps : List (Step Command))

/-- The failure that a body of steps ended with. -/
def Answer.failure? (answer : Answer) : Option Failure :=
  match answer.body.bind List.getLast? with
  | some { result := .error failure, .. } => some failure
  | _ => none

/-- The number of the scan of a name. -/
def numberOf (name : String) : Run Nat := do
  match (← get).find? name with
  | some number => pure number
  | none => throw (.unknown name)

/-- A scan by number. -/
def scannerAt (number : Nat) : Run Scanner := do
  match (← get).scanners[number]? with
  | some scanner => pure scanner
  | none => throw (.unknown (toString number))

/-- Read something off a cursor. -/
def inspect (name : String) (view : Cursor → Reply) : Run Answer := do
  let scanner ← scannerAt (← numberOf name)
  pure { reply := view scanner.cursor }

/-- Move a cursor, and answer with something read off it before and after. -/
def move (name : String) (change : Cursor → Cursor) (view : Cursor → Cursor → Reply) :
    Run Answer := do
  let number ← numberOf name
  let scanner ← scannerAt number
  modify fun session => session.modifyCursor number change
  pure { reply := view scanner.cursor (change scanner.cursor) }

/-- Work with other options active (`parse_config_context`). Those of before are active again
afterwards, whether the work fails or not. -/
def withOptions {α : Type} (options : Options) (work : Run α) : Run α := fun session =>
  let (result, after) := work.run.run { session with options }
  (result, { after with options := session.options })

/-- Take one step and report on it. The report on a step that has a body leaves deliveries to the
reports inside. -/
def report (again : Job → Run Answer) (step : Step Command) : StateM Session Report := do
  let name := step.cursor.getD mainCursor
  let logged := (← get).log.size
  let result ← (again (.obey name step.command)).run
  let session ← get
  let scanner := session.scanner? name
  match result with
  | .error failure =>
      pure { result := .error failure, trace := (session.log.extract logged).toList, scanner }
  | .ok { reply, body := none } =>
      pure { result := .ok reply, trace := (session.log.extract logged).toList, scanner }
  | .ok answer@{ reply, body := some body } =>
      let result := match answer.failure? with
        | some failure => .error failure
        | none => .ok reply
      pure { result, scanner, body := some body }

/-- Subscribe a new consumer to the scan of a name. -/
def attach (cursor name : String) (consumer : Consumer) (filter : Filter) (whole : Bool) :
    Run Answer := do
  let number ← numberOf cursor
  modify fun session =>
    (session.addConsumer consumer).subscribe number name session.consumers.size filter whole
  pure {}

/-- The latest subscription made under a name. -/
def handleOf (name : String) : Run Subscription := do
  match (← get).handle? name with
  | some subscription => pure subscription
  | none => throw (.unknown name)

/-- The recorder that was last subscribed under a name. -/
def recorderOf (name : String) : Run Nat := do
  match (← get).recorder? name with
  | some consumer => pure consumer
  | none => throw (.unknown name)

/-- Obey a command for the cursor of a name. -/
def obey (again : Job → Run Answer) (name : String) : Command → Run Answer
  | .create source file options => do
      let session ← get
      let cursor := Cursor.ofSource source file (options.getD session.options)
      set (session.create name { cursor })
      pure {}
  | .peek distance => inspect name fun c => .char (c.peek distance)
  | .advance => move name Cursor.advance fun c _ => .char c.ahead.head?
  | .skipOne => move name (·.skip 1) fun c _ => .char c.ahead.head?
  | .skipBlanks => move name Cursor.skipBlanks fun _ c => .flag !c.atEnd
  | .skipNewline => move name Cursor.skipNewline fun _ _ => .nothing
  | .recordUntil stops =>
      move name (·.recordUntil (Delimiter.spelledBy stops)) fun _ c => .flag !c.atEnd
  | .finalize kind inline => do again (.finalize (← numberOf name) kind inline)
  | .place => inspect name fun c => .place c.place
  | .describe => inspect name fun c => .text c.describe
  | .inspect => inspect name fun c => .source c.source c.file c.options
  | .follow rule => do again (.follow (← numberOf name) rule)
  | .start => do again (.pass (← numberOf name))
  | .notify token => do
      let scanner ← scannerAt (← numberOf name)
      again (.deliver token scanner.registry.subscriptions)
  | .register listener filter whole reactions none =>
      attach name listener (.recorder { name := listener, home := name, reactions }) filter whole
  | .register listener filter whole _ (some like) => do
      let number ← numberOf name
      let consumer ← recorderOf like
      modify fun session => session.subscribe number listener consumer filter whole
      pure {}
  | .unregister listener => do
      let number ← numberOf name
      let scanner ← scannerAt number
      let handle ← handleOf listener
      match scanner.registry.unregister? handle.ticket with
      | some registry =>
          modify fun session => session.modifyRegistry number fun _ => registry
          pure {}
      | none =>
          match (← get).consumers[handle.consumer]? with
          | some consumer => throw (.notRegistered consumer.title)
          | none => throw (.unknown listener)
  | .subscribers => do
      let scanner ← scannerAt (← numberOf name)
      pure { reply := .names (scanner.registry.subscriptions.map (·.name)) }
  | .observe observer watcher =>
      attach name observer (.observer observer watcher) watcher.filter true
  | .build builder => attach name builder (.builder builder {}) .all true
  | .script builder => do
      match (← get).script? builder with
      | some script => pure { reply := .script script }
      | none => throw (.unknown builder)
  | .print printer =>
      attach name printer (.printer printer {}) (.kinds [.text, .label]) true
  | .output printer => do
      match (← get).output? printer with
      | some output => pure { reply := .text output }
      | none => throw (.unknown printer)
  | .setOptions options => do
      modify fun session => { session with options }
      pure {}
  | .resetOptions => do
      modify fun session => { session with options := {} }
      pure {}
  | .getOptions => do pure { reply := .options (← get).options }
  | .tokenize source => do
      match Scenario.tokenize source none (← get).options with
      | .ok tokens => pure { reply := .tokens tokens }
      | .error fault => throw (.fault fault)
  | .within options steps => withOptions options (again (.steps steps))
  | .raise message => throw (.raised message)

/-- Make what a move of the scan asks for happen. -/
def carryOut (again : Job → Run Answer) (number : Nat) : Scan.Move → Run Answer
  | .emit kind inline _ resume cursor => do
      modify fun session => session.modifyCursor number fun _ => cursor
      let _ ← again (.finalize number kind inline)
      again (.resume number resume)
  | .done cursor => do
      modify fun session => session.modifyCursor number fun _ => cursor
      pure {}
  | .fail fault cursor => do
      modify fun session => session.modifyCursor number fun _ => cursor
      throw (.fault fault)

/-- Hand a token to a consumer. -/
def consume (again : Job → Run Answer) (token : Token) (subscription : Subscription) :
    Consumer → Run Answer
  | .recorder recorder => do
      let called := { recorder with calls := recorder.calls + 1 }
      let delivery : Delivery :=
        if subscription.whole then .whole recorder.name token
        else .plain recorder.name token.kind token.value
      modify fun session =>
        (session.setConsumer subscription.consumer (.recorder called)).record delivery
      again (.react called.home called.calls (called.reactions.filter (·.given token)))
  | .observer name observer => do
      match observer.hook? (some token.kind) with
      | some hook => modify fun session => session.record (.call name hook token)
      | none => pure ()
      pure {}
  | .builder name builder => do
      modify fun session =>
        session.setConsumer subscription.consumer (.builder name (builder.receive token))
      pure {}
  | .printer name printer => do
      modify fun session =>
        session.setConsumer subscription.consumer (.printer name (printer.receive token))
      pure {}

/-- Do one job, handing the jobs inside it to `again`. -/
def perform (again : Job → Run Answer) : Job → Run Answer
  | .obey name command => obey again name command
  | .finalize number kind inline => do
      let scanner ← scannerAt number
      let token := scanner.cursor.token kind inline
      modify fun session => session.modifyCursor number (·.finalize kind)
      let _ ← again (.deliver token scanner.registry.subscriptions)
      pure { reply := .token token }
  | .follow number rule => do
      let scanner ← scannerAt number
      carryOut again number (rule.start scanner.cursor)
  | .resume number resume => do
      let scanner ← scannerAt number
      carryOut again number (resume.step scanner.cursor)
  | .pass number => do
      let scanner ← scannerAt number
      if scanner.cursor.finished then pure {}
      else do
        let _ ← again (.follow number .line)
        again (.pass number)
  | .deliver _ [] => pure {}
  | .deliver token (subscription :: rest) => do
      match subscription.filter.accepts token with
      | .error message => throw (.raised message)
      | .ok true => let _ ← again (.hand token subscription)
      | .ok false => pure ()
      again (.deliver token rest)
  | .hand token subscription => do
      match (← get).consumers[subscription.consumer]? with
      | some consumer => consume again token subscription consumer
      | none => pure {}
  | .react _ _ [] => pure {}
  | .react home call (reaction :: rest) => do
      if reaction.call.all (· = (call : Int)) then
        let answer ← again (.obey (reaction.step.cursor.getD home) reaction.step.command)
        match answer.failure? with
        | some failure => throw failure
        | none => pure ()
      again (.react home call rest)
  | .steps [] => pure { body := some [] }
  | .steps (step :: rest) => do
      let first ← (report again step : StateM Session Report)
      match first.result with
      | .error _ => pure { body := some [first] }
      | .ok _ =>
          let answer ← again (.steps rest)
          pure { body := some (first :: answer.body.getD []) }

/-- Do a job with jobs inside each other up to a depth. -/
def exec : Nat → Job → Run Answer
  | 0, _ => throw .exhausted
  | fuel + 1, job => perform (exec fuel) job

/-- Take steps one after another and report on each; a step that fails does not keep the next one
from being taken. -/
def run (fuel : Nat) (steps : List (Step Command)) : List Report :=
  ((steps.mapM (report (exec fuel)) : StateM Session (List Report)).run {}).1

end Scenario.Session
