import Scenario.Proofs.Chart
import Scenario.Proofs.Listening

/-! # What a job does by itself

A job leaves a session behind, whether it fails or not (`left`). Most of what it does to the session
is done by the jobs inside it. This module says what is left without them: how something is looked
up, what a command does that hands on no job (`deed_obey`), and what is left of a token that is
handed to a consumer before the consumer reacts (`run_hand_eq`).
-/

namespace Scenario.Session

/-! ## Work one after another -/

/-- The session that work leaves behind, whether it fails or not. -/
def left {α : Type} (work : Run α) (s : Session) : Session := (work.run.run s).2

section Work

variable {α β : Type}

theorem left_bind (work : Run α) (next : α → Run β) (s : Session) :
    left (work >>= next) s =
      match (work.run.run s).1 with
      | .ok value => left (next value) (left work s)
      | .error _ => left work s := by
  simp only [left, run_bind]
  rcases work.run.run s with ⟨failure | value, t⟩ <;> rfl

/-- Work that begins by looking at the session. -/
theorem run_get_bind (next : Session → Run β) (s : Session) :
    ((get : Run Session) >>= next).run.run s = (next s).run.run s := rfl

theorem left_get_bind (next : Session → Run β) (s : Session) :
    left ((get : Run Session) >>= next) s = left (next s) s := rfl

theorem run_modify (change : Session → Session) (s : Session) :
    (modify change : Run Unit).run.run s = (.ok (), change s) := rfl

theorem run_withOptions (options : Options) (work : Run α) (s : Session) :
    (withOptions options work).run.run s =
      ((work.run.run { s with options }).1,
        { (work.run.run { s with options }).2 with options := s.options }) := rfl

end Work

/-! ## Looking things up -/

section Lookup

variable {s : Session} {name : String}

theorem run_numberOf (name : String) (s : Session) :
    (numberOf name).run.run s =
      match s.find? name with
      | some number => (.ok number, s)
      | none => (.error (.unknown name), s) := by
  rw [numberOf, run_get_bind]
  cases s.find? name <;> rfl

theorem run_scannerAt (number : Nat) (s : Session) :
    (scannerAt number).run.run s =
      match s.scanners[number]? with
      | some scanner => (.ok scanner, s)
      | none => (.error (.unknown (toString number)), s) := by
  rw [scannerAt, run_get_bind]
  cases s.scanners[number]? <;> rfl

theorem run_handleOf (listener : String) (s : Session) :
    (handleOf listener).run.run s =
      match s.handle? listener with
      | some handle => (.ok handle, s)
      | none => (.error (.unknown listener), s) := by
  rw [handleOf, run_get_bind]
  cases s.handle? listener <;> rfl

theorem run_recorderOf (like : String) (s : Session) :
    (recorderOf like).run.run s =
      match s.recorder? like with
      | some consumer => (.ok consumer, s)
      | none => (.error (.unknown like), s) := by
  rw [recorderOf, run_get_bind]
  cases s.recorder? like <;> rfl

theorem left_numberOf (name : String) (s : Session) : left (numberOf name) s = s := by
  rw [left, run_numberOf]
  split <;> rfl

theorem left_scannerAt (number : Nat) (s : Session) : left (scannerAt number) s = s := by
  rw [left, run_scannerAt]
  split <;> rfl

theorem left_handleOf (name : String) (s : Session) : left (handleOf name) s = s := by
  rw [left, run_handleOf]
  split <;> rfl

theorem left_recorderOf (name : String) (s : Session) : left (recorderOf name) s = s := by
  rw [left, run_recorderOf]
  split <;> rfl

theorem numberOf_ok {number : Nat} (ok : ((numberOf name).run.run s).1 = .ok number) :
    s.find? name = some number := by
  rw [run_numberOf] at ok
  split at ok
  · next named =>
    cases ok
    exact named
  · cases ok

theorem scannerAt_ok {number : Nat} {scanner : Scanner}
    (ok : ((scannerAt number).run.run s).1 = .ok scanner) :
    s.scanners[number]? = some scanner := by
  rw [run_scannerAt] at ok
  split at ok
  · next found =>
    cases ok
    exact found
  · cases ok

theorem handleOf_ok {handle : Subscription}
    (ok : ((handleOf name).run.run s).1 = .ok handle) : s.handle? name = some handle := by
  rw [run_handleOf] at ok
  split at ok
  · next known =>
    cases ok
    exact known
  · cases ok

theorem recorderOf_ok {consumer : Nat} (ok : ((recorderOf name).run.run s).1 = .ok consumer) :
    s.recorder? name = some consumer := by
  rw [run_recorderOf] at ok
  split at ok
  · next there =>
    cases ok
    exact there
  · cases ok

end Lookup

/-! ## Commands that hand on no job -/

/-- The operation that a command is, if it is just one. -/
def Command.operation? : Command → Option Operation
  | .advance => some .advance
  | .skipOne => some .skipOne
  | .skipBlanks => some .skipBlanks
  | .skipNewline => some .skipNewline
  | .recordUntil stops => some (.recordUntil (Delimiter.spelledBy stops))
  | .finalize kind inline => some (.finalize kind inline)
  | _ => none

/-- A consumer that is new to a session, and how it is subscribed. -/
structure Entry where
  listener : String
  consumer : Consumer
  filter : Filter
  whole : Bool

/-- A command brings a consumer to the cursor of a name. -/
inductive Command.Brings (name : String) : Command → Entry → Prop where
  | register (listener : String) (filter : Filter) (whole : Bool)
      (reactions : List (Reaction Command)) :
      Brings name (.register listener filter whole reactions none)
        ⟨listener, .recorder { name := listener, home := name, reactions }, filter, whole⟩
  | observe (observer : String) (watcher : Observer) :
      Brings name (.observe observer watcher)
        ⟨observer, .observer observer watcher, watcher.filter, true⟩
  | build (builder : String) :
      Brings name (.build builder) ⟨builder, .builder builder {}, .all, true⟩
  | print (printer : String) :
      Brings name (.print printer) ⟨printer, .printer printer {}, .kinds [.text, .label], true⟩

/-- The commands that hand on a job. -/
def Command.handsOn : Command → Bool
  | .finalize _ _ | .follow _ | .start | .notify _ | .within _ _ => true
  | _ => false

/-- What a session can be after a command for the cursor of a name, if the command hands on no
job. -/
inductive Deed (s : Session) (name : String) : Command → Session → Prop where
  /-- The command reads something off the session, or it fails. -/
  | nothing {command : Command} : Deed s name command s
  | create (source : String) (file : Option String) (options : Option Options) :
      Deed s name (.create source file options)
        (s.create name { cursor := .ofSource source file (options.getD s.options) })
  | move {command : Command} {operation : Operation} {number : Nat} {scanner : Scanner}
      (is : command.operation? = some operation) (named : s.find? name = some number)
      (found : s.scanners[number]? = some scanner) :
      Deed s name command (s.modifyCursor number operation.apply)
  | attach {command : Command} {entry : Entry} {number : Nat}
      (brings : command.Brings name entry) (named : s.find? name = some number) :
      Deed s name command ((s.addConsumer entry.consumer).subscribe number entry.listener
        s.consumers.size entry.filter entry.whole)
  /-- A consumer that is there already is subscribed once more. -/
  | join {listener like : String} {filter : Filter} {whole : Bool}
      {reactions : List (Reaction Command)} {number consumer : Nat}
      (named : s.find? name = some number) (there : s.recorder? like = some consumer) :
      Deed s name (.register listener filter whole reactions (some like))
        (s.subscribe number listener consumer filter whole)
  | part {listener : String} {number : Nat} {scanner : Scanner} {handle : Subscription}
      {fewer : Registry} (named : s.find? name = some number)
      (found : s.scanners[number]? = some scanner) (known : s.handle? listener = some handle)
      (taken : scanner.registry.unregister? handle.ticket = some fewer) :
      Deed s name (.unregister listener) (s.modifyRegistry number fun _ => fewer)
  | setOptions (options : Options) : Deed s name (.setOptions options) { s with options }
  | resetOptions : Deed s name .resetOptions { s with options := {} }

section Deeds

variable {s : Session} {name : String} {command : Command}

theorem obey_eq_move (again : Job → Run Answer) (name : String) {operation : Operation}
    (is : command.operation? = some operation)
    (moves : ∀ kind inline, operation ≠ .finalize kind inline) :
    ∃ view, obey again name command = move name operation.apply view := by
  cases command with
  | advance | skipOne | skipBlanks | skipNewline | recordUntil stops =>
    cases is
    rw [obey]
    exact ⟨_, rfl⟩
  | finalize kind inline =>
    cases is
    exact absurd rfl (moves kind inline)
  | _ => cases is

theorem eq_finalize_of_operation? {kind : Kind} {inline : Bool}
    (is : command.operation? = some (.finalize kind inline)) : command = .finalize kind inline := by
  cases command with
  | finalize kind inline =>
    cases is
    rfl
  | _ => cases is

theorem obey_eq_attach (again : Job → Run Answer) {entry : Entry}
    (brings : command.Brings name entry) :
    obey again name command =
      attach name entry.listener entry.consumer entry.filter entry.whole := by
  cases brings <;> rfl

/-- A command that hands on no job does not depend on how jobs are done. -/
theorem obey_eq_obey (alone : command.handsOn = false) (one two : Job → Run Answer)
    (name : String) : obey one name command = obey two name command := by
  cases command with
  | register listener filter whole reactions like => cases like <;> rfl
  | finalize _ _ | follow _ | start | notify _ | within _ _ => cases alone
  | _ => rfl

theorem left_move {number : Nat} {scanner : Scanner} (named : s.find? name = some number)
    (found : s.scanners[number]? = some scanner) (change : Cursor → Cursor)
    (view : Cursor → Cursor → Reply) :
    left (move name change view) s = s.modifyCursor number change := by
  simp only [move, left_bind, run_numberOf, left_numberOf, named, run_scannerAt, left_scannerAt,
    found]
  rfl

theorem run_attach {number : Nat} (named : s.find? name = some number) (listener : String)
    (consumer : Consumer) (filter : Filter) (whole : Bool) :
    (attach name listener consumer filter whole).run.run s =
      (.ok {}, (s.addConsumer consumer).subscribe number listener s.consumers.size filter
        whole) := by
  rw [attach, run_bind, run_numberOf, named]
  rfl

/-- A command that looks something up does nothing if that is not there. -/
theorem Deed.bind {α β : Type} {work : Run α} {next : α → Run β} (still : left work s = s)
    (rest : ∀ value, (work.run.run s).1 = .ok value → Deed s name command (left (next value) s)) :
    Deed s name command (left (work >>= next) s) := by
  rw [left_bind, still]
  split
  · next value ok => exact rest value ok
  · exact .nothing

theorem deed_inspect (view : Cursor → Reply) : Deed s name command (left (inspect name view) s) :=
  .bind (left_numberOf name s) fun _ _ => .bind (left_scannerAt _ s) fun _ _ => .nothing

theorem deed_move {operation : Operation} (again : Job → Run Answer)
    (is : command.operation? = some operation)
    (moves : ∀ kind inline, operation ≠ .finalize kind inline) :
    Deed s name command (left (obey again name command) s) := by
  obtain ⟨view, same⟩ := obey_eq_move again name is moves
  rw [same]
  refine .bind (left_numberOf name s) fun number named => ?_
  refine .bind (left_scannerAt number s) fun scanner found => ?_
  exact .move is (numberOf_ok named) (scannerAt_ok found)

theorem deed_attach (again : Job → Run Answer) {entry : Entry}
    (brings : command.Brings name entry) :
    Deed s name command (left (obey again name command) s) := by
  rw [obey_eq_attach again brings]
  exact .bind (left_numberOf name s) fun number named => .attach brings (numberOf_ok named)

theorem deed_unregister (again : Job → Run Answer) (listener : String) :
    Deed s name (.unregister listener) (left (obey again name (.unregister listener)) s) := by
  refine .bind (left_numberOf name s) fun number named => ?_
  refine .bind (left_scannerAt number s) fun scanner found => ?_
  refine .bind (left_handleOf listener s) fun handle known => ?_
  split
  · next fewer taken =>
    exact .part (numberOf_ok named) (scannerAt_ok found) (handleOf_ok known) taken
  · rw [left_get_bind]
    split <;> exact .nothing

/-- Everything that a command does which hands on no job. -/
theorem deed_obey (alone : command.handsOn = false) (again : Job → Run Answer) :
    Deed s name command (left (obey again name command) s) := by
  cases command with
  | create source file options => exact .create source file options
  | peek distance | place | describe | inspect =>
    rw [obey]
    exact deed_inspect _
  | advance | skipOne | skipBlanks | skipNewline | recordUntil stops =>
    exact deed_move again rfl (by simp)
  | register listener filter whole reactions like =>
    cases like with
    | none => exact deed_attach again (.register listener filter whole reactions)
    | some like =>
      refine .bind (left_numberOf name s) fun number named => ?_
      refine .bind (left_recorderOf like s) fun consumer there => ?_
      exact .join (numberOf_ok named) (recorderOf_ok there)
  | unregister listener => exact deed_unregister again listener
  | observe observer watcher => exact deed_attach again (.observe observer watcher)
  | build builder => exact deed_attach again (.build builder)
  | print printer => exact deed_attach again (.print printer)
  | subscribers =>
    exact .bind (left_numberOf name s) fun _ _ => .bind (left_scannerAt _ s) fun _ _ => .nothing
  | script _ | output _ | tokenize _ =>
    rw [obey, left_get_bind]
    split <;> exact .nothing
  | setOptions options => exact .setOptions options
  | resetOptions => exact .resetOptions
  | getOptions | raise _ => exact .nothing
  | finalize _ _ | follow _ | start | notify _ | within _ _ => cases alone

end Deeds

/-! ## Jobs -/

section Jobs

variable (again : Job → Run Answer) {s : Session}

theorem left_report (step : Step Command) (s : Session) :
    ((report again step).run s).2 =
      left (again (.obey (step.cursor.getD mainCursor) step.command)) s := by
  simp only [report, left, StateT.run_bind, StateT.run_get, pure_bind]
  cases (again (.obey (step.cursor.getD mainCursor) step.command)).run.run s with
  | mk result t =>
    rcases result with failure | ⟨reply, body | body⟩ <;> rfl

/-- A token is made before anything else happens, and then it is delivered. -/
theorem left_finalize {number : Nat} {scanner : Scanner}
    (found : s.scanners[number]? = some scanner) (kind : Kind) (inline : Bool) :
    left (perform again (.finalize number kind inline)) s =
      left (again (.deliver (scanner.cursor.token kind inline) scanner.registry.subscriptions))
        (s.modifyCursor number (·.finalize kind)) := by
  rw [perform, left_bind, run_scannerAt, left_scannerAt, found]
  simp only [left_bind, run_modify]
  split <;> rfl

/-- To be handed a token is to take it and then, for a listener, to react. -/
theorem run_hand_eq (token : Token) (subscription : Subscription) (s : Session) :
    (perform again (.hand token subscription)).run.run s =
      match s.consumers[subscription.consumer]? with
      | some (.recorder listener) =>
          (again (.react listener.home (listener.calls + 1)
            (listener.reactions.filter (·.given token)))).run.run (s.accept ⟨subscription, token⟩)
      | _ => (.ok {}, s.accept ⟨subscription, token⟩) := by
  rw [perform, run_get_bind]
  cases there : s.consumers[subscription.consumer]? with
  | none => rw [accept_of_none there]; rfl
  | some consumer =>
    rw [accept_of_some there]
    cases consumer with
    | recorder listener => rfl
    | observer name watcher =>
      have kept : s.setConsumer subscription.consumer
          ((Consumer.observer name watcher).take token) = s := setConsumer_self there
      simp only [kept, consume, Consumer.note?]
      cases watcher.hook? (some token.kind) <;> rfl
    | builder name builder => rfl
    | printer name printer => rfl

end Jobs

end Scenario.Session
