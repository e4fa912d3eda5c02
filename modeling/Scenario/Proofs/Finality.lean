import Scenario.Proofs.Driving
import Scenario.Proofs.Progress

/-! # The end of the input is final

A listener may drive the scan that it listens to: it may start the scan again from inside the
delivery of a token, subscribe and unsubscribe others, or raise. Work then lies inside work to any
depth, and a rule goes on with a cursor that others have moved to the end meanwhile.

Such work always comes to its end, and a token is never made after the one for the end of the input
(`exists_calls`). What carries this is the load of the cursor: a token makes it less before anybody
hears of the token, and nothing that a listener may do makes it more. Whatever is done at a load is
therefore settled by what is done at smaller loads (`ends_pass`).
-/

namespace Scenario.Session

/-! ## Work under watch -/

/-- Do a job as `exec` does it, but under a watch, which sees every job before it is begun and may
give an alarm. The work then fails. -/
def execWatched (watch : Job → Session → Option Failure) : Nat → Job → Run Answer
  | 0, _ => throw .exhausted
  | fuel + 1, job => do
      match watch job (← get) with
      | some alarm => throw alarm
      | none => perform (execWatched watch fuel) job

theorem execWatched_none : execWatched (fun _ _ => none) = exec := by
  funext fuel
  induction fuel with
  | zero => rfl
  | succ fuel ih =>
    funext job
    show (do let _ ← get; perform (execWatched _ fuel) job) = perform (exec fuel) job
    rw [ih]
    rfl

/-- The job makes no token of a scan whose last token was the end of the input. -/
def Timely (number : Nat) : Job → Session → Prop
  | .finalize other _ _, s => other = number →
      ∀ scanner ∈ s.scanners[number]?, scanner.cursor.finished = false
  | _, _ => True

/-- The watch that gives an alarm at every job that is not timely. -/
def late (number : Nat) (alarm : Failure) : Job → Session → Option Failure
  | .finalize other _ _, s =>
      if other = number ∧ s.scanners[number]?.any (·.cursor.finished) then some alarm else none
  | _, _ => none

theorem late_eq_none_iff {number : Nat} {alarm : Failure} {job : Job} {s : Session} :
    late number alarm job s = none ↔ Timely number job s := by
  cases job with
  | finalize other kind inline =>
    rw [late, ite_eq_right_iff]
    constructor
    · intro quiet same scanner there
      rw [Bool.eq_false_iff]
      intro finished
      cases quiet ⟨same, by rw [Option.mem_def.1 there, Option.any_some, finished]⟩
    · rintro timely ⟨same, finished⟩
      cases there : s.scanners[number]? with
      | none => simp [there] at finished
      | some scanner =>
        have opened := timely same scanner there
        simp [there, opened] at finished
  | _ => exact ⟨fun _ => trivial, fun _ => rfl⟩

/-- A watch that says nothing about timely jobs. -/
def Lenient (number : Nat) (watch : Job → Session → Option Failure) : Prop :=
  ∀ job s, Timely number job s → watch job s = none

theorem lenient_late (number : Nat) (alarm : Failure) : Lenient number (late number alarm) :=
  fun _ _ timely => late_eq_none_iff.2 timely

theorem lenient_none (number : Nat) : Lenient number fun _ _ => none := fun _ _ _ => rfl

/-! ## Listeners that may drive the scan -/

/-- Commands that leave alone all but one scan, and that neither move its cursor nor make a token
except by a pass: start it, subscribe to it, unsubscribe, and raise. The cursors named by the
reactions of a new listener are to have names of the scan. -/
inductive Command.Tame (here : String → Prop) : Command → Prop where
  | start : Tame here .start
  | raise (message : String) : Tame here (.raise message)
  | unregister (name : String) : Tame here (.unregister name)
  | observe (name : String) (observer : Observer) : Tame here (.observe name observer)
  | build (name : String) : Tame here (.build name)
  | print (name : String) : Tame here (.print name)
  | register {reactions : List (Reaction Command)} (name : String) (filter : Filter) (whole : Bool)
      (homes : ∀ reaction ∈ reactions, ∀ cursor ∈ reaction.step.cursor, here cursor)
      (each : ∀ reaction ∈ reactions, Tame here reaction.step.command) :
      Tame here (.register name filter whole reactions none)
  | registerLike (name : String) (filter : Filter) (whole : Bool)
      (reactions : List (Reaction Command)) (like : String) :
      Tame here (.register name filter whole reactions (some like))

/-- A reaction that is tame, whichever cursor it is for. -/
structure Reaction.Tame (here : String → Prop) (reaction : Reaction Command) : Prop where
  home : ∀ cursor ∈ reaction.step.cursor, here cursor
  command : reaction.step.command.Tame here

/-- A consumer whose reactions are tame, if it has any. -/
def Consumer.Tame (here : String → Prop) : Consumer → Prop
  | .recorder listener => here listener.home ∧ ∀ reaction ∈ listener.reactions, reaction.Tame here
  | _ => True

/-- All listeners do nothing but drive the scan of a number. -/
def Tame (number : Nat) (s : Session) : Prop :=
  ∀ consumer ∈ s.consumers, consumer.Tame fun name => s.find? name = some number

/-- A session in which no more than a load is left to a scan. Its listeners are tame, and call the
scan by names that it has. -/
structure Bounded (number : Nat) (here : String → Prop) (n : Nat) (s : Session) : Prop where
  found : ∃ scanner, s.scanners[number]? = some scanner ∧ Scan.Settled scanner.cursor ∧
    Scan.load scanner.cursor ≤ n
  named : ∀ name, here name → s.find? name = some number
  tame : ∀ consumer ∈ s.consumers, consumer.Tame here

namespace Bounded

variable {number n m : Nat} {here : String → Prop} {s : Session}

theorem mono (bounded : Bounded number here n s) (le : n ≤ m) : Bounded number here m s := by
  obtain ⟨scanner, found, settled, load⟩ := bounded.found
  exact ⟨⟨scanner, found, settled, load.trans le⟩, bounded.named, bounded.tame⟩

theorem modifyCursor (bounded : Bounded number here n s) {next : Cursor}
    (settled : Scan.Settled next) (load : Scan.load next ≤ m) :
    Bounded number here m (s.modifyCursor number fun _ => next) := by
  obtain ⟨scanner, found, -⟩ := bounded.found
  exact ⟨⟨_, getElem?_modifyCursor found _, settled, load⟩, bounded.named, bounded.tame⟩

theorem modifyRegistry (bounded : Bounded number here n s) (other : Nat)
    (change : Registry → Registry) : Bounded number here n (s.modifyRegistry other change) := by
  obtain ⟨scanner, found, settled, load⟩ := bounded.found
  refine ⟨?_, bounded.named, bounded.tame⟩
  by_cases same : other = number
  · subst same
    exact ⟨_, getElem?_modifyRegistry found change, settled, load⟩
  · refine ⟨scanner, ?_, settled, load⟩
    simp [Session.modifyRegistry, Array.getElem?_modify, same, found]

theorem subscribe (bounded : Bounded number here n s) (other : Nat) (name : String)
    (consumer : Nat) (filter : Filter) (whole : Bool) :
    Bounded number here n (s.subscribe other name consumer filter whole) := by
  have changed := bounded.modifyRegistry other
    (·.register { ticket := s.nextTicket, name, consumer, filter, whole })
  exact ⟨changed.found, changed.named, changed.tame⟩

theorem addConsumer (bounded : Bounded number here n s) {consumer : Consumer}
    (tame : consumer.Tame here) : Bounded number here n (s.addConsumer consumer) := by
  refine ⟨bounded.found, bounded.named, ?_⟩
  intro other member
  rcases Array.mem_push.1 member with member | rfl
  · exact bounded.tame other member
  · exact tame

theorem setConsumer (bounded : Bounded number here n s) (i : Nat) {consumer : Consumer}
    (tame : consumer.Tame here) : Bounded number here n (s.setConsumer i consumer) := by
  refine ⟨bounded.found, bounded.named, ?_⟩
  intro other member
  rcases Array.mem_or_eq_of_mem_setIfInBounds member with member | rfl
  · exact bounded.tame other member
  · exact tame

theorem record (bounded : Bounded number here n s) (delivery : Delivery) :
    Bounded number here n (s.record delivery) :=
  ⟨bounded.found, bounded.named, bounded.tame⟩

end Bounded

/-! ## Work that comes to its end -/

/-- Work comes to its end, and no watch for untimely tokens has anything to say on the way. No more
is left to the scan afterwards than the load, and what work without a failure gives is as said. -/
def Ends {α : Type} (number : Nat) (here : String → Prop) (n : Nat)
    (work : (Job → Run Answer) → Run α) (s : Session) (post : α → Session → Prop) : Prop :=
  ∃ result t,
    (∀ watch, Lenient number watch →
      Yields (fun fuel => work (execWatched watch fuel)) s result t) ∧
    Bounded number here n t ∧
    match result with
    | .ok value => post value t
    | .error failure => failure ≠ .exhausted

section Ends

variable {α β : Type} {number n m : Nat} {here : String → Prop} {s t : Session}
  {post : α → Session → Prop}

theorem ends_pure (bounded : Bounded number here n s) {value : α} (good : post value s) :
    Ends number here n (fun _ => pure value) s post :=
  ⟨.ok value, s, fun _ _ => yields_pure value s, bounded, good⟩

theorem ends_throw (bounded : Bounded number here n s) {failure : Failure}
    (cause : failure ≠ .exhausted) :
    Ends number here n (fun _ => (throw failure : Run α)) s post :=
  ⟨.error failure, s, fun _ _ => yields_throw failure s, bounded, cause⟩

/-- Work after something that has nothing to do with the jobs inside. -/
theorem Ends.after {first : Run β} {value : β} {next : (Job → Run Answer) → β → Run α}
    (ran : Yields (fun _ => first) s (.ok value) t)
    (later : Ends number here n (next · value) t post) :
    Ends number here n (fun again => first >>= next again) s post := by
  obtain ⟨result, u, yields, bounded, good⟩ := later
  exact ⟨result, u, fun watch lenient => ran.bind (yields watch lenient), bounded, good⟩

theorem Ends.bind {work : (Job → Run Answer) → Run β} {next : (Job → Run Answer) → β → Run α}
    {middle : β → Session → Prop} (first : Ends number here n work s middle)
    (later : ∀ value t, Bounded number here n t → middle value t →
      Ends number here n (next · value) t post) :
    Ends number here n (fun again => work again >>= next again) s post := by
  obtain ⟨result, t, yields, bounded, good⟩ := first
  cases result with
  | error failure =>
    exact ⟨.error failure, t, fun watch lenient => (yields watch lenient).bind_error, bounded, good⟩
  | ok value =>
    obtain ⟨result, u, rest, bounded, good⟩ := later value t bounded good
    exact ⟨result, u, fun watch lenient => (yields watch lenient).bind (rest watch lenient),
      bounded, good⟩

theorem Ends.mono {work : (Job → Run Answer) → Run α} {weaker : α → Session → Prop}
    (ends : Ends number here n work s post) (le : n ≤ m)
    (implied : ∀ value t, post value t → weaker value t) :
    Ends number here m work s weaker := by
  obtain ⟨result, t, yields, bounded, good⟩ := ends
  refine ⟨result, t, yields, bounded.mono le, ?_⟩
  cases result with
  | error failure => exact good
  | ok value => exact implied value t good

/-- A job that is timely ends as what it consists of. -/
theorem Ends.job {job : Job} {post : Answer → Session → Prop} (timely : Timely number job s)
    (ends : Ends number here n (perform · job) s post) : Ends number here n (· job) s post := by
  obtain ⟨result, t, yields, bounded, good⟩ := ends
  refine ⟨result, t, fun watch lenient => ?_, bounded, good⟩
  obtain ⟨enough, inner⟩ := yields watch lenient
  refine ⟨enough + 1, fun fuel large => ?_⟩
  obtain ⟨less, rfl⟩ := Nat.exists_eq_add_of_le large
  rw [← inner (enough + less) (by omega), Nat.add_right_comm]
  show (match watch job s with
    | some alarm => throw alarm
    | none => perform (execWatched watch (enough + less)) job : Run Answer).run.run s = _
  rw [lenient job s timely]

/-- Work after something was looked up, whether it was there or not. -/
theorem Ends.lookup {first : Run β} {view : Option β} {name : String}
    {next : (Job → Run Answer) → β → Run α} (bounded : Bounded number here n s)
    (ran : Yields (fun _ => first) s (view.elim (.error (.unknown name)) .ok) s)
    (later : ∀ value, Ends number here n (next · value) s post) :
    Ends number here n (fun again => first >>= next again) s post := by
  cases view with
  | some value => exact .after ran (later value)
  | none =>
    refine ⟨.error (.unknown name), s, fun _ _ => ran.bind_error, bounded, ?_⟩
    rintro ⟨⟩

end Ends

/-! ## What listeners do -/

theorem yields_numberOf {s : Session} {name : String} {number : Nat}
    (found : s.find? name = some number) : Yields (fun _ => numberOf name) s (.ok number) s := by
  refine (yields_get s).bind ?_
  simp only [found]
  exact yields_pure number s

theorem yields_handleOf (name : String) (s : Session) :
    Yields (fun _ => handleOf name) s ((s.handle? name).elim (.error (.unknown name)) .ok) s := by
  refine (yields_get s).bind ?_
  cases s.handle? name with
  | none => exact yields_throw _ s
  | some handle => exact yields_pure handle s

theorem yields_recorderOf (name : String) (s : Session) :
    Yields (fun _ => recorderOf name) s
      ((s.recorder? name).elim (.error (.unknown name)) .ok) s := by
  refine (yields_get s).bind ?_
  cases s.recorder? name with
  | none => exact yields_throw _ s
  | some consumer => exact yields_pure consumer s

/-- Nothing is said of the answer but that it has no reports inside. -/
def Plain (answer : Answer) (_ : Session) : Prop := answer.body = none

section Listeners

variable {number n : Nat} {here : String → Prop} {s : Session}

theorem ends_attach (bounded : Bounded number here n s) {cursor : String} (home : here cursor)
    (name : String) {consumer : Consumer} (tame : consumer.Tame here) (filter : Filter)
    (whole : Bool) :
    Ends number here n (fun _ => attach cursor name consumer filter whole) s Plain := by
  refine .after (yields_numberOf (bounded.named cursor home)) (.after (yields_modify _ s) ?_)
  exact ends_pure ((bounded.addConsumer tame).subscribe _ _ _ _ _) rfl

theorem ends_unregister (bounded : Bounded number here n s) {cursor : String} (home : here cursor)
    (name : String) : Ends number here n (obey · cursor (.unregister name)) s Plain := by
  obtain ⟨scanner, found, -⟩ := bounded.found
  refine .after (yields_numberOf (bounded.named cursor home)) (.after (yields_scannerAt found) ?_)
  apply Ends.lookup bounded (yields_handleOf name s)
  intro handle
  cases scanner.registry.unregister? handle.ticket with
  | some registry =>
    refine .after (yields_modify _ s) ?_
    exact ends_pure (bounded.modifyRegistry number _) rfl
  | none =>
    refine .after (yields_get s) ?_
    cases s.consumers[handle.consumer]? with
    | some consumer => exact ends_throw bounded (by rintro ⟨⟩)
    | none => exact ends_throw bounded (by rintro ⟨⟩)

-- A listener may start the scan where it is known that this comes to an end.
variable (start : ∀ s, Bounded number here n s → Ends number here n (· (.pass number)) s Plain)
include start

theorem ends_obey (bounded : Bounded number here n s) {cursor : String} (home : here cursor)
    {command : Command} (tame : command.Tame here) :
    Ends number here n (· (.obey cursor command)) s Plain := by
  refine Ends.job trivial ?_
  cases tame with
  | start => exact .after (yields_numberOf (bounded.named cursor home)) (start s bounded)
  | raise message => exact ends_throw bounded (by rintro ⟨⟩)
  | unregister name => exact ends_unregister bounded home name
  | observe name observer =>
    refine ends_attach bounded home name ?_ _ _
    trivial
  | build name =>
    refine ends_attach bounded home name ?_ _ _
    trivial
  | print name =>
    refine ends_attach bounded home name ?_ _ _
    trivial
  | register name filter whole homes each =>
    refine ends_attach bounded home name ?_ _ _
    exact ⟨home, fun reaction member => ⟨homes reaction member, each reaction member⟩⟩
  | registerLike name filter whole reactions like =>
    refine .after (yields_numberOf (bounded.named cursor home)) ?_
    apply Ends.lookup bounded (yields_recorderOf like s)
    intro consumer
    refine .after (yields_modify _ s) ?_
    exact ends_pure (bounded.subscribe _ _ _ _ _) rfl

theorem ends_react (bounded : Bounded number here n s) {home : String} (named : here home)
    (call : Nat) {reactions : List (Reaction Command)}
    (tame : ∀ reaction ∈ reactions, reaction.Tame here) :
    Ends number here n (· (.react home call reactions)) s Plain := by
  induction reactions generalizing s with
  | nil => exact .job trivial (ends_pure bounded rfl)
  | cons reaction rest ih =>
    obtain ⟨first, others⟩ := List.forall_mem_cons.1 tame
    refine Ends.job trivial ?_
    simp only [perform]
    split
    · have cursor : here (reaction.step.cursor.getD home) := by
        cases given : reaction.step.cursor with
        | none => exact named
        | some cursor => exact first.home cursor given
      refine Ends.bind (ends_obey start bounded cursor first.command) ?_
      intro answer t bounded plain
      have none : answer.failure? = none := by
        rw [Answer.failure?, show answer.body = _ from plain]
        rfl
      simp only [none]
      exact ih bounded others
    · exact ih bounded others

theorem ends_consume (bounded : Bounded number here n s) (token : Token)
    (subscription : Subscription) {consumer : Consumer} (tame : consumer.Tame here) :
    Ends number here n (consume · token subscription consumer) s Plain := by
  cases consumer with
  | recorder listener =>
    refine .after (yields_modify _ s) ?_
    have called : Bounded number here n (s.setConsumer subscription.consumer
        (.recorder { listener with calls := listener.calls + 1 })) := bounded.setConsumer _ tame
    exact ends_react start (called.record _) tame.1 _ fun reaction member =>
      tame.2 reaction (List.mem_filter.1 member).1
  | observer name watcher =>
    simp only [consume]
    split
    · exact .after (yields_modify _ s) (ends_pure (bounded.record _) rfl)
    · exact .after (yields_pure _ s) (ends_pure bounded rfl)
  | builder name builder =>
    refine .after (yields_modify _ s) (ends_pure (bounded.setConsumer _ ?_) rfl)
    trivial
  | printer name printer =>
    refine .after (yields_modify _ s) (ends_pure (bounded.setConsumer _ ?_) rfl)
    trivial

theorem ends_hand (bounded : Bounded number here n s) (token : Token)
    (subscription : Subscription) :
    Ends number here n (· (.hand token subscription)) s Plain := by
  refine .job trivial (.after (yields_get s) ?_)
  cases there : s.consumers[subscription.consumer]? with
  | none => exact ends_pure bounded rfl
  | some consumer =>
    exact ends_consume start bounded token subscription
      (bounded.tame consumer (Array.mem_of_getElem? there))

theorem ends_deliver (bounded : Bounded number here n s) (token : Token)
    (subscriptions : List Subscription) :
    Ends number here n (· (.deliver token subscriptions)) s Plain := by
  induction subscriptions generalizing s with
  | nil => exact .job trivial (ends_pure bounded rfl)
  | cons subscription rest ih =>
    refine Ends.job trivial ?_
    cases accepts : subscription.filter.accepts token with
    | error message =>
      simp only [perform, accepts]
      refine ⟨_, s, fun _ _ => (yields_throw (.raised message) s).bind_error, bounded, ?_⟩
      rintro ⟨⟩
    | ok accepted =>
      cases accepted with
      | false =>
        simp only [perform, accepts]
        exact .after (yields_pure _ s) (ih bounded)
      | true =>
        simp only [perform, accepts]
        exact (ends_hand start bounded token subscription).bind fun _ _ bounded _ => ih bounded

end Listeners

/-! ## Passes -/

/-- What is done to a scan comes to its end at a load. A pass that does not fail leaves nothing. -/
structure Level (number : Nat) (here : String → Prop) (n : Nat) : Prop where
  pass : ∀ s, Bounded number here n s → Ends number here n (· (.pass number)) s
    fun answer t => Plain answer t ∧ Bounded number here 0 t
  resume : ∀ resume s, Bounded number here n s →
    Ends number here n (· (.resume number resume)) s Plain

section Passes

variable {number n : Nat} {here : String → Prop} {s : Session}

/-- A token is made by a cursor that is not at its end. Only the load that is left then matters, to
the listeners that hear of it and to the rest of its rule. -/
theorem ends_emit (level : Level number here n) {kind : Kind} {inline : Bool}
    {warning : Option Span} {resume : Scan.Resume} {next : Cursor} {scanner : Scanner}
    (found : s.scanners[number]? = some scanner) (opened : next.finished = false)
    (bounded : Bounded number here n (s.modifyCursor number fun _ => next.finalize kind)) :
    Ends number here n (carryOut · number (.emit kind inline warning resume next)) s Plain := by
  have placed := getElem?_modifyCursor found fun _ => next
  have finalized : Ends number here n (· (.finalize number kind inline))
      (s.modifyCursor number fun _ => next) Plain := by
    apply Ends.job
    · rintro - scanner there
      cases placed.symm.trans there
      exact opened
    · refine .after (yields_scannerAt placed) (.after (yields_modify _ _) ?_)
      rw [modifyCursor_modifyCursor]
      have start : ∀ s, Bounded number here n s →
          Ends number here n (· (.pass number)) s Plain :=
        fun s bounded => (level.pass s bounded).mono (Nat.le_refl n) fun _ _ good => good.1
      exact (ends_deliver start bounded _ _).bind fun _ _ bounded _ => ends_pure bounded rfl
  refine .after (yields_modify _ s) ?_
  exact finalized.bind fun _ t bounded _ => level.resume resume t bounded

/-- Where a rule fails, no more is left than before. -/
theorem ends_fail {post : Answer → Session → Prop} (bounded : Bounded number here n s)
    {scanner : Scanner} (settled : Scan.Settled scanner.cursor)
    (load : Scan.load scanner.cursor ≤ n) {fault : Fault} {next : Cursor}
    (unmade : scanner.cursor.Unmade next) (drained : next.ahead = []) :
    Ends number here n (carryOut · number (.fail fault next)) s post := by
  obtain ⟨less, settled⟩ := Scan.load_of_unmade settled unmade (by simp [drained])
  refine .after (yields_modify _ s) ?_
  exact ends_throw (bounded.modifyCursor settled (less.trans load)) (by rintro ⟨⟩)

variable (lower : ∀ m < n, Level number here m) (bounded : Bounded number here n s)
include lower bounded

theorem ends_resume (resume : Scan.Resume) :
    Ends number here n (· (.resume number resume)) s Plain := by
  obtain ⟨scanner, found, settled, load⟩ := bounded.found
  refine .job trivial (.after (yields_scannerAt found) ?_)
  have unmade := Scan.unmade_step scanner.cursor resume
  have drained := Scan.drained_step scanner.cursor resume
  cases step : resume.step scanner.cursor with
  | emit kind inline warning left next =>
    obtain ⟨opened, less, made⟩ := Scan.load_of_step settled step
    rw [step] at unmade
    have ends : Ends number here _ (carryOut · number (.emit kind inline warning left next)) s
        Plain := ends_emit (lower _ (Nat.lt_of_lt_of_le less load)) found
      (unmade.finished.trans opened) (bounded.modifyCursor made (Nat.le_refl _))
    exact ends.mono (by omega) fun _ _ plain => plain
  | done next =>
    rw [step] at unmade
    obtain ⟨less, settled⟩ := Scan.load_of_unmade settled unmade (Scan.step_done step).2
    refine .after (yields_modify _ s) ?_
    exact ends_pure (bounded.modifyCursor settled (less.trans load)) rfl
  | fail fault next =>
    rw [step] at unmade drained
    exact ends_fail bounded settled load unmade drained

theorem ends_pass : Ends number here n (· (.pass number)) s
    fun answer t => Plain answer t ∧ Bounded number here 0 t := by
  obtain ⟨scanner, found, settled, load⟩ := bounded.found
  refine .job trivial (.after (yields_scannerAt found) ?_)
  by_cases finished : scanner.cursor.finished = true
  · have none := Scan.load_of_finished settled finished
    simp only [finished, if_true]
    exact ends_pure bounded ⟨rfl, ⟨scanner, found, settled, Nat.le_of_eq none⟩, bounded.named,
      bounded.tame⟩
  · have opened : scanner.cursor.finished = false := by simpa using finished
    have unmade := Scan.unmade_line scanner.cursor
    have drained := Scan.drained_line scanner.cursor
    -- Reading a line is to carry out its move.
    have follow : ∀ {m : Nat} {post : Answer → Session → Prop},
        Ends number here m (carryOut · number (Scan.line scanner.cursor)) s post →
        Ends number here m (· (.follow number .line)) s post :=
      fun line => .job trivial (.after (yields_scannerAt found) line)
    simp only [opened, Bool.false_eq_true, if_false]
    cases read : Scan.line scanner.cursor with
    | emit kind inline warning left next =>
      obtain ⟨less, made⟩ := Scan.load_of_line opened read
      have level := lower _ (Nat.lt_of_lt_of_le less load)
      rw [read] at unmade follow
      have line := follow (ends_emit level found (unmade.finished.trans opened)
        (bounded.modifyCursor made (Nat.le_refl _)))
      have ends := line.bind fun _ t bounded _ => level.pass t bounded
      exact ends.mono (by omega) fun _ _ good => good
    | done next => exact absurd read (Scan.line_ne_done _ _)
    | fail fault next =>
      rw [read] at unmade drained follow
      have line : Ends number here n (· (.follow number .line)) s fun _ _ => False :=
        follow (ends_fail bounded settled load unmade drained)
      exact line.bind fun _ _ _ never => never.elim

end Passes

theorem level (number : Nat) (here : String → Prop) (n : Nat) : Level number here n := by
  induction n using Nat.strongRecOn with
  | ind n lower =>
    exact ⟨fun s bounded => ends_pass lower bounded,
      fun resume s bounded => ends_resume lower bounded resume⟩

/-! ## Starting a scan again and again -/

/-- A scan is started and comes to its end, in `t`. -/
structure Call (number : Nat) (s : Session) (result : Except Failure Answer) (t : Session) :
    Prop where
  yields : Yields (exec · (.pass number)) s result t
  /-- The bound on nested work is not what ended it. -/
  ended : result ≠ .error .exhausted
  /-- No token is made after the end of the input: with an alarm at every such token, whatever the
  alarm is, the same is done. -/
  timely : ∀ alarm, Yields (execWatched (late number alarm) · (.pass number)) s result t
  /-- Without a failure, the last token made is the end of the input. -/
  final : ∀ answer, result = .ok answer →
    ∃ scanner, t.scanners[number]? = some scanner ∧ scanner.cursor.latest = some .endOfInput
  /-- If the end of the input was the last token before, nothing is done any more. -/
  idle : ∀ scanner, s.scanners[number]? = some scanner →
    scanner.cursor.latest = some .endOfInput → result = .ok {} ∧ t = s

/-- A scan is started as often as there are results, whether it fails or not. -/
inductive Calls (number : Nat) : List (Except Failure Answer) → Session → Session → Prop where
  | nil {s : Session} : Calls number [] s s
  | cons {result : Except Failure Answer} {results : List (Except Failure Answer)}
      {s t u : Session} (call : Call number s result t) (rest : Calls number results t u) :
      Calls number (result :: results) s u

section Calls

variable {number n : Nat} {here : String → Prop} {s : Session}

theorem exists_call (bounded : Bounded number here n s) :
    ∃ result t, Call number s result t ∧ Bounded number here n t := by
  obtain ⟨result, t, yields, left, good⟩ := (level number here n).pass s bounded
  have plain : Yields (exec · (.pass number)) s result t := by
    rw [← execWatched_none]
    exact yields _ (lenient_none number)
  refine ⟨result, t, ⟨plain, ?_, fun alarm => yields _ (lenient_late number alarm), ?_, ?_⟩, left⟩
  · rintro rfl
    exact good rfl
  · rintro answer rfl
    obtain ⟨scanner, found, settled, none⟩ := good.2.found
    have finished := Scan.finished_of_load (Nat.le_zero.1 none)
    exact ⟨scanner, found, by simpa [Cursor.finished] using finished⟩
  · intro scanner found last
    have finished : scanner.cursor.finished = true := by simp [Cursor.finished, last]
    exact plain.unique (yields_pass_of_finished found finished)

theorem exists_calls (bounded : Bounded number here n s) (starts : Nat) :
    ∃ results t, results.length = starts ∧ Calls number results s t := by
  induction starts generalizing s with
  | zero => exact ⟨[], s, rfl, .nil⟩
  | succ starts ih =>
    obtain ⟨result, t, call, bounded⟩ := exists_call bounded
    obtain ⟨results, u, length, calls⟩ := ih bounded
    exact ⟨result :: results, u, by rw [List.length_cons, length], .cons call calls⟩

end Calls

/-- The end of the input is final, even if listeners drive the scan from inside. Let a session have
a scan at the start of a source, whose listeners may start it, subscribe and unsubscribe, and raise,
and so may the listeners that they bring. However often the scan is started, every such call comes
to its end, no token is made after the one for the end of the input, and this one has been made
wherever a call ends without a failure; later calls then leave the session as it is. -/
theorem exec_passes_final {source : String} {file : Option String} {options : Options}
    {s : Session} {number : Nat} {registry : Registry}
    (found : s.scanners[number]? = some ⟨.ofSource source file options, registry⟩)
    (tame : Tame number s) (starts : Nat) :
    ∃ results t, results.length = starts ∧ Calls number results s t := by
  have settled : Scan.Settled (.ofSource source file options) := by rintro ⟨⟩
  have bounded : Bounded number (fun name => s.find? name = some number)
      (Scan.load (.ofSource source file options)) s :=
    ⟨⟨_, found, settled, Nat.le_refl _⟩, fun _ named => named, tame⟩
  exact exists_calls bounded starts

/-- A listener that starts its scan whenever it is called, brings another one that does the same at
its first call, and raises at its third. -/
def restless (cursor : Cursor) : Session where
  scanners := #[{ cursor, registry := ⟨[{ ticket := 0, name := "restless", consumer := 0 }]⟩ }]
  cursors := [(mainCursor, 0)]
  consumers := #[.recorder
    { name := "restless", home := mainCursor
      reactions := [
        { call := some 1
          step := { command :=
            .register "other" .all false [{ step := { command := .start } }] none } },
        { call := some 3, step := { command := .raise "no" } },
        { step := { command := .start } }] }]
  nextTicket := 1

theorem exec_passes_final_restless :
    ∃ results t, results.length = 3 ∧
      Calls 0 results (restless (.ofSource "a[b]c\n@d\n" none {})) t := by
  have found : (restless (.ofSource "a[b]c\n@d\n" none {})).scanners[0]? = some _ := rfl
  have tame : Tame 0 (restless (.ofSource "a[b]c\n@d\n" none {})) := by
    have start : ∀ here, Command.Tame here .start := fun _ => .start
    have other : ∀ here, Command.Tame here
        (.register "other" .all false [{ step := { command := .start } }] none) :=
      fun here => .register _ _ _ (by simp) (by simpa using start here)
    intro consumer member
    obtain rfl : consumer = _ := by simpa [restless] using member
    refine ⟨rfl, ?_⟩
    intro reaction member
    rcases (by simpa using member : reaction = _ ∨ reaction = _ ∨ reaction = _) with
      rfl | rfl | rfl
    · exact ⟨by simp, other _⟩
    · exact ⟨by simp, .raise "no"⟩
    · exact ⟨by simp, .start⟩
  exact exec_passes_final found tame 3

end Scenario.Session
