import Scenario.Proofs.Finality
import Scenario.Proofs.Growth
import Scenario.Proofs.History

/-! # Registries under change from inside

Whoever is handed a token may subscribe others, take subscriptions back and deliver further tokens,
to any depth, and may raise in the middle of all that. Still the registries have a history at every
job that is begun (`concurs_execWatched`), and a delivery goes to those who were subscribed when it
began, one after another (`delivered_exec`). The main statement is `run_registries`.
-/

namespace Scenario

/-- The filter of a subscription says yes or no to a token. -/
def Subscription.Answers (subscription : Subscription) (token : Token) : Prop :=
  ∃ accepted, subscription.filter.accepts token = .ok accepted

namespace Session

/-! ## Every job is begun in a session with a history -/

/-- There is a history of the session. -/
def Reached (watch : Job → Session → Option Failure) (s : Session) : Prop :=
  ∃ changes, History watch changes s

section Histories

variable {watch : Job → Session → Option Failure} {changes : List Change} {s t : Session}

theorem History.exists_of_quiet (history : History watch changes s) (quiet : Quiet s t) :
    ∃ later, changes <+: later ∧ History watch later t :=
  ⟨changes, List.prefix_refl changes, history.quiet quiet⟩

/-- A command that the watch lets pass adds the change that it makes, if it makes one. -/
theorem History.exists_of_obey (history : History watch changes s) {name : String}
    {command : Command} (passed : watch (.obey name command) s = none)
    (alone : command.handsOn = false) (again : Job → Run Answer) :
    ∃ later, changes <+: later ∧ History watch later (left (obey again name command) s) := by
  cases makes : command.change? s name with
  | none => exact history.exists_of_quiet ((deed_obey alone again).quiet makes)
  | some change =>
    obtain ⟨t, ran, -⟩ := exists_obey_of_change history.orderly.named makes
    have ended : left (obey again name command) s = t := by rw [left, ran]
    rw [ended]
    exact ⟨changes ++ [change], List.prefix_append changes _, history.change passed makes ran⟩

end Histories

/-- Histories go on with all that is done in a session under a watch. -/
def recounting (watch : Job → Session → Option Failure) : Upkeep (List Change) where
  Holds := History watch
  Later := List.IsPrefix
  Knows _ _ := True
  Allows _ := True
  Begun job s := watch job s = none
  refl := List.prefix_refl
  trans := .trans
  knows _ known := known
  notify _ := trivial
  within _ _ _ := trivial
  reactions _ _ _ _ := trivial
  options options history := history.exists_of_quiet (quiet_withOptions _ options)
  moved history _ _ := history.exists_of_quiet (quiet_modifyCursor _ _ _)
  made kind _ history _ := by
    obtain ⟨later, more, history⟩ := history.exists_of_quiet (quiet_modifyCursor _ _ _)
    exact ⟨later, more, history, trivial⟩
  accepted _ history _ := history.exists_of_quiet (quiet_accept _ _)
  obeyed again history _ passed alone := history.exists_of_obey passed alone again

/-- A watch that differs from another one only in sessions without a history makes no difference.
So every job, however deep, is begun in a session with a history. -/
theorem concurs_execWatched {watch eye : Job → Session → Option Failure}
    (alike : ∀ job s, Reached watch s → eye job s = watch job s) (fuel : Nat) :
    (recounting watch).Concurs (execWatched eye fuel) (execWatched watch fuel) := by
  induction fuel with
  | zero =>
    intro job changes s history admits
    exact Upkeep.agrees_throw history _
  | succ fuel ih =>
    intro job changes s history admits
    refine Upkeep.agrees_lookup history rfl fun session ok => ?_
    cases ok
    rw [alike job s ⟨changes, history⟩]
    cases passed : watch job s with
    | some alarm => exact Upkeep.agrees_throw history _
    | none => exact Upkeep.agrees_perform ih history admits passed

/-- Take steps one after another under a watch. This gives the reports on them and the session that
they leave. -/
def runWatched (watch : Job → Session → Option Failure) (fuel : Nat) (steps : List (Step Command))
    (s : Session) : List Report × Session :=
  (steps.mapM (report (execWatched watch fuel)) : StateM Session (List Report)).run s

theorem runWatched_none (fuel : Nat) (steps : List (Step Command)) :
    runWatched (fun _ _ => none) fuel steps {} = (run fuel steps, after fuel steps) := by
  rw [runWatched, execWatched_none]
  rfl

theorem runWatched_cons (watch : Job → Session → Option Failure) (fuel : Nat) (step : Step Command)
    (steps : List (Step Command)) (s : Session) :
    runWatched watch fuel (step :: steps) s =
      let first := (report (execWatched watch fuel) step).run s
      let rest := runWatched watch fuel steps first.2
      (first.1 :: rest.1, rest.2) := by
  rw [runWatched, List.mapM_cons]
  rfl

theorem runWatched_alike {watch eye : Job → Session → Option Failure}
    (alike : ∀ job s, Reached watch s → eye job s = watch job s) (fuel : Nat)
    (steps : List (Step Command)) {s : Session} (reached : Reached watch s) :
    runWatched eye fuel steps s = runWatched watch fuel steps s ∧
      Reached watch (runWatched watch fuel steps s).2 := by
  induction steps generalizing s with
  | nil => exact ⟨rfl, reached⟩
  | cons step steps ih =>
    obtain ⟨changes, history⟩ := reached
    obtain ⟨same, later, -, history⟩ :=
      Upkeep.agrees_report (concurs_execWatched alike fuel) history step trivial
    obtain ⟨others, last⟩ := ih ⟨later, history⟩
    rw [runWatched_cons, runWatched_cons, same]
    exact ⟨by simp only [others], last⟩

/-! ## Deliveries -/

/-- What a subscriber does after it was handed a token: the reactions of a listener that are due. -/
def respond (fuel : Nat) (receipt : Receipt) (s : Session) : Run Answer :=
  match s.consumers[receipt.subscription.consumer]? with
  | some (.recorder listener) =>
      exec fuel (.react listener.home (listener.calls + 1)
        (listener.reactions.filter (·.given receipt.token)))
  | _ => pure {}

/-- Subscribers are handed a token one after another, each once, and nobody fails. What one of them
does about it comes before the next is handed the token. -/
inductive Visits (token : Token) : List Subscription → Session → Session → Prop where
  | nil {s : Session} : Visits token [] s s
  | cons {subscription : Subscription} {subscriptions : List Subscription} {fuel : Nat}
      {answer : Answer} {s t u : Session}
      (responds : (respond fuel ⟨subscription, token⟩ s).run.run (s.accept ⟨subscription, token⟩) =
        (.ok answer, t))
      (rest : Visits token subscriptions t u) : Visits token (subscription :: subscriptions) s u

/-- A delivery to subscribers ends at the first of them: its filter fails, or it is handed the token
and fails. The bound on nested work may end a delivery too. -/
inductive Cut (token : Token) : List Subscription → Failure → Session → Session → Prop where
  | filter {critic : Subscription} {later : List Subscription} {message : String} {s : Session}
      (fails : critic.filter.accepts token = .error message) :
      Cut token (critic :: later) (.raised message) s s
  | respond {critic : Subscription} {later : List Subscription} {failure : Failure} {fuel : Nat}
      {s t : Session} (wants : critic.filter.accepts token = .ok true)
      (responds : (Session.respond fuel ⟨critic, token⟩ s).run.run
        (s.accept ⟨critic, token⟩) = (.error failure, t)) :
      Cut token (critic :: later) failure s t
  | bound {left : List Subscription} {s : Session} : Cut token left .exhausted s s

/-- How a delivery goes. Without a failure all who want the token have been handed it. Otherwise
those before the one that failed have. -/
def Delivered (token : Token) (subscriptions : List Subscription) (s : Session)
    (result : Except Failure Answer) (t : Session) : Prop :=
  match result with
  | .ok _ =>
      (∀ subscription ∈ subscriptions, subscription.Answers token) ∧
        Visits token (subscriptions.filter (·.wants token)) s t
  | .error failure => ∃ before later middle, subscriptions = before ++ later ∧
      (∀ subscription ∈ before, subscription.Answers token) ∧
      Visits token (before.filter (·.wants token)) s middle ∧ Cut token later failure middle t

section Deliveries

variable {token : Token} {subscription : Subscription} {subscriptions : List Subscription}
  {s t : Session} {result : Except Failure Answer}

/-- To be handed a token is to take it and then to respond. -/
theorem run_hand (fuel : Nat) (token : Token) (subscription : Subscription) (s : Session) :
    (exec (fuel + 1) (.hand token subscription)).run.run s =
      (respond fuel ⟨subscription, token⟩ s).run.run (s.accept ⟨subscription, token⟩) := by
  rw [exec, run_hand_eq, respond]
  cases s.consumers[subscription.consumer]? with
  | none => rfl
  | some consumer => cases consumer <;> rfl

theorem cut_hand {fuel : Nat} {failure : Failure} {later : List Subscription}
    (wants : subscription.filter.accepts token = .ok true)
    (ran : (exec fuel (.hand token subscription)).run.run s = (.error failure, t)) :
    Cut token (subscription :: later) failure s t := by
  cases fuel with
  | zero =>
    cases ran
    exact .bound
  | succ fuel =>
    rw [run_hand] at ran
    exact .respond wants ran

theorem Visits.hand {fuel : Nat} {answer : Answer} {u : Session}
    (rest : Visits token subscriptions t u)
    (ran : (exec fuel (.hand token subscription)).run.run s = (.ok answer, t)) :
    Visits token (subscription :: subscriptions) s u := by
  cases fuel with
  | zero => cases ran
  | succ fuel =>
    rw [run_hand] at ran
    exact .cons ran rest

/-- One more subscriber in front of a delivery, who leaves the token or is handed it. -/
theorem Delivered.cons {accepted : Bool} {middle : Session}
    (answers : subscription.filter.accepts token = .ok accepted)
    (visited : ∀ {others u}, Visits token others middle u →
      Visits token ([subscription].filter (·.wants token) ++ others) s u)
    (delivered : Delivered token subscriptions middle result t) :
    Delivered token (subscription :: subscriptions) s result t := by
  have front (others : List Subscription) : (subscription :: others).filter (·.wants token) =
      [subscription].filter (·.wants token) ++ others.filter (·.wants token) :=
    List.filter_append [subscription] others
  have first : subscription.Answers token := ⟨accepted, answers⟩
  cases result with
  | ok answer =>
    obtain ⟨all, visits⟩ := delivered
    refine ⟨List.forall_mem_cons.2 ⟨first, all⟩, ?_⟩
    rw [front]
    exact visited visits
  | error failure =>
    obtain ⟨before, later, last, rfl, all, visits, cut⟩ := delivered
    refine ⟨subscription :: before, later, last, rfl, List.forall_mem_cons.2 ⟨first, all⟩, ?_, cut⟩
    rw [front]
    exact visited visits

/-- The induction is on the subscribers, whatever the bound on nested work is. -/
theorem delivered_exec {fuel : Nat}
    (ran : (exec fuel (.deliver token subscriptions)).run.run s = (result, t)) :
    Delivered token subscriptions s result t := by
  induction subscriptions generalizing fuel s with
  | nil =>
    cases fuel with
    | zero =>
      cases ran
      exact ⟨[], [], _, rfl, by simp, .nil, .bound⟩
    | succ fuel =>
      cases ran
      exact ⟨by simp, .nil⟩
  | cons subscription rest ih =>
    cases fuel with
    | zero =>
      cases ran
      exact ⟨[], _, _, rfl, by simp, .nil, .bound⟩
    | succ fuel =>
      cases accepts : subscription.filter.accepts token with
      | error message =>
        simp only [exec, perform, accepts] at ran
        cases ran
        exact ⟨[], _, _, rfl, by simp, .nil, .filter accepts⟩
      | ok accepted =>
        cases accepted with
        | false =>
          have left : [subscription].filter (·.wants token) = [] := by
            simp [Subscription.wants, accepts]
          simp only [exec, perform, accepts] at ran
          refine (ih ran).cons accepts fun visits => ?_
          rw [left]
          exact visits
        | true =>
          have taken : [subscription].filter (·.wants token) = [subscription] := by
            simp [Subscription.wants, accepts]
          simp only [exec, perform, accepts, run_bind] at ran
          cases handed : (exec fuel (.hand token subscription)).run.run s with
          | mk outcome middle =>
            rw [handed] at ran
            cases outcome with
            | error failure =>
              cases ran
              exact ⟨[], _, _, rfl, by simp, .nil, cut_hand accepts handed⟩
            | ok answer =>
              refine (ih ran).cons accepts fun visits => ?_
              rw [taken]
              exact visits.hand handed

end Deliveries

/-! ## Registries in any run -/

/-- What holds of registries in a session with a history. -/
structure Governed (changes : List Change) (s : Session) : Prop where
  orderly : Orderly changes s
  /-- A registry holds who came and did not go, in the order of coming, and nobody twice. -/
  holds : ∀ number scanner, s.scanners[number]? = some scanner →
    scanner.registry.subscriptions = held number changes ∧
      scanner.registry.subscriptions.Pairwise fun one next => one.ticket < next.ticket
  /-- A command that makes a change succeeds and makes just this change. -/
  obeys : ∀ fuel name command change, command.change? s name = some change →
    ∃ t, (exec (fuel + 1) (.obey name command)).run.run s = (.ok {}, t) ∧ change.Does s t
  /-- Taking back fails just if the ticket is not held, and then nothing happens. -/
  unregister : ∀ fuel name number scanner listener handle, s.find? name = some number →
    s.scanners[number]? = some scanner → s.handle? listener = some handle →
    ∃ result t, (exec (fuel + 1) (.obey name (.unregister listener))).run.run s = (result, t) ∧
      ((∃ title, result = .error (.notRegistered title)) ↔
        handle.ticket ∉ scanner.registry.subscriptions.map (·.ticket)) ∧
      (handle.ticket ∉ scanner.registry.subscriptions.map (·.ticket) → t = s) ∧
      (handle.ticket ∈ scanner.registry.subscriptions.map (·.ticket) →
        result = .ok {} ∧ Parts number handle.ticket s t ∧
          t.subscribersOf number =
            scanner.registry.subscriptions.filter (·.ticket ≠ handle.ticket))
  /-- A token that is given to be delivered goes to those who are subscribed now. -/
  notify : ∀ fuel name number scanner token result t, s.find? name = some number →
    s.scanners[number]? = some scanner →
    (exec fuel (.obey name (.notify token))).run.run s = (result, t) →
    Delivered token scanner.registry.subscriptions s result t
  /-- So does a token that the scan makes. -/
  finalize : ∀ fuel number scanner kind inline result t, s.scanners[number]? = some scanner →
    (exec (fuel + 1) (.finalize number kind inline)).run.run s = (result, t) →
    Delivered (scanner.cursor.token kind inline) scanner.registry.subscriptions
      (s.modifyCursor number (·.finalize kind)) result t

section Governed

variable {changes : List Change} {s t : Session} {name : String} {number : Nat} {scanner : Scanner}

theorem delivered_notify {fuel : Nat} {token : Token} {result : Except Failure Answer}
    (named : s.find? name = some number) (found : s.scanners[number]? = some scanner)
    (ran : (exec fuel (.obey name (.notify token))).run.run s = (result, t)) :
    Delivered token scanner.registry.subscriptions s result t := by
  cases fuel with
  | zero =>
    cases ran
    exact ⟨[], _, _, rfl, by simp, .nil, .bound⟩
  | succ fuel =>
    rw [exec, perform, obey, run_bind, run_numberOf, named] at ran
    simp only [run_bind, run_scannerAt, found] at ran
    exact delivered_exec ran

theorem delivered_finalize {fuel : Nat} {kind : Kind} {inline : Bool}
    {result : Except Failure Answer} (found : s.scanners[number]? = some scanner)
    (ran : (exec (fuel + 1) (.finalize number kind inline)).run.run s = (result, t)) :
    Delivered (scanner.cursor.token kind inline) scanner.registry.subscriptions
      (s.modifyCursor number (·.finalize kind)) result t := by
  rw [exec, perform, run_bind, run_scannerAt, found] at ran
  simp only [run_bind, run_modify] at ran
  cases handed : (exec fuel (.deliver (scanner.cursor.token kind inline)
      scanner.registry.subscriptions)).run.run (s.modifyCursor number (·.finalize kind)) with
  | mk outcome last =>
    rw [handed] at ran
    have delivered := delivered_exec handed
    cases outcome with
    | error failure =>
      cases ran
      exact delivered
    | ok answer =>
      cases ran
      exact delivered

theorem holds_iff {registry : Registry} {ticket : Nat} :
    registry.holds ticket = true ↔ ticket ∈ registry.subscriptions.map (·.ticket) := by
  simp [Registry.holds]

/-- Whoever was subscribed under a name is still there, subscribed or not. -/
theorem Orderly.lt_of_handle? (orderly : Orderly changes s) {listener : String}
    {handle : Subscription} (known : s.handle? listener = some handle) :
    handle.consumer < s.consumers.size := by
  obtain ⟨before, after, split, -⟩ := List.lookup_eq_some_iff.1 known
  have member : (listener, handle) ∈ s.handles := by simp [split]
  rw [orderly.handles] at member
  obtain ⟨subscription, inside, same⟩ := List.mem_map.1 member
  cases same
  exact orderly.consumers _ (List.mem_reverse.1 inside)

theorem Orderly.governed (orderly : Orderly changes s) : Governed changes s where
  orderly := orderly
  holds number scanner found := by
    rw [← subscribersOf_eq found]
    exact ⟨orderly.subscribers number, orderly.pairwise_subscribers number⟩
  obeys fuel name command change makes := by
    obtain ⟨t, ran, does⟩ := exists_obey_of_change orderly.named makes
    exact ⟨t, ran (exec fuel), does⟩
  unregister fuel name number scanner listener handle named found known := by
    have ran := run_unregister (exec fuel) named found known
    have distinct := orderly.nodup_tickets number
    by_cases member : handle.ticket ∈ scanner.registry.subscriptions.map (·.ticket)
    · have taken : scanner.registry.unregister? handle.ticket = some _ :=
        if_pos (holds_iff.2 member)
      have parts := parts_unregister found taken
      have fewer := parts.here
      rw [eraseP_ticket distinct, subscribersOf_eq found] at fewer
      rw [taken] at ran
      refine ⟨_, _, ran, ⟨nofun, fun absent => absurd member absent⟩,
        fun absent => absurd member absent, fun _ => ⟨rfl, parts, fewer⟩⟩
    · have refused : scanner.registry.unregister? handle.ticket = none :=
        if_neg fun holds => member (holds_iff.1 holds)
      have there := Array.getElem?_eq_getElem (orderly.lt_of_handle? known)
      rw [refused, there] at ran
      exact ⟨_, _, ran, ⟨fun _ => member, fun _ => ⟨_, rfl⟩⟩, fun _ => rfl,
        fun present => absurd present member⟩
  notify _ _ _ _ _ _ _ named found ran := delivered_notify named found ran
  finalize _ _ _ _ _ _ _ found ran := delivered_finalize found ran

end Governed

/-- Registries under change from inside. However a session is driven, every job in it, however deep,
is begun in a session with a history: a watch `eye` that gives alarms where there is none makes no
difference. Every change that the history tells of was made by a command that was obeyed, and passed
the watch under which the session is driven. So registries always hold who came and did not go, and
wherever a history leads, commands do to registries what they should, and deliveries go to those who
are subscribed when they begin. -/
theorem run_registries (watch : Job → Session → Option Failure) (fuel : Nat)
    (steps : List (Step Command)) :
    runWatched (fun _ _ => none) fuel steps {} = (run fuel steps, after fuel steps) ∧
    (∀ eye, (∀ job s, Reached watch s → eye job s = watch job s) →
      runWatched eye fuel steps {} = runWatched watch fuel steps {}) ∧
    Reached watch (runWatched watch fuel steps {}).2 ∧
    ∀ changes s, History watch changes s → Governed changes s := by
  have start : Reached watch {} := ⟨[], .start⟩
  refine ⟨runWatched_none fuel steps, ?_, ?_, ?_⟩
  · intro eye alike
    exact (runWatched_alike alike fuel steps start).1
  · exact (runWatched_alike (fun _ _ _ => rfl) fuel steps start).2
  · intro changes s history
    exact history.orderly.governed

/-- A guest who leaves at the first token and brings a latecomer, and a host who delivers a token
from inside the delivery of another. At last the guest is to leave once more. -/
def visitors : List (Step Command) :=
  [{ command := .create "" none none },
    { command := .register "guest" .all false
        [{ call := some 1, step := { command := .unregister "guest" } },
          { call := some 1, step := { command := .register "late" .all false [] none } }] none },
    { command := .register "host" .all false
        [{ call := some 1, step := { command := .notify { kind := .text, value := "inner" } } }]
        none },
    { command := .notify { kind := .text, value := "outer" } },
    { command := .unregister "guest" }]

theorem run_registries_visitors :
    ∃ changes, Governed changes (after 20 visitors) ∧
      (held 0 changes).map (·.name) = ["host", "late"] ∧
      (made changes).map (·.name) = ["guest", "host", "late"] ∧
      (after 20 visitors).log.toList =
        [.plain "guest" .text "outer", .plain "host" .text "outer", .plain "host" .text "inner",
          .plain "late" .text "inner"] := by
  obtain ⟨same, -, ⟨changes, history⟩, governed⟩ := run_registries (fun _ _ => none) 20 visitors
  rw [same] at history
  have rules := governed changes _ history
  have names : ((after 20 visitors).handles.map Prod.fst).reverse =
      (made changes).map (·.name) := by
    rw [rules.orderly.handles]
    simp [Function.comp_def]
  refine ⟨changes, rules, ?_, ?_, ?_⟩
  · rw [← rules.orderly.subscribers]
    decide +kernel
  · rw [← names]
    decide +kernel
  · decide +kernel

end Session

end Scenario
