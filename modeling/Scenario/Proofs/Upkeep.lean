import Scenario.Proofs.Obeying

/-! # What work keeps up

Much that is said of a session holds because every job keeps it up, whoever listens and interferes,
and also where the work fails. Such a thing is said here by accounts of the session, which go on
from each other as the work goes on (`Upkeep`). To show it, one says how an account goes on with
each change that a job makes by itself. That jobs lie inside each other is dealt with once for all
accounts: for one job under the assumption that it holds of the jobs inside it (`agrees_perform`),
and then to any depth (`concurs_exec`).

Two ways of doing jobs are followed side by side, so that it can also be shown that they do the
same as long as there is an account.
-/

namespace Scenario.Session

/-! ## Accounts -/

/-- A way to account for sessions. -/
structure Accounts (Account : Type) where
  /-- The account is one of the session. -/
  Holds : Account → Session → Prop
  /-- An account goes on from another one. -/
  Later : Account → Account → Prop
  /-- A token may be delivered. -/
  Knows : Account → Token → Prop
  /-- A command may be obeyed. -/
  Allows : Command → Prop
  /-- What is known of a job that is begun in a session. -/
  Begun : Job → Session → Prop

namespace Accounts

variable {Account : Type} (accounts : Accounts Account)

/-- There is an account of the session that goes on from another one. -/
def Reaches (account : Account) (s : Session) : Prop :=
  ∃ later, accounts.Later account later ∧ accounts.Holds later s

/-- What has to be allowed and known for a job. -/
def Admits (account : Account) : Job → Prop
  | .obey _ command => accounts.Allows command
  | .deliver token _ => accounts.Knows account token
  | .hand token _ => accounts.Knows account token
  | .react _ _ reactions => ∀ reaction ∈ reactions, accounts.Allows reaction.step.command
  | .steps steps => ∀ step ∈ steps, accounts.Allows step.command
  | _ => True

/-- Two pieces of work do the same in a session, and the account of it goes on. -/
structure Agrees {α : Type} (account : Account) (one two : Run α) (s : Session) : Prop where
  same : one.run.run s = two.run.run s
  kept : accounts.Reaches account (left two s)

/-- In sessions with an account, two ways of doing jobs agree. -/
def Concurs (one two : Job → Run Answer) : Prop :=
  ∀ job account s, accounts.Holds account s → accounts.Admits account job →
    accounts.Agrees account (one job) (two job) s

variable {accounts}

/-- Where everything is allowed and known, every job is admitted. -/
theorem admits_of_forall (allows : ∀ command, accounts.Allows command)
    (knows : ∀ account token, accounts.Knows account token) (account : Account) (job : Job) :
    accounts.Admits account job := by
  cases job with
  | obey name command => exact allows command
  | deliver token subscriptions => exact knows account token
  | hand token subscription => exact knows account token
  | react home call reactions => exact fun reaction _ => allows reaction.step.command
  | steps steps => exact fun step _ => allows step.command
  | _ => trivial

end Accounts

/-- Accounts that are kept up: each change that a job makes by itself leads to a later account. -/
structure Upkeep (Account : Type) extends Accounts Account where
  refl : ∀ account, Later account account
  trans : ∀ {account middle later}, Later account middle → Later middle later →
    Later account later
  knows : ∀ {account later token}, Later account later → Knows account token → Knows later token
  /-- What a command gives to be delivered may be delivered. -/
  notify : ∀ {account token}, Allows (.notify token) → Knows account token
  within : ∀ {options steps}, Allows (.within options steps) → ∀ step ∈ steps, Allows step.command
  /-- What listeners do about a token is allowed. -/
  reactions : ∀ {account s listener}, Holds account s → .recorder listener ∈ s.consumers →
    ∀ reaction ∈ listener.reactions, Allows reaction.step.command
  options : ∀ {account s} (options : Options), Holds account s →
    toAccounts.Reaches account { s with options }
  moved : ∀ {account s number scanner cursor}, Holds account s →
    s.scanners[number]? = some scanner → Operation.Reached scanner.cursor cursor →
    toAccounts.Reaches account (s.modifyCursor number fun _ => cursor)
  /-- A token that is made may be delivered. -/
  made : ∀ {account s number scanner} (kind : Kind) (inline : Bool), Holds account s →
    s.scanners[number]? = some scanner →
    ∃ later, Later account later ∧ Holds later (s.modifyCursor number (·.finalize kind)) ∧
      Knows later (scanner.cursor.token kind inline)
  accepted : ∀ {account s token} (subscription : Subscription), Holds account s →
    Knows account token → toAccounts.Reaches account (s.accept ⟨subscription, token⟩)
  obeyed : ∀ {account s name command} (again : Job → Run Answer), Holds account s →
    Allows command → Begun (.obey name command) s → command.handsOn = false →
    toAccounts.Reaches account (left (obey again name command) s)

namespace Upkeep

variable {Account : Type} {upkeep : Upkeep Account} {account later : Account} {s : Session}

theorem reaches (holds : upkeep.Holds account s) : upkeep.Reaches account s :=
  ⟨account, upkeep.refl account, holds⟩

theorem reaches_of_later (more : upkeep.Later account later) (reaches : upkeep.Reaches later s) :
    upkeep.Reaches account s := by
  obtain ⟨last, further, holds⟩ := reaches
  exact ⟨last, upkeep.trans more further, holds⟩

/-! ## Work one after another -/

section Work

variable {α β : Type} {one two : Run α} {next other : α → Run β}

/-- Work that comes down to other work, in a session that the account has gone on to. -/
theorem agrees_of_run {t : Session} {first second : Run α} (more : upkeep.Later account later)
    (left : one.run.run s = first.run.run t) (right : two.run.run s = second.run.run t)
    (agrees : upkeep.Agrees later first second t) : upkeep.Agrees account one two s where
  same := by rw [left, right, agrees.same]
  kept := by
    rw [Session.left, right]
    exact reaches_of_later more agrees.kept

theorem agrees_bind (first : upkeep.Agrees account one two s)
    (rest : ∀ value later, upkeep.Later account later → upkeep.Holds later (left two s) →
      upkeep.Agrees later (next value) (other value) (left two s)) :
    upkeep.Agrees account (one >>= next) (two >>= other) s := by
  obtain ⟨same, later, more, holds⟩ := first
  cases ran : two.run.run s with
  | mk result t =>
    have ended : left two s = t := by rw [left, ran]
    rw [ended] at holds rest
    cases result with
    | error failure =>
      refine ⟨?_, later, more, ?_⟩
      · rw [run_bind, run_bind, same, ran]
      · rw [left_bind, ended, ran]
        exact holds
    | ok value =>
      refine agrees_of_run more ?_ ?_ (rest value later more holds)
      · rw [run_bind, same, ran]
      · rw [run_bind, ran]

theorem agrees_modify {change : Session → Session} {next other : Run β}
    (more : upkeep.Later account later) (rest : upkeep.Agrees later next other (change s)) :
    upkeep.Agrees account (do modify change; next) (do modify change; other) s := by
  have ran (work : Run β) :
      (do modify change; work : Run β).run.run s = work.run.run (change s) := rfl
  exact agrees_of_run more (ran next) (ran other) rest

variable (holds : upkeep.Holds account s)
include holds

theorem agrees_pure (value : α) : upkeep.Agrees account (pure value) (pure value) s :=
  ⟨rfl, reaches holds⟩

theorem agrees_throw (failure : Failure) :
    upkeep.Agrees account (throw failure : Run α) (throw failure) s :=
  ⟨rfl, reaches holds⟩

/-- Work after something was looked up. -/
theorem agrees_lookup {work : Run α} (still : left work s = s)
    (rest : ∀ value, (work.run.run s).1 = .ok value →
      upkeep.Agrees account (next value) (other value) s) :
    upkeep.Agrees account (work >>= next) (work >>= other) s := by
  cases ran : work.run.run s with
  | mk result t =>
    obtain rfl : t = s := by rw [← still, left, ran]
    cases result with
    | error failure =>
      refine ⟨?_, ?_⟩
      · rw [run_bind, run_bind, ran]
      · rw [left_bind, still, ran]
        exact reaches holds
    | ok value =>
      refine agrees_of_run (upkeep.refl account) ?_ ?_ (rest value (by rw [ran]))
      · rw [run_bind, ran]
      · rw [run_bind, ran]

theorem agrees_numberOf {name : String} {next other : Nat → Run β}
    (rest : ∀ number, upkeep.Agrees account (next number) (other number) s) :
    upkeep.Agrees account (numberOf name >>= next) (numberOf name >>= other) s :=
  agrees_lookup holds (left_numberOf name s) fun number _ => rest number

theorem agrees_scannerAt {number : Nat} {next other : Scanner → Run β}
    (rest : ∀ scanner, s.scanners[number]? = some scanner →
      upkeep.Agrees account (next scanner) (other scanner) s) :
    upkeep.Agrees account (scannerAt number >>= next) (scannerAt number >>= other) s :=
  agrees_lookup holds (left_scannerAt number s) fun scanner ok => rest scanner (scannerAt_ok ok)

end Work

/-! ## Jobs -/

section Jobs

variable {one two : Job → Run Answer} (concurs : upkeep.Concurs one two)
  (holds : upkeep.Holds account s)
include concurs holds

theorem agrees_withOptions (options : Options) {job : Job}
    (admits : ∀ later, upkeep.Later account later → upkeep.Admits later job) :
    upkeep.Agrees account (withOptions options (one job)) (withOptions options (two job)) s := by
  obtain ⟨middle, more, changed⟩ := upkeep.options options holds
  obtain ⟨same, kept⟩ := concurs job middle _ changed (admits middle more)
  constructor
  · rw [run_withOptions, run_withOptions, same]
  · obtain ⟨later, further, holds⟩ := kept
    have back := upkeep.options s.options holds
    exact reaches_of_later (upkeep.trans more further) back

theorem agrees_obey {name : String} {command : Command} (allows : upkeep.Allows command)
    (begun : upkeep.Begun (.obey name command) s) :
    upkeep.Agrees account (obey one name command) (obey two name command) s := by
  by_cases alone : command.handsOn = false
  · rw [obey_eq_obey alone one two name]
    exact ⟨rfl, upkeep.obeyed two holds allows begun alone⟩
  · cases command with
    | finalize kind inline | follow rule | start =>
      exact agrees_numberOf holds fun _ => concurs _ _ s holds trivial
    | notify token =>
      exact agrees_numberOf holds fun _ => agrees_scannerAt holds fun _ _ =>
        concurs _ _ s holds (upkeep.notify allows)
    | within options steps =>
      exact agrees_withOptions concurs holds options fun _ _ => upkeep.within allows
    | _ => simp [Command.handsOn] at alone

theorem agrees_carryOut {number : Nat} {scanner : Scanner} {move : Scan.Move}
    (found : s.scanners[number]? = some scanner)
    (reached : Operation.Reached scanner.cursor move.cursor) :
    upkeep.Agrees account (carryOut one number move) (carryOut two number move) s := by
  obtain ⟨later, more, moved⟩ := upkeep.moved holds found reached
  cases move with
  | done cursor => exact agrees_modify more (agrees_pure moved _)
  | fail fault cursor => exact agrees_modify more (agrees_throw moved _)
  | emit kind inline warning resume cursor =>
    have made := concurs (.finalize number kind inline) later _ moved trivial
    refine agrees_modify more (agrees_bind made fun _ _ _ holds => ?_)
    exact concurs (.resume number resume) _ _ holds trivial

theorem agrees_finalize (number : Nat) (kind : Kind) (inline : Bool) :
    upkeep.Agrees account (perform one (.finalize number kind inline))
      (perform two (.finalize number kind inline)) s := by
  refine agrees_scannerAt holds fun scanner found => ?_
  obtain ⟨later, more, made, known⟩ := upkeep.made kind inline holds found
  have delivered := concurs (.deliver _ scanner.registry.subscriptions) later _ made known
  exact agrees_modify more (agrees_bind delivered fun _ _ _ holds => agrees_pure holds _)

theorem agrees_hand {token : Token} (known : upkeep.Knows account token)
    (subscription : Subscription) :
    upkeep.Agrees account (perform one (.hand token subscription))
      (perform two (.hand token subscription)) s := by
  have ran (again : Job → Run Answer) := run_hand_eq again token subscription s
  obtain ⟨later, more, taken⟩ := upkeep.accepted subscription holds known
  -- Only a listener that records goes on to do something, as its reactions say.
  have idle : upkeep.Agrees later (pure {} : Run Answer) (pure {})
      (s.accept ⟨subscription, token⟩) := agrees_pure taken _
  cases there : s.consumers[subscription.consumer]? with
  | none =>
    simp only [there] at ran
    exact agrees_of_run more (ran one) (ran two) idle
  | some consumer =>
    simp only [there] at ran
    cases consumer with
    | recorder listener =>
      have allowed := upkeep.reactions holds (Array.mem_of_getElem? there)
      refine agrees_of_run more (ran one) (ran two) (concurs _ later _ taken ?_)
      exact fun reaction member => allowed reaction (List.mem_of_mem_filter member)
    | observer | builder | printer => exact agrees_of_run more (ran one) (ran two) idle

/-- What one subscriber does cannot take from the others what is known of the token. -/
theorem agrees_deliver {token : Token} (known : upkeep.Knows account token)
    (subscriptions : List Subscription) :
    upkeep.Agrees account (perform one (.deliver token subscriptions))
      (perform two (.deliver token subscriptions)) s := by
  cases subscriptions with
  | nil => exact agrees_pure holds _
  | cons subscription rest =>
    rw [perform, perform]
    cases subscription.filter.accepts token with
    | error message => exact agrees_throw holds _
    | ok accepted =>
      cases accepted with
      | false => exact concurs (.deliver token rest) _ s holds known
      | true =>
        have handed := concurs (.hand token subscription) _ s holds known
        exact agrees_bind handed fun _ _ more holds =>
          concurs (.deliver token rest) _ _ holds (upkeep.knows more known)

theorem agrees_react (home : String) (call : Nat) {reactions : List (Reaction Command)}
    (allowed : ∀ reaction ∈ reactions, upkeep.Allows reaction.step.command) :
    upkeep.Agrees account (perform one (.react home call reactions))
      (perform two (.react home call reactions)) s := by
  cases reactions with
  | nil => exact agrees_pure holds _
  | cons reaction rest =>
    obtain ⟨first, others⟩ := List.forall_mem_cons.1 allowed
    rw [perform, perform]
    split
    · have obeyed := concurs (.obey (reaction.step.cursor.getD home) reaction.step.command) _ s
        holds first
      refine agrees_bind obeyed fun answer _ _ holds => ?_
      split
      · exact agrees_throw holds _
      · exact concurs (.react home call rest) _ _ holds others
    · exact concurs (.react home call rest) _ s holds others

theorem agrees_report (step : Step Command) (allows : upkeep.Allows step.command) :
    (report one step).run s = (report two step).run s ∧
      upkeep.Reaches account ((report two step).run s).2 := by
  obtain ⟨same, kept⟩ :=
    concurs (.obey (step.cursor.getD mainCursor) step.command) _ s holds allows
  constructor
  · simp only [report, StateT.run_bind, StateT.run_get, pure_bind]
    rw [same]
  · rw [left_report]
    exact kept

theorem agrees_steps {steps : List (Step Command)}
    (allowed : ∀ step ∈ steps, upkeep.Allows step.command) :
    upkeep.Agrees account (perform one (.steps steps)) (perform two (.steps steps)) s := by
  cases steps with
  | nil => exact agrees_pure holds _
  | cons step rest =>
    obtain ⟨first, others⟩ := List.forall_mem_cons.1 allowed
    obtain ⟨same, kept⟩ := agrees_report concurs holds step first
    have reported : upkeep.Agrees account (report one step : StateM Session Report)
        (report two step : StateM Session Report) s :=
      ⟨congrArg (fun made : Report × Session => (Except.ok made.1, made.2)) same, kept⟩
    rw [perform, perform]
    refine agrees_bind reported fun report _ _ holds => ?_
    split
    · exact agrees_pure holds _
    · have going := concurs (.steps rest) _ _ holds others
      exact agrees_bind going fun _ _ _ holds => agrees_pure holds _

/-- One job keeps an account up if the jobs inside it do. -/
theorem agrees_perform {job : Job} (admits : upkeep.Admits account job)
    (begun : upkeep.Begun job s) : upkeep.Agrees account (perform one job) (perform two job) s := by
  cases job with
  | obey name command => exact agrees_obey concurs holds admits begun
  | finalize number kind inline => exact agrees_finalize concurs holds number kind inline
  | follow number rule =>
    exact agrees_scannerAt holds fun scanner found =>
      agrees_carryOut concurs holds found (Scan.reached_start scanner.cursor rule)
  | resume number resume =>
    exact agrees_scannerAt holds fun scanner found =>
      agrees_carryOut concurs holds found (Scan.reached_step scanner.cursor resume)
  | pass number =>
    refine agrees_scannerAt holds fun scanner _ => ?_
    split
    · exact agrees_pure holds _
    · have line := concurs (.follow number .line) _ s holds trivial
      exact agrees_bind line fun _ _ _ holds => concurs (.pass number) _ _ holds trivial
  | deliver token subscriptions => exact agrees_deliver concurs holds admits subscriptions
  | hand token subscription => exact agrees_hand concurs holds admits subscription
  | react home call reactions => exact agrees_react concurs holds home call admits
  | steps steps => exact agrees_steps concurs holds admits

end Jobs

/-- Whatever is done in a session, and to whatever depth, accounts are kept up. -/
theorem concurs_exec (begun : ∀ job s, upkeep.Begun job s) (fuel : Nat) :
    upkeep.Concurs (exec fuel) (exec fuel) := by
  induction fuel with
  | zero =>
    intro job account s holds admits
    exact agrees_throw holds _
  | succ fuel ih =>
    intro job account s holds admits
    exact agrees_perform ih holds admits (begun job s)

end Upkeep

end Scenario.Session
