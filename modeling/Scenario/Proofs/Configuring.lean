import Scenario.Proofs.Snapshot

/-! # Scans that are started later

However the active options changed since a cursor was created, and also where those who listen to it
go on changing them, its scan reads what it would have read at once. What listeners may not do is to
raise and to drive the cursor themselves (`Bystanders`). Listeners that only set options and create
cursors, in blocks inside each other to any depth, do neither (`bystanders_configuring`).
-/

namespace Scenario

/-- The cursor, but for what it was created with and always keeps. -/
def Cursor.bare (c : Cursor) : Cursor := { c with file := none, options := {} }

theorem Cursor.eq_of_bare {c d : Cursor} (same : d.bare = c.bare) (options : d.options = c.options)
    (file : d.file = c.file) : d = c := by
  cases c
  cases d
  simp_all [bare]

namespace Session

/-! ## Listeners who stand aside -/

/-- Tokens are delivered to the subscribers of a scan one after another, wherever its cursor is by
then. Nobody fails, and nobody drives the scan. Nothing is said about its options. -/
def Bystanders (number : Nat) (subscriptions : List Subscription) : List Token → Session → Prop
  | [], _ => True
  | token :: tokens, s => ∀ c, ∃ answer t,
      Yields (exec · (.deliver token subscriptions)) (s.modifyCursor number fun _ => c)
        (.ok answer) t ∧
      (∀ later, t.scanners[number]? = some later →
        later.cursor.bare = c.bare ∧ later.registry.subscriptions = subscriptions) ∧
      Bystanders number subscriptions tokens t

section Late

variable {s t : Session}

/-- Those who do not drive a scan leave it as it is, because nobody can change its options. -/
theorem awaited_bystanders (number : Nat) (registry : Registry) :
    Awaited number registry (Bystanders number registry.subscriptions) where
  moved tokens s change aside := by
    cases tokens with
    | nil => trivial
    | cons token tokens =>
      intro c
      rw [modifyCursor_modifyCursor]
      exact aside c
  handed token tokens s c aside found := by
    obtain ⟨answer, t, yields, same, rest⟩ := aside c
    rw [modifyCursor_self found] at yields
    obtain ⟨later, there, reached⟩ := onward_of_yields yields number _ found
    obtain ⟨bare, subscriptions⟩ := same later there
    -- What the bystanders do not promise, no work can change.
    obtain ⟨options, file⟩ := reached.kept
    have cursor : later.cursor = c := Cursor.eq_of_bare bare options file
    have whole : later = ⟨c, registry⟩ := by
      obtain ⟨last, ⟨others⟩⟩ := later
      cases cursor
      cases subscriptions
      rfl
    exact ⟨answer, t, yields, rest, by rw [there, whole]⟩

/-- The cursor that a command created has the options that were active then. If nobody has moved it
yet, it is as it was. -/
theorem Leads.cursor_eq {name source : String} {file : Option String} {scanner : Scanner}
    (leads : Leads (s.create name { cursor := .ofSource source file s.options }) t)
    (found : t.scanners[s.scanners.size]? = some scanner)
    (unmoved : scanner.cursor.bare = .ofSource source none {}) :
    scanner.cursor = .ofSource source file s.options := by
  have made : (s.create name { cursor := .ofSource source file s.options }).scanners[
      s.scanners.size]? = some { cursor := .ofSource source file s.options } :=
    Array.getElem?_push_size
  obtain ⟨later, there, reached⟩ := leads.onward _ _ made
  cases found.symm.trans there
  obtain ⟨options, kept⟩ := reached.kept
  exact Cursor.eq_of_bare unmoved options kept

/-- A scan that is started late before bystanders. -/
theorem exists_yields_late {name source : String} {file : Option String} {scanner : Scanner}
    (leads : Leads (s.create name { cursor := .ofSource source file s.options }) t)
    (found : t.scanners[s.scanners.size]? = some scanner)
    (unmoved : scanner.cursor.bare = .ofSource source none {})
    (aside : Bystanders s.scanners.size scanner.registry.subscriptions
      (Scan.pass (.ofSource source file s.options)).tokens t) :
    ∃ u,
      Yields (exec · (.pass s.scanners.size)) t
        (outcome (Scan.pass (.ofSource source file s.options))) u ∧
      Delivers s.scanners.size (Scan.pass (.ofSource source file s.options)).tokens t u := by
  have same := leads.cursor_eq found unmoved
  obtain ⟨cursor, registry⟩ := scanner
  cases same
  obtain ⟨u, yields, delivers, -⟩ :=
    exists_yields_awaited (awaited_bystanders s.scanners.size registry) aside found
  exact ⟨u, yields, delivers⟩

end Late

/-! ## Listeners that change the options -/

/-- Whether a command only sets options and creates cursors, also in blocks inside each other. -/
inductive Command.Configures : Command → Prop where
  | setOptions (options : Options) : (Command.setOptions options).Configures
  | resetOptions : Command.resetOptions.Configures
  | getOptions : Command.getOptions.Configures
  | create (source : String) (file : Option String) (options : Option Options) :
      (Command.create source file options).Configures
  | within (options : Options) {steps : List (Step Command)}
      (inner : ∀ step ∈ steps, step.command.Configures) :
      (Command.within options steps).Configures

/-- A consumer does nothing but take what it is given and change the options. -/
def Consumer.Configures : Consumer → Prop
  | .recorder listener => ∀ reaction ∈ listener.reactions, reaction.step.command.Configures
  | _ => True

/-- There are more scans, and no consumer does more than before. -/
structure Aside (s t : Session) : Prop where
  scanners : ∃ more, t.scanners = s.scanners ++ more
  consumers : ∀ (i : Nat) (later : Consumer), t.consumers[i]? = some later →
    ∃ earlier : Consumer, s.consumers[i]? = some earlier ∧ (earlier.Configures → later.Configures)

section Aside

variable {s t u : Session}

theorem aside_of_consumers (scanners : ∃ more, t.scanners = s.scanners ++ more)
    (same : t.consumers = s.consumers) : Aside s t := by
  refine ⟨scanners, fun i later there => ⟨later, ?_, id⟩⟩
  rw [← same, there]

theorem Aside.refl (s : Session) : Aside s s := aside_of_consumers ⟨#[], by simp⟩ rfl

theorem Aside.trans (first : Aside s t) (second : Aside t u) : Aside s u := by
  obtain ⟨more, scanners⟩ := first.scanners
  obtain ⟨others, last⟩ := second.scanners
  refine ⟨⟨more ++ others, by rw [last, scanners, Array.append_assoc]⟩, ?_⟩
  intro i later there
  obtain ⟨middle, between, further⟩ := second.consumers i later there
  obtain ⟨earlier, before, change⟩ := first.consumers i middle between
  exact ⟨earlier, before, further ∘ change⟩

theorem Aside.getElem? (aside : Aside s t) {number : Nat} {scanner : Scanner}
    (found : s.scanners[number]? = some scanner) : t.scanners[number]? = some scanner := by
  obtain ⟨more, scanners⟩ := aside.scanners
  have inside : number < s.scanners.size := (Array.getElem?_eq_some_iff.1 found).1
  rw [scanners, Array.getElem?_append_left inside, found]

theorem aside_accept (s : Session) (receipt : Receipt) : Aside s (s.accept receipt) := by
  refine ⟨⟨#[], by simp [accept]⟩, ?_⟩
  intro i later there
  rw [getElem?_accept] at there
  split at there
  · obtain ⟨earlier, before, rfl⟩ := Option.map_eq_some_iff.1 there
    refine ⟨earlier, before, ?_⟩
    cases earlier <;> exact id
  · exact ⟨later, there, id⟩

end Aside

/-! ## Commands and reactions that stand aside -/

/-- Something ends without a failure for every depth that is large enough. -/
def Settles (done : Nat → Session → Option Failure × Session) (s t : Session) : Prop :=
  ∃ enough, ∀ fuel, enough ≤ fuel → done fuel s = (none, t)

section Settles

variable {done next : Nat → Session → Option Failure × Session} {s t u : Session}

theorem settles_of_succ (enough : Nat)
    (once : ∀ fuel, enough ≤ fuel → done (fuel + 1) s = (none, t)) : Settles done s t := by
  refine ⟨enough + 1, fun fuel large => ?_⟩
  obtain ⟨less, rfl⟩ := Nat.exists_eq_add_of_le' large
  exact once (less + enough) (Nat.le_add_left enough less)

theorem Settles.deeper (settles : Settles next t u) (enough : Nat)
    (once : ∀ fuel, enough ≤ fuel → done (fuel + 1) s = next fuel t) : Settles done s u := by
  obtain ⟨more, ran⟩ := settles
  apply settles_of_succ (max enough more)
  intro fuel large
  rw [once fuel (by omega), ran fuel (by omega)]

/-- Commands that each stand aside do so one after another. -/
theorem exists_settles_obeyAll (orders : List (Option (String × Command)))
    (settle : ∀ name command, some (name, command) ∈ orders → ∀ s,
      ∃ t, Settles (fun fuel => ending (exec fuel (.obey name command))) s t ∧ Aside s t)
    (s : Session) : ∃ t, Settles (obeyAll · orders) s t ∧ Aside s t := by
  induction orders generalizing s with
  | nil => exact ⟨s, settles_of_succ 0 fun _ _ => rfl, .refl s⟩
  | cons order rest ih =>
    have others := ih fun name command member => settle name command (List.mem_cons_of_mem _ member)
    cases order with
    | none =>
      obtain ⟨t, settles, aside⟩ := others s
      exact ⟨t, settles.deeper 0 fun _ _ => rfl, aside⟩
    | some order =>
      obtain ⟨name, command⟩ := order
      obtain ⟨t, ⟨enough, ran⟩, first⟩ := settle name command List.mem_cons_self s
      obtain ⟨u, settles, second⟩ := others t
      refine ⟨u, settles.deeper enough fun fuel large => ?_, first.trans second⟩
      have settled : ending _ s = _ := ran fuel large
      rw [obeyAll, settled]

/-- The induction is on how deep blocks lie inside each other. -/
theorem exists_settles_obey {command : Command} (configures : command.Configures) (name : String)
    (s : Session) :
    ∃ t, Settles (fun fuel => ending (exec fuel (.obey name command))) s t ∧ Aside s t := by
  induction configures generalizing name s with
  | setOptions options =>
    exact ⟨{ s with options }, settles_of_succ 0 fun _ _ => rfl,
      aside_of_consumers ⟨#[], by simp⟩ rfl⟩
  | resetOptions =>
    exact ⟨{ s with options := {} }, settles_of_succ 0 fun _ _ => rfl,
      aside_of_consumers ⟨#[], by simp⟩ rfl⟩
  | getOptions => exact ⟨s, settles_of_succ 0 fun _ _ => rfl, .refl s⟩
  | create source file options =>
    exact ⟨s.create name { cursor := .ofSource source file (options.getD s.options) },
      settles_of_succ 0 fun _ _ => rfl,
      aside_of_consumers ⟨#[_], Array.push_eq_append⟩ rfl⟩
  | @within options steps inner ih =>
    have each : ∀ name command, some (name, command) ∈ steps.map Step.order → ∀ s,
        ∃ t, Settles (fun fuel => ending (exec fuel (.obey name command))) s t ∧ Aside s t := by
      intro name command member s
      obtain ⟨step, inside, same⟩ := List.mem_map.1 member
      cases same
      exact ih step inside _ s
    obtain ⟨t, ⟨enough, ran⟩, aside⟩ := exists_settles_obeyAll _ each { s with options }
    refine ⟨{ t with options := s.options }, settles_of_succ enough ?_,
      ⟨aside.scanners, aside.consumers⟩⟩
    intro fuel large
    simp only [ending_within, enclosed, ran fuel large]

theorem exists_yields_react {reactions : List (Reaction Command)}
    (configure : ∀ reaction ∈ reactions, reaction.step.command.Configures) (home : String)
    (call : Nat) (s : Session) :
    ∃ t, Yields (exec · (.react home call reactions)) s (.ok {}) t ∧ Aside s t := by
  have each : ∀ name command, some (name, command) ∈ reactions.map (·.order? home call) → ∀ s,
      ∃ t, Settles (fun fuel => ending (exec fuel (.obey name command))) s t ∧ Aside s t := by
    intro name command member s
    obtain ⟨reaction, inside, same⟩ := List.mem_map.1 member
    rw [Reaction.order?] at same
    split at same
    · cases same
      exact exists_settles_obey (configure reaction inside) _ s
    · cases same
  obtain ⟨t, ⟨enough, ran⟩, aside⟩ := exists_settles_obeyAll _ each s
  refine ⟨t, ⟨enough, fun fuel large => ?_⟩, aside⟩
  have settled : obeyAll fuel _ s = _ := ran fuel large
  rw [run_react, settled]
  rfl

end Settles

/-! ## Deliveries -/

/-- All subscriptions are those of consumers that only change the options, and their filters always
answer. -/
def Configuring (subscriptions : List Subscription) (s : Session) : Prop :=
  ∀ subscription ∈ subscriptions, (∀ token, subscription.Answers token) ∧
    ∀ consumer, s.consumers[subscription.consumer]? = some consumer → consumer.Configures

section Deliveries

variable {s t : Session} {subscription : Subscription} {subscriptions : List Subscription}

theorem Configuring.aside (configuring : Configuring subscriptions s) (aside : Aside s t) :
    Configuring subscriptions t := by
  intro subscription member
  obtain ⟨answers, configures⟩ := configuring subscription member
  refine ⟨answers, fun later there => ?_⟩
  obtain ⟨earlier, before, kept⟩ := aside.consumers _ later there
  exact kept (configures earlier before)

/-- To be handed a token is to take it and then to react. -/
theorem exists_yields_hand
    (configures : ∀ consumer, s.consumers[subscription.consumer]? = some consumer →
      consumer.Configures) (token : Token) :
    ∃ answer t, Yields (exec · (.hand token subscription)) s (.ok answer) t ∧ Aside s t := by
  have responds : ∃ answer t,
      Yields (fun fuel => respond fuel ⟨subscription, token⟩ s)
        (s.accept ⟨subscription, token⟩) (.ok answer) t ∧
      Aside (s.accept ⟨subscription, token⟩) t := by
    unfold respond
    split
    · next listener there =>
      have due : ∀ reaction ∈ listener.reactions.filter (·.given token),
          reaction.step.command.Configures := fun reaction member =>
        configures _ there reaction (List.mem_of_mem_filter member)
      obtain ⟨t, yields, aside⟩ := exists_yields_react due listener.home (listener.calls + 1) _
      exact ⟨_, t, yields, aside⟩
    · exact ⟨_, _, yields_pure _ _, .refl _⟩
  obtain ⟨answer, t, ⟨enough, ran⟩, aside⟩ := responds
  refine ⟨answer, t, ⟨enough + 1, fun fuel large => ?_⟩, (aside_accept s _).trans aside⟩
  obtain ⟨less, rfl⟩ := Nat.exists_eq_add_of_le' large
  exact (run_hand _ token subscription s).trans (ran (less + enough) (Nat.le_add_left _ _))

theorem Configuring.yields_deliver (configuring : Configuring subscriptions s) (token : Token) :
    ∃ answer t, Yields (exec · (.deliver token subscriptions)) s (.ok answer) t ∧ Aside s t := by
  refine exists_yields_deliver Aside.refl (fun _ _ _ => Aside.trans) ?_
  intro subscription member t aside
  obtain ⟨answers, configures⟩ := configuring.aside aside subscription member
  exact ⟨answers token, exists_yields_hand configures token⟩

/-- Listeners that change the options stand aside of every scan, whatever tokens come. -/
theorem bystanders_configuring {number : Nat} {c : Cursor} {registry : Registry}
    (configuring : Configuring registry.subscriptions s)
    (found : s.scanners[number]? = some ⟨c, registry⟩) (tokens : List Token) :
    Bystanders number registry.subscriptions tokens s := by
  induction tokens generalizing s c with
  | nil => trivial
  | cons token tokens ih =>
    intro d
    have moved : Configuring registry.subscriptions (s.modifyCursor number fun _ => d) :=
      configuring
    obtain ⟨answer, t, yields, aside⟩ := moved.yields_deliver token
    have placed := aside.getElem? (getElem?_modifyCursor found fun _ => d)
    refine ⟨answer, t, yields, ?_, ih (moved.aside aside) placed⟩
    intro later there
    cases placed.symm.trans there
    exact ⟨rfl, rfl⟩

end Deliveries

/-! ## Options in scopes, and options that are kept -/

/-- What becomes of the active options of a session. -/
structure Scoped (s : Session) : Prop where
  /-- A block ends as its steps do, with their failure if there is one, and leaves the options of
  before active. -/
  block : ∀ fuel name options steps,
    ending (exec (fuel + 1) (.obey name (.within options steps))) s =
      enclosed options (obeyAll fuel (steps.map Step.order)) s
  /-- So it is however many blocks a command lies in. -/
  nested : ∀ fuel name enclosing options command,
    ending (exec (fuel + 2 * enclosing.length + 2)
        (.obey name (nested name (enclosing ++ [options]) command))) s =
      enclosed options (ending (exec fuel (.obey name command))) s
  /-- Where a listener takes the steps, their failure is that of the listener. -/
  listener : ∀ fuel home call reactions,
    (exec fuel (.react home call reactions)).run.run s =
      ((obeyAll fuel (reactions.map (·.order? home call)) s).1.elim (.ok {}) .error,
        (obeyAll fuel (reactions.map (·.order? home call)) s).2)
  report : ∀ fuel step, ∃ reply, ((report (exec fuel) step).run s).1.result =
    (ending (exec fuel (.obey (step.cursor.getD mainCursor) step.command)) s).1.elim (.ok reply)
      .error
  setOptions : ∀ fuel name options,
    ending (exec (fuel + 1) (.obey name (.setOptions options))) s = (none, { s with options })
  resetOptions : ∀ fuel name,
    ending (exec (fuel + 1) (.obey name .resetOptions)) s = (none, { s with options := {} })
  raise : ∀ fuel name message,
    ending (exec (fuel + 1) (.obey name (.raise message))) s = (some (.raised message), s)
  /-- A cursor that is created takes the active options. -/
  create : ∀ fuel name source file,
    ending (exec (fuel + 1) (.obey name (.create source file none))) s =
      (none, s.create name { cursor := .ofSource source file s.options })

/-- What becomes of the options that cursors of a session were created with. -/
structure Kept (s : Session) : Prop where
  /-- Whatever work leads on from here, a cursor keeps its options. -/
  options : ∀ t, Leads s t → ∀ (number : Nat) (scanner : Scanner),
    s.scanners[number]? = some scanner → ∃ later, t.scanners[number]? = some later ∧
      later.cursor.options = scanner.cursor.options
  /-- A scan that is started late gives what `tokenize` gives with the options of its creation,
  before listeners who may change the active ones but neither raise nor drive it. -/
  late : ∀ (t : Session) (name source : String) (file : Option String) (scanner : Scanner),
    let pass := Scan.pass (.ofSource source file s.options)
    Leads (s.create name { cursor := .ofSource source file s.options }) t →
    t.scanners[s.scanners.size]? = some scanner →
    scanner.cursor.bare = .ofSource source none {} →
    Bystanders s.scanners.size scanner.registry.subscriptions pass.tokens t →
    pass.result = tokenize source file s.options ∧
    ∃ u, Yields (exec · (.pass s.scanners.size)) t (outcome pass) u ∧
      Delivers s.scanners.size pass.tokens t u

theorem scopes_options (s : Session) : Scoped s where
  block fuel name options steps := congrFun (ending_within fuel name options steps) s
  nested fuel name enclosing options command :=
    congrFun (ending_nested fuel name enclosing options command) s
  listener fuel home call reactions := run_react fuel home call reactions s
  report fuel step := exists_result_report (exec fuel) step s
  setOptions _ _ _ := rfl
  resetOptions _ _ := rfl
  raise _ _ _ := rfl
  create _ _ _ _ := rfl

theorem keeps_options (s : Session) : Kept s where
  options t leads number scanner found := by
    obtain ⟨later, there, reached⟩ := leads.onward number scanner found
    exact ⟨later, there, reached.kept.1⟩
  late := by
    intro t name source file scanner pass leads found unmoved aside
    exact ⟨rfl, exists_yields_late leads found unmoved aside⟩

/-- Options are scoped and kept, in any session and so wherever work has led. -/
theorem options_scoped_and_kept (s : Session) : Scoped s ∧ Kept s :=
  ⟨scopes_options s, keeps_options s⟩

/-- A strict block in which a cursor is created, and then a listener that changes the options on
every call, for a while and for good. -/
def fickle : List (Step Command) :=
  [{ command := .within { strictTags := true } [{ command := .create "a[b" none none }] },
    { command := .register "l" .all true
        [{ step := { command := .within { skipBlanks := true } [
            { command := .resetOptions },
            { cursor := some "d", command := .create "[" none none },
            { command := .within {} [{ command := .setOptions { strictTags := true } }] }] } },
          { step := { command := .setOptions { skipBlanks := true } } }] none }]

theorem configuring_fickle :
    Configuring [{ ticket := 0, name := "l", consumer := 0, whole := true }] (after 9 fickle) := by
  intro subscription member
  rw [List.mem_singleton.1 member]
  refine ⟨fun token => ⟨true, rfl⟩, ?_⟩
  rintro consumer ⟨⟩
  have inner : ∀ step ∈ [({ command := .setOptions { strictTags := true } } : Step Command)],
      step.command.Configures := List.forall_mem_singleton.2 (.setOptions _)
  have block : (Command.within { skipBlanks := true } [
      { command := .resetOptions },
      { cursor := some "d", command := .create "[" none none },
      { command := .within {} [{ command := .setOptions { strictTags := true } }] }]).Configures :=
    .within _ (List.forall_mem_cons.2 ⟨.resetOptions,
      List.forall_mem_cons.2 ⟨.create .., List.forall_mem_singleton.2 (.within _ inner)⟩⟩)
  exact List.forall_mem_cons.2 ⟨block, List.forall_mem_singleton.2 (.setOptions _)⟩

/-- The tag that is not closed is refused, as it was to be in the block. -/
theorem options_scoped_and_kept_fickle :
    (after 9 fickle).options = {} ∧
    ∃ u, Yields (exec · (.pass 0)) (after 9 fickle)
        (.error (.fault ⟨.openTag, { line := 1, column := 2, offset := 1, stop := 1 }⟩)) u ∧
      Delivers 0 [{ kind := .text, value := "a", line := 1, column := 1, start := 0, stop := 1 }]
        (after 9 fickle) u := by
  have leads : Leads (Session.create { options := { strictTags := true } } mainCursor
      { cursor := .ofSource "a[b" none { strictTags := true } }) (after 9 fickle) :=
    .options {} (leads_after 9 (fickle.take 1) (fickle.drop 1))
  obtain ⟨-, kept⟩ := options_scoped_and_kept { options := { strictTags := true } }
  obtain ⟨-, u, yields, delivers⟩ := kept.late _ _ _ _
    ⟨.ofSource "a[b" none { strictTags := true },
      ⟨[{ ticket := 0, name := "l", consumer := 0, whole := true }]⟩⟩ leads rfl rfl
    (bystanders_configuring configuring_fickle rfl _)
  have fails : outcome (Scan.pass (.ofSource "a[b" none { strictTags := true })) =
      .error (.fault ⟨.openTag, { line := 1, column := 2, offset := 1, stop := 1 }⟩) := by cbv
  have tokens : (Scan.pass (.ofSource "a[b" none { strictTags := true })).tokens =
      [{ kind := .text, value := "a", line := 1, column := 1, start := 0, stop := 1 }] := by cbv
  exact ⟨rfl, u, fails ▸ yields, tokens ▸ delivers⟩

end Session

end Scenario
