import Scenario.Proofs.Obeying
import Scenario.Proofs.Observing

/-! # Who is subscribed

A registry is changed by commands only: one that subscribes puts a subscription with a new ticket
at its end (`Joins`), and one that takes a subscription back removes just that one (`Parts`). A
command makes one such change (`exists_obey_of_change`) or leaves all registries alone, unless it
hands on a job (`Deed.quiet`).
-/

namespace Scenario.Session

/-! ## Changes -/

/-- A change of the registry of a scan. -/
inductive Change where
  /-- A subscription is made. -/
  | joined (number : Nat) (subscription : Subscription)
  /-- The subscription of a ticket is taken back. -/
  | parted (number ticket : Nat)

/-- The change that a command makes in a session, if it makes one. -/
def Command.change? (s : Session) (name : String) : Command → Option Change
  | .register listener filter whole _ none => enters listener s.consumers.size filter whole
  | .register listener filter whole _ (some like) =>
      (s.recorder? like).bind fun consumer => enters listener consumer filter whole
  | .observe observer watcher => enters observer s.consumers.size watcher.filter true
  | .build builder => enters builder s.consumers.size .all true
  | .print printer => enters printer s.consumers.size (.kinds [.text, .label]) true
  | .unregister listener => do
      let number ← s.find? name
      let scanner ← s.scanners[number]?
      let handle ← s.handle? listener
      if scanner.registry.holds handle.ticket then some (.parted number handle.ticket) else none
  | _ => none
where
  /-- A subscription with the next ticket. -/
  enters (listener : String) (consumer : Nat) (filter : Filter) (whole : Bool) : Option Change :=
    (s.find? name).map fun number =>
      .joined number { ticket := s.nextTicket, name := listener, consumer, filter, whole }

/-! ## What changes no registry -/

/-- The subscribers of a scan, in the order of their subscriptions. -/
def subscribersOf (s : Session) (number : Nat) : List Subscription :=
  (s.scanners[number]?.map (·.registry.subscriptions)).getD []

/-- Between two sessions no subscription is made or taken back. There may be more scans, to which
nobody is subscribed yet. -/
structure Quiet (s t : Session) : Prop where
  subscribers : ∀ number, t.subscribersOf number = s.subscribersOf number
  handles : t.handles = s.handles
  tickets : t.nextTicket = s.nextTicket
  consumers : t.consumers.size = s.consumers.size
  scans : s.scanners.size ≤ t.scanners.size
  names : ∀ name number, t.find? name = some number →
    number < t.scanners.size ∨ s.find? name = some number

section Quiet

variable {s t : Session}

@[refl] theorem Quiet.refl (s : Session) : Quiet s s where
  subscribers _ := rfl
  handles := rfl
  tickets := rfl
  consumers := rfl
  scans := Nat.le_refl _
  names _ _ found := .inr found

theorem subscribersOf_eq {number : Nat} {scanner : Scanner}
    (found : s.scanners[number]? = some scanner) :
    s.subscribersOf number = scanner.registry.subscriptions := by
  rw [subscribersOf, found]
  rfl

theorem subscribersOf_modifyCursor (s : Session) (number : Nat) (change : Cursor → Cursor)
    (other : Nat) : (s.modifyCursor number change).subscribersOf other = s.subscribersOf other := by
  unfold subscribersOf modifyCursor
  rw [Array.getElem?_modify]
  split
  · rw [Option.map_map]
    rfl
  · rfl

theorem quiet_modifyCursor (s : Session) (number : Nat) (change : Cursor → Cursor) :
    Quiet s (s.modifyCursor number change) where
  subscribers := subscribersOf_modifyCursor s number change
  handles := rfl
  tickets := rfl
  consumers := rfl
  scans := by simp [modifyCursor]
  names _ _ found := .inr found

/-- Nobody is subscribed to a new scan. -/
theorem quiet_create (s : Session) (name : String) (cursor : Cursor) :
    Quiet s (s.create name { cursor }) where
  subscribers number := by
    unfold subscribersOf create
    rw [Array.getElem?_push]
    split
    · next last =>
      have none : s.scanners[number]? = none := by simp [last]
      rw [none]
      rfl
    · rfl
  handles := rfl
  tickets := rfl
  consumers := rfl
  scans := by simp [create]
  names other number found := by
    have given : ((name, s.scanners.size) :: s.cursors).lookup other = some number := found
    rw [List.lookup_cons] at given
    split at given
    · cases given
      exact .inl (by simp [create])
    · exact .inr given

theorem quiet_accept (s : Session) (receipt : Receipt) : Quiet s (s.accept receipt) where
  subscribers _ := rfl
  handles := rfl
  tickets := rfl
  consumers := by simp [accept]
  scans := Nat.le_refl _
  names _ _ found := .inr found

theorem quiet_withOptions (s : Session) (options : Options) : Quiet s { s with options } :=
  ⟨fun _ => rfl, rfl, rfl, rfl, Nat.le_refl _, fun _ _ found => .inr found⟩

end Quiet

/-! ## What obeying a command changes -/

/-- From `s` to `t` a subscription to a scan is made. -/
structure Joins (number : Nat) (subscription : Subscription) (s t : Session) : Prop where
  here : t.subscribersOf number = s.subscribersOf number ++ [subscription]
  others : ∀ other ≠ number, t.subscribersOf other = s.subscribersOf other
  ticket : subscription.ticket = s.nextTicket
  tickets : t.nextTicket = s.nextTicket + 1
  handles : t.handles = (subscription.name, subscription) :: s.handles
  consumer : subscription.consumer < t.consumers.size
  consumers : s.consumers.size ≤ t.consumers.size
  scans : t.scanners.size = s.scanners.size
  names : t.cursors = s.cursors

/-- From `s` to `t` the subscription of a ticket is taken back from a scan. -/
structure Parts (number ticket : Nat) (s t : Session) : Prop where
  held : ticket ∈ (s.subscribersOf number).map (·.ticket)
  here : t.subscribersOf number =
    (s.subscribersOf number).eraseP fun subscription => subscription.ticket == ticket
  others : ∀ other ≠ number, t.subscribersOf other = s.subscribersOf other
  /-- Nothing else changes. -/
  same : t = { s with scanners := t.scanners }
  scans : t.scanners.size = s.scanners.size

/-- What a change does. -/
def Change.Does (change : Change) (s t : Session) : Prop :=
  match change with
  | .joined number subscription => Joins number subscription s t
  | .parted number ticket => Parts number ticket s t

section Obey

variable {s : Session} {number : Nat} {scanner : Scanner} {again : Job → Run Answer}
  {name : String}

theorem subscribersOf_modifyRegistry (found : s.scanners[number]? = some scanner)
    (change : Registry → Registry) :
    (s.modifyRegistry number change).subscribersOf number =
        (change scanner.registry).subscriptions ∧
      ∀ other ≠ number, (s.modifyRegistry number change).subscribersOf other =
        s.subscribersOf other := by
  constructor
  · rw [subscribersOf_eq (getElem?_modifyRegistry found change)]
  · intro other apart
    unfold subscribersOf modifyRegistry
    rw [Array.getElem?_modify, if_neg (Ne.symm apart)]

theorem joins_subscribe (found : s.scanners[number]? = some scanner) (listener : String)
    {consumer : Nat} (there : consumer < s.consumers.size) (filter : Filter) (whole : Bool) :
    Joins number { ticket := s.nextTicket, name := listener, consumer, filter, whole } s
      (s.subscribe number listener consumer filter whole) := by
  obtain ⟨here, others⟩ := subscribersOf_modifyRegistry found
    (·.register { ticket := s.nextTicket, name := listener, consumer, filter, whole })
  refine ⟨?_, others, rfl, rfl, rfl, there, Nat.le_refl _, ?_, rfl⟩
  · rw [subscribersOf_eq found]
    exact here
  · simp [subscribe, modifyRegistry]

theorem joins_attach (found : s.scanners[number]? = some scanner) (listener : String)
    (consumer : Consumer) (filter : Filter) (whole : Bool) :
    Joins number
      { ticket := s.nextTicket, name := listener, consumer := s.consumers.size, filter, whole } s
      ((s.addConsumer consumer).subscribe number listener s.consumers.size filter whole) := by
  have there : s.consumers.size < (s.addConsumer consumer).consumers.size := by
    simp [addConsumer]
  have added : (s.addConsumer consumer).scanners[number]? = some scanner := found
  have joins := joins_subscribe added listener there filter whole
  exact ⟨joins.here, joins.others, rfl, rfl, rfl, joins.consumer,
    (Nat.le_of_lt there).trans joins.consumers, joins.scans, rfl⟩

theorem parts_unregister (found : s.scanners[number]? = some scanner) {ticket : Nat}
    {fewer : Registry} (taken : scanner.registry.unregister? ticket = some fewer) :
    Parts number ticket s (s.modifyRegistry number fun _ => fewer) := by
  obtain ⟨here, others⟩ := subscribersOf_modifyRegistry found fun _ => fewer
  rw [Registry.unregister?] at taken
  split at taken
  · next holds =>
    cases taken
    refine ⟨?_, ?_, others, rfl, by simp [modifyRegistry]⟩
    · rw [subscribersOf_eq found]
      simpa [Registry.holds] using holds
    · rw [subscribersOf_eq found]
      exact here
  · cases taken

theorem lt_of_recorder? {like : String} {consumer : Nat}
    (there : s.recorder? like = some consumer) : consumer < s.consumers.size := by
  obtain ⟨⟨other, subscription⟩, -, same⟩ := List.exists_of_findSome?_eq_some there
  simp only [Bool.and_eq_true, Option.ite_none_right_eq_some, Option.some.injEq] at same
  obtain ⟨⟨-, recorder⟩, rfl⟩ := same
  by_contra outside
  have none : s.consumers[subscription.consumer]? = none := by simpa using outside
  simp [isRecorder, none] at recorder

/-! ### Commands one by one -/

/-- Taking back succeeds just if the ticket is held. Otherwise nothing happens. -/
theorem run_unregister (again : Job → Run Answer) (named : s.find? name = some number)
    (found : s.scanners[number]? = some scanner) {listener : String} {handle : Subscription}
    (known : s.handle? listener = some handle) :
    (obey again name (.unregister listener)).run.run s =
      match scanner.registry.unregister? handle.ticket with
      | some fewer => (.ok {}, s.modifyRegistry number fun _ => fewer)
      | none =>
          match s.consumers[handle.consumer]? with
          | some consumer => (.error (.notRegistered consumer.title), s)
          | none => (.error (.unknown listener), s) := by
  rw [obey, run_bind, run_numberOf, named]
  simp only [run_bind, run_scannerAt, found, run_handleOf, known]
  cases scanner.registry.unregister? handle.ticket with
  | some fewer => rfl
  | none =>
    simp only [run_get_bind]
    cases s.consumers[handle.consumer]? <;> rfl

/-- The scans that have names exist. -/
def Named (s : Session) : Prop := ∀ name number, s.find? name = some number →
  number < s.scanners.size

theorem Named.exists_scanner (valid : Named s) (named : s.find? name = some number) :
    ∃ scanner, s.scanners[number]? = some scanner :=
  ⟨_, Array.getElem?_eq_getElem (valid name number named)⟩

theorem exists_of_enters {listener : String} {consumer : Nat} {filter : Filter} {whole : Bool}
    {change : Change} (enters : Command.change?.enters s name listener consumer filter whole =
      some change) :
    ∃ number, s.find? name = some number ∧ change =
      .joined number { ticket := s.nextTicket, name := listener, consumer, filter, whole } := by
  obtain ⟨number, named, rfl⟩ := Option.map_eq_some_iff.1 enters
  exact ⟨number, named, rfl⟩

/-- A command that makes a change makes this change and nothing else. -/
theorem exists_obey_of_change (valid : Named s) {command : Command} {change : Change}
    (makes : command.change? s name = some change) :
    ∃ t, (∀ again, (obey again name command).run.run s = (.ok {}, t)) ∧ change.Does s t := by
  have attached {listener : String} {consumer : Consumer} {filter : Filter} {whole : Bool}
      (enters : Command.change?.enters s name listener s.consumers.size filter whole =
        some change) :
      ∃ t, (attach name listener consumer filter whole).run.run s = (.ok {}, t) ∧
        change.Does s t := by
    obtain ⟨number, named, rfl⟩ := exists_of_enters enters
    obtain ⟨scanner, found⟩ := valid.exists_scanner named
    exact ⟨_, run_attach named _ _ _ _, joins_attach found _ _ _ _⟩
  cases command with
  | register listener filter whole reactions like =>
    cases like with
    | none =>
      obtain ⟨t, ran, does⟩ := attached makes
      exact ⟨t, fun _ => ran, does⟩
    | some like =>
      obtain ⟨consumer, there, enters⟩ := Option.bind_eq_some_iff.1 makes
      obtain ⟨number, named, rfl⟩ := exists_of_enters enters
      obtain ⟨scanner, found⟩ := valid.exists_scanner named
      refine ⟨_, fun again => ?_, joins_subscribe found listener (lt_of_recorder? there) filter
        whole⟩
      rw [obey, run_bind, run_numberOf, named]
      simp only [run_bind, run_recorderOf, there]
      rfl
  | observe observer watcher | build builder | print printer =>
    obtain ⟨t, ran, does⟩ := attached makes
    exact ⟨t, fun _ => ran, does⟩
  | unregister listener =>
    simp only [Command.change?, Option.bind_eq_bind, Option.bind_eq_some_iff] at makes
    obtain ⟨number, named, scanner, found, handle, known, makes⟩ := makes
    split at makes
    · next holds =>
      cases makes
      have taken : scanner.registry.unregister? handle.ticket = some _ := if_pos holds
      refine ⟨_, fun again => ?_, parts_unregister found taken⟩
      rw [run_unregister again named found known, taken]
    · cases makes
  | _ => cases makes

theorem change?_of_brings {command : Command} {entry : Entry}
    (brings : command.Brings name entry) (s : Session) :
    command.change? s name =
      Command.change?.enters s name entry.listener s.consumers.size entry.filter entry.whole := by
  cases brings <;> rfl

/-- A command that makes no change leaves all registries alone, unless it hands on a job. -/
theorem Deed.quiet {command : Command} {t : Session} (deed : Deed s name command t)
    (none : command.change? s name = none) : Quiet s t := by
  cases deed with
  | nothing => exact .refl s
  | create source file options => exact quiet_create s name _
  | move is named found => exact quiet_modifyCursor s _ _
  | attach brings named =>
    rw [change?_of_brings brings, Command.change?.enters, named] at none
    cases none
  | join named there =>
    rw [Command.change?, there, Option.bind_some, Command.change?.enters, named] at none
    cases none
  | @part listener number scanner handle fewer named found known taken =>
    have gone : scanner.registry.holds handle.ticket = false := by
      simpa [Command.change?, named, found, known] using none
    simp [Registry.unregister?, gone] at taken
  | setOptions options => exact quiet_withOptions s options
  | resetOptions => exact quiet_withOptions s {}

end Obey

end Scenario.Session
