import Scenario.Proofs.Execution
import Scenario.Session.Run

/-! # Passes inside a session

A session drives a cursor job by job, and at every token hands control to whoever listens. Here it
is shown that listeners who leave the scan alone make no difference: the session then delivers just
the tokens of the pass, in their order, and ends as the pass does (`exists_yields_pass`).

Jobs lie inside each other to a bounded depth. What matters is what they give once that bound is
large enough, so this is how work is described (`Yields`), and the descriptions are put together
like the work itself.
-/

namespace Scenario.Session

/-! ## Work with enough depth -/

theorem run_bind {α β : Type} (work : Run α) (next : α → Run β) (s : Session) :
    (work >>= next).run.run s =
      match work.run.run s with
      | (.ok value, t) => (next value).run.run t
      | (.error failure, t) => (.error failure, t) := by
  simp only [ExceptT.run_bind, StateT.run_bind]
  rcases work.run.run s with ⟨value | failure, t⟩ <;> rfl

/-- What work gives for every depth that is large enough. -/
def Yields {α : Type} (work : Nat → Run α) (s : Session) (result : Except Failure α)
    (t : Session) : Prop :=
  ∃ enough, ∀ fuel, enough ≤ fuel → (work fuel).run.run s = (result, t)

section Yields

variable {α β : Type} {work : Nat → Run α} {s t u : Session}

theorem yields_pure (value : α) (s : Session) : Yields (fun _ => pure value) s (.ok value) s :=
  ⟨0, fun _ _ => rfl⟩

theorem yields_throw (failure : Failure) (s : Session) :
    Yields (fun _ => (throw failure : Run α)) s (.error failure) s :=
  ⟨0, fun _ _ => rfl⟩

theorem yields_modify (change : Session → Session) (s : Session) :
    Yields (fun _ => (modify change : Run Unit)) s (.ok ()) (change s) :=
  ⟨0, fun _ _ => rfl⟩

theorem yields_get (s : Session) : Yields (fun _ => (get : Run Session)) s (.ok s) s :=
  ⟨0, fun _ _ => rfl⟩

theorem Yields.bind {value : α} {next : Nat → α → Run β} {result : Except Failure β}
    (first : Yields work s (.ok value) t)
    (later : Yields (fun fuel => next fuel value) t result u) :
    Yields (fun fuel => work fuel >>= next fuel) s result u := by
  obtain ⟨enough, first⟩ := first
  obtain ⟨more, later⟩ := later
  refine ⟨max enough more, fun fuel large => ?_⟩
  have ran := first fuel (by omega)
  rw [run_bind, ran]
  exact later fuel (by omega)

theorem yields_scannerAt {number : Nat} {scanner : Scanner}
    (found : s.scanners[number]? = some scanner) :
    Yields (fun _ => scannerAt number) s (.ok scanner) s := by
  refine (yields_get s).bind ?_
  simp only [found]
  exact yields_pure scanner s

theorem Yields.bind_error {failure : Failure} {next : Nat → α → Run β}
    (first : Yields work s (.error failure) t) :
    Yields (fun fuel => work fuel >>= next fuel) s (.error failure) t := by
  obtain ⟨enough, first⟩ := first
  refine ⟨enough, fun fuel large => ?_⟩
  rw [run_bind, first fuel large]

theorem Yields.unique {first second : Except Failure α} (one : Yields work s first t)
    (other : Yields work s second u) : first = second ∧ t = u := by
  obtain ⟨enough, one⟩ := one
  obtain ⟨more, other⟩ := other
  have same := (one (max enough more) (by omega)).symm.trans (other (max enough more) (by omega))
  exact Prod.mk.inj same

/-- A job is done one level deeper than what it consists of. -/
theorem Yields.exec {job : Job} {result : Except Failure Answer}
    (inner : Yields (fun fuel => perform (exec fuel) job) s result t) :
    Yields (exec · job) s result t := by
  obtain ⟨enough, inner⟩ := inner
  refine ⟨enough + 1, fun fuel large => ?_⟩
  obtain ⟨less, rfl⟩ := Nat.exists_eq_add_of_le large
  have deeper : Session.exec (enough + 1 + less) job =
      perform (Session.exec (enough + less)) job := by
    rw [Nat.add_right_comm]
    rfl
  simp only [deeper]
  exact inner (enough + less) (by omega)

end Yields

/-! ## The cursor of a scan -/

theorem modify_congr {α : Type} {items : Array α} {i : Nat} {f g : α → α}
    (same : items[i]?.map f = items[i]?.map g) : items.modify i f = items.modify i g := by
  apply Array.ext_getElem?
  intro j
  rw [Array.getElem?_modify, Array.getElem?_modify]
  split
  · next here => rw [← here, same]
  · rfl

theorem modify_eq_self {α : Type} {items : Array α} {i : Nat} {f : α → α}
    (same : items[i]?.map f = items[i]?) : items.modify i f = items := by
  apply Array.ext_getElem?
  intro j
  rw [Array.getElem?_modify]
  split
  · next here => rw [← here, same]
  · rfl

section Scanners

variable {s : Session} {number : Nat} {scanner : Scanner}

theorem getElem?_modifyCursor (found : s.scanners[number]? = some scanner)
    (change : Cursor → Cursor) :
    (s.modifyCursor number change).scanners[number]? =
      some { scanner with cursor := change scanner.cursor } := by
  simp [modifyCursor, Array.getElem?_modify, found]

theorem getElem?_modifyRegistry (found : s.scanners[number]? = some scanner)
    (change : Registry → Registry) :
    (s.modifyRegistry number change).scanners[number]? =
      some { scanner with registry := change scanner.registry } := by
  simp [modifyRegistry, Array.getElem?_modify, found]

theorem modifyCursor_self (found : s.scanners[number]? = some scanner) :
    s.modifyCursor number (fun _ => scanner.cursor) = s := by
  rw [modifyCursor, modify_eq_self (by simp [found])]

theorem modifyCursor_eq (found : s.scanners[number]? = some scanner) (change : Cursor → Cursor) :
    s.modifyCursor number change = s.modifyCursor number fun _ => change scanner.cursor := by
  have same : s.scanners[number]?.map (fun scan => { scan with cursor := change scan.cursor }) =
      s.scanners[number]?.map fun scan => { scan with cursor := change scanner.cursor } := by
    rw [found]
    rfl
  rw [modifyCursor, modify_congr same, modifyCursor]

theorem modifyCursor_modifyCursor (s : Session) (number : Nat) (first later : Cursor → Cursor) :
    (s.modifyCursor number first).modifyCursor number later =
      s.modifyCursor number (later ∘ first) := by
  have same : (s.scanners.modify number fun scanner =>
      { scanner with cursor := first scanner.cursor }).modify number
        (fun scanner => { scanner with cursor := later scanner.cursor }) =
      s.scanners.modify number fun scanner =>
        { scanner with cursor := (later ∘ first) scanner.cursor } := by
    apply Array.ext_getElem?
    intro i
    rw [Array.getElem?_modify, Array.getElem?_modify, Array.getElem?_modify]
    by_cases here : number = i
    · simp [here, Option.map_map, Function.comp_def]
    · simp [here]
  simp only [modifyCursor, same]

end Scanners

theorem yields_finalize {s t : Session} {number : Nat} {scanner : Scanner} {kind : Kind}
    {inline : Bool} {answer : Answer} (found : s.scanners[number]? = some scanner)
    (handed : Yields
      (exec · (.deliver (scanner.cursor.token kind inline) scanner.registry.subscriptions))
      (s.modifyCursor number (·.finalize kind)) (.ok answer) t) :
    Yields (exec · (.finalize number kind inline)) s
      (.ok { reply := .token (scanner.cursor.token kind inline) }) t := by
  refine ((yields_scannerAt found).bind ?_).exec
  refine (yields_modify (fun session => session.modifyCursor number (·.finalize kind)) s).bind ?_
  have replied : Yields (fun _ => (pure { reply := .token (scanner.cursor.token kind inline) } :
      Run Answer)) t _ t := yields_pure _ t
  exact handed.bind replied

theorem yields_finalize_error {s t : Session} {number : Nat} {scanner : Scanner} {kind : Kind}
    {inline : Bool} {failure : Failure} (found : s.scanners[number]? = some scanner)
    (handed : Yields
      (exec · (.deliver (scanner.cursor.token kind inline) scanner.registry.subscriptions))
      (s.modifyCursor number (·.finalize kind)) (.error failure) t) :
    Yields (exec · (.finalize number kind inline)) s (.error failure) t := by
  refine ((yields_scannerAt found).bind ?_).exec
  refine (yields_modify (fun session => session.modifyCursor number (·.finalize kind)) s).bind ?_
  exact handed.bind_error

/-! ## Listeners who leave a scan alone -/

/-- Whatever is delivered to the subscribers is taken without a failure, and the scan is left as it
is. `holds` says what they rely on for that; they keep it up themselves, and moving the cursor does
not take it away. -/
structure Undisturbed (number : Nat) (subscriptions : List Subscription)
    (holds : Session → Prop) : Prop where
  moved : ∀ s change, holds s → holds (s.modifyCursor number change)
  handed : ∀ s token, holds s → ∃ answer t,
    Yields (exec · (.deliver token subscriptions)) s (.ok answer) t ∧ holds t ∧
      t.scanners[number]? = s.scanners[number]?

/-- Tokens are delivered to the subscribers of a scan one after another, each is taken without a
failure, and the scan is left as it is. `holds` says what is relied on while tokens are still to
come. -/
structure Awaited (number : Nat) (registry : Registry) (holds : List Token → Session → Prop) :
    Prop where
  moved : ∀ tokens s change, holds tokens s → holds tokens (s.modifyCursor number change)
  handed : ∀ token tokens s c, holds (token :: tokens) s →
    s.scanners[number]? = some ⟨c, registry⟩ → ∃ answer t,
      Yields (exec · (.deliver token registry.subscriptions)) s (.ok answer) t ∧ holds tokens t ∧
        t.scanners[number]? = some ⟨c, registry⟩

/-- Those who leave the scan alone at every token do so whichever are to come. -/
theorem Undisturbed.awaited {number : Nat} {registry : Registry} {holds : Session → Prop}
    (quiet : Undisturbed number registry.subscriptions holds) :
    Awaited number registry fun _ => holds where
  moved _ := quiet.moved
  handed token _ s c held found := by
    obtain ⟨answer, t, handed, held, same⟩ := quiet.handed s token held
    exact ⟨answer, t, handed, held, same.trans found⟩

/-- A session delivers tokens to the subscribers of a scan, one after another. In between, nothing
happens but that the cursor of the scan moves. -/
inductive Delivers (number : Nat) : List Token → Session → Session → Prop where
  | nil {s : Session} : Delivers number [] s s
  | move {tokens : List Token} {s t : Session} (change : Cursor → Cursor)
      (rest : Delivers number tokens (s.modifyCursor number change) t) : Delivers number tokens s t
  | token {token : Token} {tokens : List Token} {s t u : Session} {scanner : Scanner}
      {answer : Answer} (found : s.scanners[number]? = some scanner)
      (handed : Yields (exec · (.deliver token scanner.registry.subscriptions)) s (.ok answer) t)
      (rest : Delivers number tokens t u) : Delivers number (token :: tokens) s u

/-- How a session ends that drives a pass. -/
def outcome (pass : Scan.Pass) : Except Failure Answer :=
  match pass.fault with
  | none => .ok {}
  | some fault => .error (.fault fault)

/-- Work, and then, unless it failed, the rest of the pass. -/
def Sequel (number : Nat) (work : Nat → Run Answer) (s : Session)
    (result : Except Failure Answer) (t : Session) : Prop :=
  (∃ failure, result = .error failure ∧ Yields work s (.error failure) t) ∨
    ∃ answer middle, Yields work s (.ok answer) middle ∧
      Yields (exec · (.pass number)) middle result t

/-- The session does from `s` to `t` what the pass does: work, and then the rest of it. -/
structure Drives (number : Nat) (registry : Registry) (holds : Session → Prop)
    (work : Nat → Run Answer) (pass : Scan.Pass) (s t : Session) : Prop where
  delivers : Delivers number pass.tokens s t
  found : t.scanners[number]? = some ⟨pass.cursor, registry⟩
  holds : holds t
  sequel : Sequel number work s (outcome pass) t

section Drives

variable {number : Nat} {registry : Registry} {holds : Session → Prop}
  {work other : Nat → Run Answer} {pass : Scan.Pass} {c : Cursor} {s t : Session}

/-- Only what the work gives matters, not where it begins. -/
theorem Sequel.replace {result : Except Failure Answer} {start : Session}
    (sequel : Sequel number work s result t)
    (same : ∀ result u, Yields work s result u → Yields other start result u) :
    Sequel number other start result t := by
  rcases sequel with ⟨failure, failed, yields⟩ | ⟨answer, middle, yields, rest⟩
  · exact .inl ⟨failure, failed, same _ _ yields⟩
  · exact .inr ⟨answer, middle, same _ _ yields, rest⟩

theorem Drives.replace (drives : Drives number registry holds work pass s t)
    (same : ∀ result u, Yields work s result u → Yields other s result u) :
    Drives number registry holds other pass s t :=
  ⟨drives.delivers, drives.found, drives.holds, drives.sequel.replace same⟩

theorem Drives.resume {resume : Scan.Resume} (found : s.scanners[number]? = some ⟨c, registry⟩)
    (drives : Drives number registry holds
      (fun fuel => carryOut (exec fuel) number (resume.step c)) pass s t) :
    Drives number registry holds (exec · (.resume number resume)) pass s t :=
  drives.replace fun _ _ yields => ((yields_scannerAt found).bind yields).exec

theorem yields_resume_of_done {resume : Scan.Resume} {next : Cursor}
    (found : s.scanners[number]? = some ⟨c, registry⟩) (step : resume.step c = .done next) :
    Yields (exec · (.resume number resume)) s (.ok {}) (s.modifyCursor number fun _ => next) := by
  refine ((yields_scannerAt found).bind ?_).exec
  rw [step]
  exact (yields_modify _ s).bind (yields_pure _ _)

/-- A rule that is at its end leaves everything to the rest of the pass. -/
theorem drives_of_done {resume : Scan.Resume} {next : Cursor}
    (found : s.scanners[number]? = some ⟨c, registry⟩) (step : resume.step c = .done next)
    (delivers : Delivers number pass.tokens (s.modifyCursor number fun _ => next) t)
    (left : t.scanners[number]? = some ⟨pass.cursor, registry⟩) (held : holds t)
    (rest : Yields (exec · (.pass number)) (s.modifyCursor number fun _ => next) (outcome pass) t) :
    Drives number registry holds (exec · (.resume number resume)) pass s t :=
  ⟨.move _ delivers, left, held, .inr ⟨_, _, yields_resume_of_done found step, rest⟩⟩

/-- A pass that is at its end does nothing. -/
theorem yields_pass_of_finished {scanner : Scanner} (found : s.scanners[number]? = some scanner)
    (finished : scanner.cursor.finished = true) : Yields (exec · (.pass number)) s (.ok {}) s := by
  refine ((yields_scannerAt found).bind ?_).exec
  simpa [finished] using yields_pure _ _

/-- A pass that is not at its end reads a line and goes on. -/
theorem Sequel.yields_pass {result : Except Failure Answer}
    (found : s.scanners[number]? = some ⟨c, registry⟩) (opened : c.finished = false)
    (sequel : Sequel number (fun fuel => carryOut (exec fuel) number (Scan.line c)) s result t) :
    Yields (exec · (.pass number)) s result t := by
  have line : Sequel number (exec · (.follow number .line)) s result t :=
    sequel.replace fun _ _ yields => ((yields_scannerAt found).bind yields).exec
  have rest : Yields
      (fun fuel => do
        let _ ← exec fuel (.follow number .line)
        exec fuel (.pass number)) s result t := by
    rcases line with ⟨failure, failed, yields⟩ | ⟨answer, middle, yields, rest⟩
    · rw [failed]
      exact yields.bind_error
    · exact yields.bind rest
  refine ((yields_scannerAt found).bind ?_).exec
  simpa [opened] using rest

/-- Finishing nothing leaves the session as it is, so all of it is done by the pass. -/
theorem Sequel.yields_pass_of_finish {result : Except Failure Answer}
    (found : s.scanners[number]? = some ⟨c, registry⟩)
    (sequel : Sequel number (exec · (.resume number .finish)) s result t) :
    Yields (exec · (.pass number)) s result t := by
  have settled : Yields (exec · (.resume number .finish)) s _ _ :=
    yields_resume_of_done found rfl
  rw [modifyCursor_self found] at settled
  rcases sequel with ⟨failure, failed, yields⟩ | ⟨answer, middle, yields, rest⟩
  · cases (yields.unique settled).1
  · obtain ⟨-, rfl⟩ := yields.unique settled
    exact rest

/-- A token is made and delivered, and the rule goes on. -/
theorem Sequel.emit {result : Except Failure Answer} {kind : Kind} {inline : Bool}
    {warning : Option Span} {resume : Scan.Resume} {next : Cursor} {answer : Answer}
    {middle : Session}
    (finalized : Yields (exec · (.finalize number kind inline))
      (s.modifyCursor number fun _ => next) (.ok answer) middle)
    (sequel : Sequel number (exec · (.resume number resume)) middle result t) :
    Sequel number (fun fuel => carryOut (exec fuel) number (.emit kind inline warning resume next))
      s result t :=
  sequel.replace fun _ _ yields => (yields_modify _ s).bind (finalized.bind yields)

theorem drives_fail (fault : Fault) (next : Cursor)
    (moved : holds (s.modifyCursor number fun _ => next))
    (found : s.scanners[number]? = some ⟨c, registry⟩) :
    Drives number registry holds
      (fun fuel => carryOut (exec fuel) number (.fail fault next))
      { fault := some fault, cursor := next } s (s.modifyCursor number fun _ => next) where
  delivers := .move _ .nil
  found := getElem?_modifyCursor found _
  holds := moved
  sequel := .inl ⟨_, rfl, (yields_modify _ s).bind (yields_throw _ _)⟩

section Awaited

variable {holds : List Token → Session → Prop} (awaited : Awaited number registry holds)
include awaited

/-- A token is made and delivered, and the rule goes on with the scan as it was left. -/
theorem drives_emit (kind : Kind) (inline : Bool) (warning : Option Span) (resume : Scan.Resume)
    (next : Cursor) (held : holds (next.token kind inline :: pass.tokens) s)
    (found : s.scanners[number]? = some ⟨c, registry⟩)
    (later : ∀ s, holds pass.tokens s →
      s.scanners[number]? = some ⟨next.finalize kind, registry⟩ →
      ∃ t, Drives number registry (holds []) (exec · (.resume number resume)) pass s t) :
    ∃ t, Drives number registry (holds [])
      (fun fuel => carryOut (exec fuel) number (.emit kind inline warning resume next))
      (pass.cons (next.token kind inline) warning) s t := by
  have placed := getElem?_modifyCursor found fun _ => next
  have made := getElem?_modifyCursor placed (·.finalize kind)
  have ready := awaited.moved _ _ (·.finalize kind) (awaited.moved _ s (fun _ => next) held)
  obtain ⟨answer, middle, handed, held, same⟩ := awaited.handed _ _ _ _ ready made
  have finalized := yields_finalize placed handed
  obtain ⟨t, drives⟩ := later middle held same
  exact ⟨t, .move _ (.move _ (.token made handed drives.delivers)), drives.found, drives.holds,
    Sequel.emit finalized drives.sequel⟩

/-- The induction is that of the pass. -/
theorem exists_drives (resume : Scan.Resume) (c : Cursor) (s : Session)
    (held : holds (Scan.passFrom resume c).tokens s)
    (found : s.scanners[number]? = some ⟨c, registry⟩) :
    ∃ t, Drives number registry (holds []) (exec · (.resume number resume))
      (Scan.passFrom resume c) s t := by
  revert held
  fun_induction Scan.passFrom resume c generalizing s with
  | case1 resume c kind inline warning left next step ih =>
    intro held
    obtain ⟨t, drives⟩ := drives_emit awaited kind inline warning left next held found
      fun s held found => ih s found held
    rw [← step] at drives
    exact ⟨t, drives.resume found⟩
  | case2 resume c fault next step =>
    intro held
    have drives := drives_fail fault next (awaited.moved _ s _ held) found
    rw [← step] at drives
    exact ⟨_, drives.resume found⟩
  | case3 resume c next step finished =>
    intro held
    have placed := getElem?_modifyCursor found fun _ => next
    have ended := yields_pass_of_finished placed finished
    exact ⟨_, drives_of_done found step .nil placed (awaited.moved _ s _ held) ended⟩
  | case4 resume c next step opened kind inline warning left last line ih =>
    intro held
    have placed := getElem?_modifyCursor found fun _ => next
    have moved := awaited.moved _ s (fun _ => next) held
    obtain ⟨t, drives⟩ := drives_emit awaited kind inline warning left last moved placed
      fun s held found => ih s found held
    rw [← line] at drives
    have rest := drives.sequel.yields_pass placed (by simpa using opened)
    exact ⟨t, drives_of_done found step drives.delivers drives.found drives.holds rest⟩
  | case5 resume c next step opened fault last line =>
    intro held
    have placed := getElem?_modifyCursor found fun _ => next
    have moved := awaited.moved _ s (fun _ => next) held
    have drives := drives_fail fault last (awaited.moved _ _ _ moved) placed
    rw [← line] at drives
    have rest := drives.sequel.yields_pass placed (by simpa using opened)
    exact ⟨_, drives_of_done found step drives.delivers drives.found drives.holds rest⟩
  | case6 resume c next step opened last line => exact absurd line (Scan.line_ne_done _ _)

/-- A session that scans to the end while listeners leave the scan alone at the tokens that come. -/
theorem exists_yields_awaited (held : holds (Scan.pass c).tokens s)
    (found : s.scanners[number]? = some ⟨c, registry⟩) :
    ∃ t, Yields (exec · (.pass number)) s (outcome (Scan.pass c)) t ∧
      Delivers number (Scan.pass c).tokens s t ∧
      t.scanners[number]? = some ⟨(Scan.pass c).cursor, registry⟩ ∧ holds [] t := by
  obtain ⟨t, drives⟩ := exists_drives awaited .finish c s held found
  exact ⟨t, drives.sequel.yields_pass_of_finish found, drives.delivers, drives.found, drives.holds⟩

end Awaited

variable (quiet : Undisturbed number registry.subscriptions holds)
include quiet

/-- A session that scans to the end while the listeners leave the scan alone. They are as ready for
another scan afterwards as they were before. -/
theorem exists_yields_pass_holds (held : holds s)
    (found : s.scanners[number]? = some ⟨c, registry⟩) :
    ∃ t, Yields (exec · (.pass number)) s (outcome (Scan.pass c)) t ∧
      Delivers number (Scan.pass c).tokens s t ∧
      t.scanners[number]? = some ⟨(Scan.pass c).cursor, registry⟩ ∧ holds t :=
  exists_yields_awaited quiet.awaited held found

/-- Where listeners leave a scan alone, a session that scans to the end delivers the tokens of the
pass, leaves the cursor where the pass does, and fails just where the pass does. -/
theorem exists_yields_pass (held : holds s) (found : s.scanners[number]? = some ⟨c, registry⟩) :
    ∃ t, Yields (exec · (.pass number)) s (outcome (Scan.pass c)) t ∧
      Delivers number (Scan.pass c).tokens s t ∧
      t.scanners[number]? = some ⟨(Scan.pass c).cursor, registry⟩ := by
  obtain ⟨t, yields, delivers, left, -⟩ := exists_yields_pass_holds quiet held found
  exact ⟨t, yields, delivers, left⟩

end Drives

/-- Subscribers who each take a token, whatever those before them did to the session, take it one
after another. -/
theorem exists_yields_deliver {related : Session → Session → Prop} (refl : ∀ s, related s s)
    (trans : ∀ s t u, related s t → related t u → related s u) {token : Token}
    {subscriptions : List Subscription} {s : Session}
    (takes : ∀ subscription ∈ subscriptions, ∀ t, related s t →
      (∃ accepted, subscription.filter.accepts token = .ok accepted) ∧
      ∃ answer u, Yields (exec · (.hand token subscription)) t (.ok answer) u ∧ related t u) :
    ∃ answer t, Yields (exec · (.deliver token subscriptions)) s (.ok answer) t ∧
      related s t := by
  induction subscriptions generalizing s with
  | nil => exact ⟨_, s, (yields_pure _ s).exec, refl s⟩
  | cons subscription rest ih =>
    obtain ⟨here, others⟩ := List.forall_mem_cons.1 takes
    obtain ⟨⟨accepted, accepts⟩, given, middle, handed, first⟩ := here s (refl s)
    cases accepted with
    | false =>
      obtain ⟨answer, t, yields, last⟩ := ih others
      refine ⟨answer, t, Yields.exec ?_, last⟩
      simp only [perform, accepts]
      exact (yields_pure _ s).bind yields
    | true =>
      obtain ⟨answer, t, yields, last⟩ := ih fun other member t between =>
        others other member t (trans s middle t first between)
      refine ⟨answer, t, Yields.exec ?_, trans s middle t first last⟩
      simp only [perform, accepts]
      exact handed.bind yields

/-! ## Listeners that only take what they are given -/

/-- Whether a consumer takes tokens and drives nothing. -/
def Consumer.isPassive : Consumer → Bool
  | .recorder listener => listener.reactions.isEmpty
  | _ => true

/-- All subscriptions are those of passive consumers, and their filters always answer. -/
def Passive (subscriptions : List Subscription) (s : Session) : Prop :=
  ∀ subscription ∈ subscriptions,
    (∀ token, ∃ accepted, subscription.filter.accepts token = .ok accepted) ∧
      ∀ consumer ∈ s.consumers[subscription.consumer]?, consumer.isPassive = true

/-- The scans are the same, and so is who is passive. -/
structure Alike (s t : Session) : Prop where
  scanners : t.scanners = s.scanners
  passive : ∀ i : Nat,
    t.consumers[i]?.map Consumer.isPassive = s.consumers[i]?.map Consumer.isPassive

theorem Alike.refl (s : Session) : Alike s s := ⟨rfl, fun _ => rfl⟩

theorem Alike.trans {s t u : Session} (first : Alike s t) (second : Alike t u) : Alike s u :=
  ⟨second.scanners.trans first.scanners, fun i => (second.passive i).trans (first.passive i)⟩

theorem Passive.of_alike {subscriptions : List Subscription} {s t : Session}
    (passive : Passive subscriptions s) (alike : Alike s t) : Passive subscriptions t := by
  intro subscription member
  obtain ⟨answers, quiet⟩ := passive subscription member
  refine ⟨answers, ?_⟩
  intro consumer there
  have same := alike.passive subscription.consumer
  rw [Option.mem_def.1 there, Option.map_some] at same
  obtain ⟨old, before, agrees⟩ := Option.map_eq_some_iff.1 same.symm
  exact agrees ▸ quiet old before

theorem alike_setConsumer {s : Session} {i : Nat} {old consumer : Consumer}
    (there : s.consumers[i]? = some old) (same : consumer.isPassive = old.isPassive) :
    Alike s (s.setConsumer i consumer) := by
  refine ⟨rfl, fun j => ?_⟩
  rw [setConsumer, Array.getElem?_setIfInBounds]
  by_cases here : i = j
  · subst here
    have inside : i < s.consumers.size := (Array.getElem?_eq_some_iff.1 there).1
    rw [if_pos rfl, if_pos inside, there]
    simp [same]
  · simp [here]

theorem alike_record (s : Session) (delivery : Delivery) : Alike s (s.record delivery) :=
  ⟨rfl, fun _ => rfl⟩

theorem yields_consume {s : Session} {consumer : Consumer} {subscription : Subscription}
    (there : s.consumers[subscription.consumer]? = some consumer)
    (passive : consumer.isPassive = true) (token : Token) :
    ∃ answer t,
      Yields (fun fuel => consume (exec fuel) token subscription consumer) s (.ok answer) t ∧
        Alike s t := by
  cases consumer with
  | recorder listener =>
    have idle : listener.reactions = [] := by simpa [Consumer.isPassive] using passive
    have called : ∀ t, Yields
        (exec · (.react listener.home (listener.calls + 1)
          (listener.reactions.filter (·.given token)))) t (.ok {}) t := by
      intro t
      rw [idle]
      exact (yields_pure _ t).exec
    have alike : Alike s (s.setConsumer subscription.consumer
        (.recorder { listener with calls := listener.calls + 1 })) := alike_setConsumer there rfl
    exact ⟨{}, _, (yields_modify _ s).bind (called _), alike.trans (alike_record _ _)⟩
  | observer name observer =>
    cases called : observer.hook? (some token.kind) with
    | none =>
      refine ⟨{}, s, ?_, .refl s⟩
      simp only [consume, called]
      exact (yields_pure _ s).bind (yields_pure _ s)
    | some hook =>
      refine ⟨{}, s.record (.call name hook token), ?_, alike_record s _⟩
      simp only [consume, called]
      exact (yields_modify _ s).bind (yields_pure _ _)
  | builder name builder =>
    exact ⟨_, _, (yields_modify _ s).bind (yields_pure _ _), alike_setConsumer there rfl⟩
  | printer name printer =>
    exact ⟨_, _, (yields_modify _ s).bind (yields_pure _ _), alike_setConsumer there rfl⟩

theorem yields_hand {s : Session} {subscription : Subscription}
    (passive : ∀ consumer ∈ s.consumers[subscription.consumer]?, consumer.isPassive = true)
    (token : Token) :
    ∃ answer t, Yields (exec · (.hand token subscription)) s (.ok answer) t ∧ Alike s t := by
  cases there : s.consumers[subscription.consumer]? with
  | none =>
    refine ⟨{}, s, Yields.exec ?_, .refl s⟩
    refine (yields_get s).bind ?_
    simp only [there]
    exact yields_pure _ s
  | some consumer =>
    obtain ⟨answer, t, yields, alike⟩ := yields_consume there (passive consumer there) token
    refine ⟨answer, t, Yields.exec ?_, alike⟩
    refine (yields_get s).bind ?_
    simpa only [there] using yields

theorem yields_deliver {subscriptions : List Subscription} {s : Session}
    (passive : Passive subscriptions s) (token : Token) :
    ∃ answer t, Yields (exec · (.deliver token subscriptions)) s (.ok answer) t ∧ Alike s t := by
  refine exists_yields_deliver Alike.refl (fun _ _ _ => Alike.trans) ?_
  intro subscription member t alike
  obtain ⟨answers, quiet⟩ := passive.of_alike alike subscription member
  exact ⟨answers token, yields_hand quiet token⟩

/-- Passive consumers leave every scan alone. -/
theorem undisturbed_passive (number : Nat) (subscriptions : List Subscription) :
    Undisturbed number subscriptions (Passive subscriptions) where
  moved := fun _ _ passive => passive
  handed := by
    intro s token passive
    obtain ⟨answer, t, yields, alike⟩ := yields_deliver passive token
    exact ⟨answer, t, yields, passive.of_alike alike, by rw [alike.scanners]⟩

/-- A recorder of tags and a builder that listen to one scan. -/
def audience (cursor : Cursor) : Session where
  scanners := #[{ cursor, registry := ⟨[
    { ticket := 0, name := "tags", consumer := 0, filter := .kinds [.tag], whole := true },
    { ticket := 1, name := "tree", consumer := 1 }]⟩ }]
  consumers := #[.recorder { name := "tags", home := mainCursor }, .builder "tree" {}]

theorem passive_audience (cursor : Cursor) :
    Passive [
      { ticket := 0, name := "tags", consumer := 0, filter := .kinds [.tag], whole := true },
      { ticket := 1, name := "tree", consumer := 1 }] (audience cursor) := by
  have answers : ∀ token, ∃ accepted, (Filter.kinds [.tag]).accepts token = .ok accepted :=
    fun _ => ⟨_, rfl⟩
  simpa [Passive, audience, Consumer.isPassive, Filter.all] using answers

end Scenario.Session
