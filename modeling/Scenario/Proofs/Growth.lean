import Scenario.Proofs.Upkeep

/-! # Work adds to the courses

Whatever a session is told to do, and whoever listens and interferes, the cursors of the session go
on along their courses, also where the work fails. So a chart is an account of the session that is
kept up (`charting`).

The main result follows a session step by step (`after_charted`). There is a chart after each step,
which goes on from the one before it. A command that is an operation of the cursor adds this very
operation to the course, so the courses are not just any that lead to the same place.
-/

namespace Scenario.Session

open Operation

variable {given : Token → Prop} {courses later : List Course} {s t : Session}

/-! ## Charts are kept up -/

section Commands

variable {name : String} {command : Command}

theorem Command.Tells.entry (tells : command.Tells given) {entry : Entry}
    (brings : command.Brings name entry) : entry.consumer.Tells given := by
  cases brings with
  | register listener filter whole reactions =>
    intro reaction member token notifies
    exact tells token (.register member notifies)
  | _ => trivial

theorem Deed.charted (deed : Deed s name command t) (charted : Charted given courses s)
    (tells : command.Tells given) : ∃ later, Extends courses later ∧ Charted given later t := by
  have same {t : Session} (charted : Charted given courses t) :
      ∃ later, Extends courses later ∧ Charted given later t := ⟨courses, .refl courses, charted⟩
  cases deed with
  | nothing => exact same charted
  | create source file options =>
    exact ⟨_, extends_append courses _, charted.create name source file _⟩
  | move is named found =>
    exact ⟨_, extends_modify courses _ [_], charted.modifyCursor found rfl⟩
  | attach brings named =>
    exact same ((charted.addConsumer (tells.entry brings)).subscribe _ _ _ _ _)
  | join named there => exact same (charted.subscribe _ _ _ _ _)
  | part named found known taken => exact same (charted.modifyRegistry _ _)
  | setOptions options => exact same (charted.withOptions options)
  | resetOptions => exact same (charted.withOptions {})

end Commands

/-- The log tells of the token that was handed on. -/
theorem shows_of_note? {consumer : Consumer} {receipt : Receipt} {delivery : Delivery}
    (noted : consumer.note? receipt = some delivery) : delivery.Shows receipt.token := by
  cases consumer with
  | recorder listener =>
    cases noted
    split
    · exact rfl
    · exact ⟨rfl, rfl⟩
  | observer name watcher =>
    obtain ⟨hook, -, rfl⟩ := Option.map_eq_some_iff.1 noted
    exact rfl
  | builder _ _ | printer _ _ => cases noted

section Charted

variable (charted : Charted given courses s)
include charted

/-- A token is known once it has been made. -/
theorem Charted.finalize {number : Nat} {scanner : Scanner}
    (found : s.scanners[number]? = some scanner) (kind : Kind) (inline : Bool) :
    Charted given (courses.modify number (·.followedBy [.finalize kind inline]))
        (s.modifyCursor number (·.finalize kind)) ∧
      Known given (courses.modify number (·.followedBy [.finalize kind inline]))
        (scanner.cursor.token kind inline) := by
  refine ⟨charted.modifyCursor found rfl, ?_⟩
  obtain ⟨course, there, same⟩ := charted.exists_course found
  refine .inr ⟨course.followedBy [.finalize kind inline], ?_, ?_⟩
  · exact List.mem_of_getElem? (i := number) (by simp [there])
  · rw [Course.acts_followedBy, same]
    simp [actsOf, acts]

theorem Charted.accept {token : Token} (known : Known given courses token)
    (subscription : Subscription) :
    Charted given courses (s.accept ⟨subscription, token⟩) where
  cursors := charted.cursors
  log := by
    intro delivery member
    have either : delivery ∈ s.log ∨ s.note? ⟨subscription, token⟩ = some delivery := by
      rw [← Array.mem_toList_iff, Session.accept, Array.toList_appendList] at member
      simpa using member
    rcases either with before | noted
    · exact charted.log delivery before
    · obtain ⟨consumer, -, noted⟩ := Option.bind_eq_some_iff.1 noted
      exact ⟨token, shows_of_note? noted, known⟩
  consumers := by
    intro consumer member
    obtain ⟨i, there⟩ := Array.mem_iff_getElem?.1 member
    rw [getElem?_accept] at there
    split at there
    · obtain ⟨before, found, rfl⟩ := Option.map_eq_some_iff.1 there
      have tells := charted.consumers before (Array.mem_of_getElem? found)
      cases before <;> exact tells
    · exact charted.consumers consumer (Array.mem_of_getElem? there)

end Charted

/-- Charts go on with all that is done in a session. -/
def charting (given : Token → Prop) : Upkeep (List Course) where
  Holds := Charted given
  Later := Extends
  Knows := Known given
  Allows := Command.Tells given
  Begun _ _ := True
  refl := .refl
  trans := .trans
  knows more known := known.extends more
  notify tells := .inl (tells _ (.notify _))
  within tells _ member _ notifies := tells _ (.within member notifies)
  reactions charted member := charted.consumers _ member
  options options charted := ⟨_, .refl _, charted.withOptions options⟩
  moved charted found reached := by
    obtain ⟨operations, same⟩ := reached
    exact ⟨_, extends_modify _ _ operations, charted.modifyCursor found same⟩
  made kind inline charted found :=
    ⟨_, extends_modify _ _ [_], charted.finalize found kind inline⟩
  accepted subscription charted known := ⟨_, .refl _, charted.accept known subscription⟩
  obeyed again charted tells _ alone := (deed_obey alone again).charted charted tells

theorem concurs_charting (given : Token → Prop) (fuel : Nat) :
    (charting given).Concurs (exec fuel) (exec fuel) :=
  Upkeep.concurs_exec (fun _ _ => trivial) fuel

/-! ## A session step by step -/

/-- A command that is one operation begins with it, on the course of the scan that it is for. Unless
a token is made, whose listeners may then do more, that is all that happens. -/
def Begins (s : Session) (name : String) (command : Command) (courses later : List Course) : Prop :=
  ∀ number scanner operation, s.find? name = some number → s.scanners[number]? = some scanner →
    command.operation? = some operation →
    Extends (courses.modify number (·.followedBy [operation])) later ∧
      ((∀ kind inline, operation ≠ .finalize kind inline) →
        later = courses.modify number (·.followedBy [operation]))

section Begins

variable {name : String} {number : Nat} {scanner : Scanner}
  (named : s.find? name = some number) (found : s.scanners[number]? = some scanner)
include named found

/-- The operation is the first thing that a command adds to the courses. -/
theorem exists_begins (charted : Charted given courses s) {command : Command}
    {operation : Operation} (is : command.operation? = some operation) (fuel : Nat) :
    ∃ later, Charted given later (left (exec (fuel + 2) (.obey name command)) s) ∧
      Extends (courses.modify number (·.followedBy [operation])) later ∧
      ((∀ kind inline, operation ≠ .finalize kind inline) →
        later = courses.modify number (·.followedBy [operation])) := by
  rw [exec, perform]
  by_cases moves : ∀ kind inline, operation ≠ .finalize kind inline
  · obtain ⟨view, same⟩ := obey_eq_move (exec (fuel + 1)) name is moves
    have moved : Charted given (courses.modify number (·.followedBy [operation]))
        (s.modifyCursor number operation.apply) := charted.modifyCursor found rfl
    rw [same, left_move named found]
    exact ⟨_, moved, .refl _, fun _ => rfl⟩
  · simp only [not_forall, not_not] at moves
    obtain ⟨kind, inline, rfl⟩ := moves
    obtain rfl := eq_finalize_of_operation? is
    obtain ⟨made, known⟩ := charted.finalize found kind inline
    have delivered := concurs_charting given fuel
      (.deliver _ scanner.registry.subscriptions) _ _ made known
    obtain ⟨later, more, charted⟩ := delivered.kept
    rw [obey, left_bind, run_numberOf, left_numberOf, named]
    refine ⟨later, ?_, more, fun moves => absurd rfl (moves kind inline)⟩
    simp only [exec, left_finalize _ found]
    exact charted

end Begins

/-- What a command does to a session with a chart. Below two levels of nesting a token is not made
at all. -/
theorem exists_chart (charted : Charted given courses s) (fuel : Nat) (name : String)
    {command : Command} (tells : command.Tells given) :
    ∃ later, Charted given later (left (exec fuel (.obey name command)) s) ∧
      Extends courses later ∧ (2 ≤ fuel → Begins s name command courses later) := by
  by_cases one : 2 ≤ fuel ∧ ∃ number scanner operation, s.find? name = some number ∧
      s.scanners[number]? = some scanner ∧ command.operation? = some operation
  · obtain ⟨deep, number, scanner, operation, named, found, is⟩ := one
    obtain ⟨less, rfl⟩ := Nat.exists_eq_add_of_le' deep
    obtain ⟨later, charted, more, only⟩ := exists_begins named found charted is less
    refine ⟨later, charted, (extends_modify courses number _).trans more, fun _ => ?_⟩
    intro number' scanner' operation' named' found' is'
    cases named.symm.trans named'
    cases is.symm.trans is'
    exact ⟨more, only⟩
  · obtain ⟨later, more, charted⟩ :=
      (concurs_charting given fuel (.obey name command) _ _ charted tells).kept
    refine ⟨later, charted, more, fun deep => ?_⟩
    intro number scanner operation named found is
    exact absurd ⟨deep, number, scanner, operation, named, found, is⟩ one

/-- The session after steps were taken one after another. -/
def after (fuel : Nat) (steps : List (Step Command)) : Session :=
  ((steps.mapM (report (exec fuel)) : StateM Session (List Report)).run {}).2

theorem after_concat (fuel : Nat) (steps : List (Step Command)) (step : Step Command) :
    after fuel (steps ++ [step]) =
      left (exec fuel (.obey (step.cursor.getD mainCursor) step.command)) (after fuel steps) := by
  rw [← left_report, after, after, List.mapM_append]
  rfl

/-- Steps give a token to be delivered. -/
def Notified (steps : List (Step Command)) (token : Token) : Prop :=
  ∃ step ∈ steps, step.command.Notifies token

theorem exists_chart_step {fuel : Nat} {steps : List (Step Command)} {n : Nat}
    (charted : Charted (Notified steps) courses (after fuel (steps.take n))) :
    ∃ later, Charted (Notified steps) later (after fuel (steps.take (n + 1))) ∧
      Extends courses later ∧
      ∀ step ∈ steps[n]?, 2 ≤ fuel →
        Begins (after fuel (steps.take n)) (step.cursor.getD mainCursor) step.command courses
          later := by
  cases there : steps[n]? with
  | none =>
    have same : steps.take (n + 1) = steps.take n := by simp [List.take_add_one, there]
    exact ⟨courses, by rwa [same], .refl courses, by simp⟩
  | some step =>
    have tells : step.command.Tells (Notified steps) := fun _ notifies =>
      ⟨step, List.mem_of_getElem? there, notifies⟩
    obtain ⟨later, charted, more, begins⟩ :=
      exists_chart charted fuel (step.cursor.getD mainCursor) tells
    refine ⟨later, ?_, more, ?_⟩
    · rw [List.take_add_one, there]
      exact (after_concat fuel (steps.take n) step) ▸ charted
    · rintro _ ⟨⟩
      exact begins

/-- However a session is driven, and whatever fails on the way, there is a chart after every step,
which goes on from the one before, and all its courses are sound. A token that was delivered was
made on one of them, unless it was given to be delivered. -/
theorem after_charted (fuel : Nat) (steps : List (Step Command)) :
    ∃ charts : Nat → List Course, ∀ n,
      Charted (Notified steps) (charts n) (after fuel (steps.take n)) ∧
      (∀ course ∈ charts n, course.Sound) ∧
      Extends (charts n) (charts (n + 1)) ∧
      ∀ step ∈ steps[n]?, 2 ≤ fuel →
        Begins (after fuel (steps.take n)) (step.cursor.getD mainCursor) step.command (charts n)
          (charts (n + 1)) := by
  have next (n : Nat) (courses : List Course)
      (charted : Charted (Notified steps) courses (after fuel (steps.take n))) :=
    exists_chart_step charted
  choose! next charted extend begins using next
  let charts : Nat → List Course := fun n => Nat.rec [] next n
  have all (n : Nat) : Charted (Notified steps) (charts n) (after fuel (steps.take n)) := by
    induction n with
    | zero => exact charted_empty
    | succ n ih => exact charted n (charts n) ih
  refine ⟨charts, fun n => ⟨all n, ?_, extend n _ (all n), begins n _ (all n)⟩⟩
  intro course member
  exact course.sound

end Scenario.Session
