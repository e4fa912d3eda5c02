import Scenario.Proofs.Reentrance

/-! # Blocks with other options

A block of steps is taken with other options active, and steps inside it may change the active
options again, open further blocks, and fail. Here it is shown how a block ends: with the failure of
its steps, if there is one, in the session that they leave, except that the options of before the
block are active again (`ending_within`). Listeners take the steps that are due on a call in the
same way, so a failure inside a block comes out of them unchanged too (`run_react`).
-/

namespace Scenario.Session

/-! ## How work ends -/

/-- The failure that work ended with: its own, or the one that a body of steps ended with. -/
def raised? : Except Failure Answer → Option Failure
  | .ok answer => answer.failure?
  | .error failure => some failure

/-- How work ends: with a failure or without, and in which session. -/
def ending (work : Run Answer) (s : Session) : Option Failure × Session :=
  (raised? (work.run.run s).1, left work s)

/-- Obey commands for the cursors of names one after another, until one of them fails. What is not
due is passed over. -/
def obeyAll : Nat → List (Option (String × Command)) → Session → Option Failure × Session
  | 0, _, s => (some .exhausted, s)
  | _ + 1, [], s => (none, s)
  | fuel + 1, none :: rest, s => obeyAll fuel rest s
  | fuel + 1, some (name, command) :: rest, s =>
      match ending (exec fuel (.obey name command)) s with
      | (some failure, t) => (some failure, t)
      | (none, t) => obeyAll fuel rest t

/-- What a step is to do. -/
def Step.order (step : Step Command) : Option (String × Command) :=
  some (step.cursor.getD mainCursor, step.command)

/-- What a reaction is to do on a call. -/
def Reaction.order? (home : String) (call : Nat) (reaction : Reaction Command) :
    Option (String × Command) :=
  if reaction.call.all (· = (call : Int)) then
    some (reaction.step.cursor.getD home, reaction.step.command)
  else none

theorem ending_bind {α : Type} (work : Run α) (next : α → Run Answer) (s : Session) :
    ending (work >>= next) s =
      match work.run.run s with
      | (.ok value, t) => ending (next value) t
      | (.error failure, t) => (some failure, t) := by
  simp only [ending, left, run_bind]
  rcases work.run.run s with ⟨failure | value, t⟩ <;> rfl

/-! ## Steps until one fails -/

/-- A report says how its step ended. -/
theorem exists_result_report (again : Job → Run Answer) (step : Step Command) (s : Session) :
    ∃ reply, ((report again step).run s).1.result =
      (ending (again (.obey (step.cursor.getD mainCursor) step.command)) s).1.elim (.ok reply)
        .error := by
  simp only [report, ending, StateT.run_bind, StateT.run_get, pure_bind]
  rcases (again (.obey (step.cursor.getD mainCursor) step.command)).run.run s with
    ⟨failure | ⟨reply, body | body⟩, t⟩
  · exact ⟨.nothing, rfl⟩
  · exact ⟨reply, rfl⟩
  · refine ⟨reply, ?_⟩
    cases failed : Answer.failure? { reply, body := some body } with
    | some failure =>
      simp only [raised?, bind, failed]
      rfl
    | none =>
      simp only [raised?, bind, failed]
      rfl

theorem failure?_of_failed {last : Report} {failure : Failure}
    (failed : last.result = .error failure) :
    Answer.failure? { body := some [last] } = some failure := by
  obtain ⟨result, trace, scanner, body⟩ := last
  cases failed
  rfl

/-- A step that did not fail makes no difference to how the body ends. -/
theorem failure?_cons {first : Report} {reply : Reply} (ok : first.result = .ok reply)
    (answer : Answer) :
    Answer.failure? { body := some (first :: answer.body.getD []) } = answer.failure? := by
  obtain ⟨result, trace, scanner, body⟩ := first
  cases ok
  rcases answer with ⟨other, none | ⟨_ | ⟨next, reports⟩⟩⟩ <;> rfl

theorem ending_cons {first : Report} {reply : Reply} (ok : first.result = .ok reply)
    (rest : Run Answer) (s : Session) :
    ending (do
      let answer ← rest
      pure { body := some (first :: answer.body.getD []) }) s = ending rest s := by
  rw [ending_bind, ending, left]
  cases rest.run.run s with
  | mk outcome t =>
    cases outcome with
    | error failure => rfl
    | ok answer => exact Prod.ext (failure?_cons ok answer) rfl

/-- A body of steps ends as its steps do, taken one after another. -/
theorem ending_steps (fuel : Nat) (steps : List (Step Command)) (s : Session) :
    ending (exec fuel (.steps steps)) s = obeyAll fuel (steps.map Step.order) s := by
  induction steps generalizing fuel s with
  | nil => cases fuel <;> rfl
  | cons step rest ih =>
    cases fuel with
    | zero => rfl
    | succ fuel =>
      obtain ⟨reply, result⟩ := exists_result_report (exec fuel) step s
      have lifted : (report (exec fuel) step : Run Report).run.run s =
          (.ok ((report (exec fuel) step).run s).1, ((report (exec fuel) step).run s).2) := rfl
      rw [List.map_cons, Step.order, obeyAll, exec, perform, ending_bind, lifted, left_report]
      -- From here on only the result in the report matters, and how the step ended.
      generalize ((report (exec fuel) step).run s).1 = first at result ⊢
      generalize exec fuel (.obey (step.cursor.getD mainCursor) step.command) = work at result ⊢
      have ended : ending work s = ((ending work s).1, left work s) := rfl
      rw [ended]
      cases raised : (ending work s).1 with
      | some failure =>
        rw [raised, Option.elim_some] at result
        simp only [result]
        exact Prod.ext (failure?_of_failed result) rfl
      | none =>
        rw [raised, Option.elim_none] at result
        simp only [result, ← ih]
        exact ending_cons result _ _

/-- The reactions of a listener are taken like steps, and a failure of one of them is a failure of
the listener. -/
theorem run_react (fuel : Nat) (home : String) (call : Nat) (reactions : List (Reaction Command))
    (s : Session) :
    (exec fuel (.react home call reactions)).run.run s =
      ((obeyAll fuel (reactions.map (·.order? home call)) s).1.elim (.ok {}) .error,
        (obeyAll fuel (reactions.map (·.order? home call)) s).2) := by
  induction reactions generalizing fuel s with
  | nil => cases fuel <;> rfl
  | cons reaction rest ih =>
    cases fuel with
    | zero => rfl
    | succ fuel =>
      by_cases due : reaction.call.all (· = (call : Int))
      · rw [List.map_cons, Reaction.order?, if_pos due, obeyAll, exec, perform, if_pos due,
          run_bind, ending, left]
        rcases (exec fuel (.obey (reaction.step.cursor.getD home) reaction.step.command)).run.run s
          with ⟨failure | answer, t⟩
        · rfl
        · cases failed : answer.failure? with
          | some failure => simp only [raised?, failed]; rfl
          | none => simp only [raised?, failed, ← ih]
      · rw [List.map_cons, Reaction.order?, if_neg due, obeyAll, ← ih, exec, perform, if_neg due]

/-! ## Blocks -/

/-- Something is done with other options active, and whether it fails or not, those of before are
active again afterwards. -/
def enclosed (options : Options) (done : Session → Option Failure × Session) (s : Session) :
    Option Failure × Session :=
  ((done { s with options }).1, { (done { s with options }).2 with options := s.options })

theorem enclosed_enclosed (outer inner : Options) (done : Session → Option Failure × Session) :
    enclosed outer (enclosed inner done) = enclosed inner done := rfl

/-- A block ends as its steps do, except that the options of before are active again. -/
theorem ending_within (fuel : Nat) (name : String) (options : Options)
    (steps : List (Step Command)) :
    ending (exec (fuel + 1) (.obey name (.within options steps))) =
      enclosed options (obeyAll fuel (steps.map Step.order)) := by
  funext s
  rw [enclosed, ← ending_steps]
  rfl

/-- A command inside of blocks, the outermost first. -/
def nested (name : String) : List Options → Command → Command
  | [], command => command
  | options :: inner, command =>
      .within options [{ cursor := some name, command := nested name inner command }]

theorem obeyAll_single (fuel : Nat) (name : String) (command : Command) :
    obeyAll (fuel + 1) [some (name, command)] = ending (exec fuel (.obey name command)) := by
  funext s
  rw [obeyAll]
  cases fuel with
  | zero => rfl
  | succ fuel =>
    cases ending (exec (fuel + 1) (.obey name command)) s with
    | mk raised t => cases raised <;> rfl

theorem ending_within_single (fuel : Nat) (name : String) (options : Options) (command : Command) :
    ending (exec (fuel + 2) (.obey name (.within options [{ cursor := some name, command }]))) =
      enclosed options (ending (exec fuel (.obey name command))) := by
  rw [ending_within, ← obeyAll_single]
  rfl

/-- However many blocks a command lies in, it is obeyed with the innermost options active, its
failure comes out of all of them, and the options of before the outermost are active again. -/
theorem ending_nested (fuel : Nat) (name : String) (enclosing : List Options) (options : Options)
    (command : Command) :
    ending (exec (fuel + 2 * enclosing.length + 2)
        (.obey name (nested name (enclosing ++ [options]) command))) =
      enclosed options (ending (exec fuel (.obey name command))) := by
  induction enclosing with
  | nil => exact ending_within_single fuel name options command
  | cons outer inner ih =>
    rw [List.cons_append, nested, List.length_cons, Nat.mul_succ, ← Nat.add_assoc,
      ending_within_single, ih, enclosed_enclosed]

end Scenario.Session
