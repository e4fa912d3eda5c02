import Mathlib.Data.List.Induction
import Scenario.Proofs.Loggers

/-! # The tools' own handler

However often the tools are told to write records, and whatever handlers others attach meanwhile,
the tools have one handler at most, and its level is that of the root. What carries this is where
the handler stands: once it is attached, the handlers before it are the same for good, and only
those behind it become more (`Headed.act`). While there is none, the root has no level either, so
even a call that attaches the handler and then fails leaves both at the same level.

What the handler writes depends on the loggers too. It writes the records of a logger as it should,
whatever was done before, just if the name of the logger does not go on behind the root with two
dots. The main statement is `run_handlers`.
-/

namespace Scenario.Journal

/-- The level that an action sets, if it succeeds in setting one. -/
def Action.level? : Action → Option Int
  | .enable level _ => level.resolve.toOption
  | .plain _ _ | .log _ _ _ | .scan _ _ _ _ => none

@[simp] theorem handlers_addStream (journal : Journal) (stream : Option String) :
    (journal.addStream stream).handlers = journal.handlers := by
  unfold addStream
  split
  · rfl
  · split <;> rfl

@[simp] theorem level_addStream (journal : Journal) (stream : Option String) :
    (journal.addStream stream).level = journal.level := by
  unfold addStream
  split
  · rfl
  · split <;> rfl

@[simp] theorem loggers_addStream (journal : Journal) (stream : Option String) :
    (journal.addStream stream).loggers = journal.loggers := by
  unfold addStream
  split
  · rfl
  · split <;> rfl

@[simp] theorem answers_addStream (journal : Journal) (stream : Option String) :
    (journal.addStream stream).answers = journal.answers := by
  unfold addStream
  split
  · rfl
  · split <;> rfl

theorem Honest.addStream {journal : Journal} (honest : Honest journal) (stream : Option String) :
    Honest (journal.addStream stream) :=
  honest.congr (by simp [honest.rooted]) (by simp) (by simp)

theorem journal_writeAll (journal : Journal) (entries : List Entry) :
    (journal.writeAll entries).1 =
      entries.foldl (fun journal entry => (journal.write entry).1) journal := by
  induction entries generalizing journal with
  | nil => rfl
  | cons entry rest ih => exact ih (journal.write entry).1

@[simp] theorem handlers_writeAll (journal : Journal) (entries : List Entry) :
    (journal.writeAll entries).1.handlers = journal.handlers := by
  rw [journal_writeAll]
  induction entries generalizing journal with
  | nil => rfl
  | cons entry rest ih => rw [List.foldl_cons, ih, handlers_write]

@[simp] theorem level_writeAll (journal : Journal) (entries : List Entry) :
    (journal.writeAll entries).1.level = journal.level := by
  rw [journal_writeAll]
  induction entries generalizing journal with
  | nil => rfl
  | cons entry rest ih => rw [List.foldl_cons, ih, level_write]

theorem Honest.writeAll {journal : Journal} (honest : Honest journal) (entries : List Entry) :
    Honest (journal.writeAll entries).1 := by
  rw [journal_writeAll]
  induction entries generalizing journal with
  | nil => exact honest
  | cons entry rest ih => exact ih (honest.write entry)

/-! ## Where the own handler stands -/

/-- The own handler stands between others, and has the level of the root. -/
structure Headed (before : List Handler) (mine : Handler) (later : List Handler)
    (journal : Journal) : Prop where
  handlers : journal.handlers = before ++ mine :: later
  own : mine.own = true
  others : ∀ handler ∈ before ++ later, handler.own = false
  level : mine.level = journal.level

/-- There is no own handler yet, and the root has no level. -/
structure Bare (journal : Journal) : Prop where
  handlers : ∀ handler ∈ journal.handlers, handler.own = false
  level : journal.level = 0

variable {journal : Journal} {before later : List Handler} {mine : Handler}

theorem Headed.congr (headed : Headed before mine later journal) {next : Journal}
    (handlers : next.handlers = journal.handlers) (level : next.level = journal.level) :
    Headed before mine later next :=
  ⟨handlers.trans headed.handlers, headed.own, headed.others, headed.level.trans level.symm⟩

theorem Bare.congr (bare : Bare journal) {next : Journal}
    (handlers : next.handlers = journal.handlers) (level : next.level = journal.level) :
    Bare next :=
  ⟨handlers.symm ▸ bare.handlers, level.trans bare.level⟩

theorem Headed.findIdx? (headed : Headed before mine later journal) :
    journal.handlers.findIdx? (·.own) = some before.length := by
  have none : before.findIdx? (·.own) = none := by
    rw [List.findIdx?_eq_none_iff]
    intro handler member
    exact headed.others handler (List.mem_append_left _ member)
  rw [headed.handlers, List.findIdx?_append, none, List.findIdx?_cons, headed.own]
  simp

theorem Bare.findIdx? (bare : Bare journal) : journal.handlers.findIdx? (·.own) = none :=
  List.findIdx?_eq_none_iff.2 bare.handlers

theorem modify_own (before later : List Handler) (mine : Handler) (level : Int) :
    (before ++ mine :: later).modify before.length (fun handler => { handler with level }) =
      before ++ { mine with level } :: later := by
  induction before with
  | nil => rfl
  | cons first before ih => simpa using ih

/-- A call sets the level of the own handler, wherever this is, and that of the root. It answers
with the place of the handler. If the level is refused, none is set. -/
theorem enable_of_ensureOwn {ensured : Journal} {stream : Option String}
    (ensures : (journal.addStream stream).ensureOwn stream = (ensured, before.length))
    (headed : Headed before mine later ensured) (level : Level) :
    ∃ next, Headed before { mine with level := (Action.enable level stream).level?.getD mine.level }
        later next ∧
      journal.enable level stream = (next, level.resolve.map fun _ => before.length) := by
  unfold enable
  rw [ensures]
  cases resolved : level.resolve with
  | error name =>
    refine ⟨ensured, ?_, rfl⟩
    simpa [Action.level?, resolved, Except.toOption] using headed
  | ok value =>
    refine ⟨_, ⟨?_, headed.own, headed.others, ?_⟩, rfl⟩
    · simp only [Action.level?, resolved, Except.toOption, headed.handlers, modify_own]
      rfl
    · simp only [Action.level?, resolved, Except.toOption]
      rfl

theorem Headed.enable (headed : Headed before mine later journal) (level : Level)
    (stream : Option String) :
    ∃ next, Headed before { mine with level := (Action.enable level stream).level?.getD mine.level }
        later next ∧
      journal.enable level stream = (next, level.resolve.map fun _ => before.length) := by
  have same : Headed before mine later (journal.addStream stream) :=
    headed.congr (handlers_addStream journal stream) (level_addStream journal stream)
  have ensures : (journal.addStream stream).ensureOwn stream =
      (journal.addStream stream, before.length) := by
    unfold ensureOwn
    rw [same.findIdx?]
  exact enable_of_ensureOwn ensures same level

/-- The first call attaches the own handler behind all others, also if the level is refused. -/
theorem Bare.enable (bare : Bare journal) (level : Level) (stream : Option String) :
    ∃ next, Headed journal.handlers
        { own := true, level := (Action.enable level stream).level?.getD 0, stream } [] next ∧
      journal.enable level stream = (next, level.resolve.map fun _ => journal.handlers.length) := by
  have none : (journal.addStream stream).handlers.findIdx? (·.own) = none := by
    rw [handlers_addStream, bare.findIdx?]
  have ensures : (journal.addStream stream).ensureOwn stream =
      ((journal.addStream stream).attach { own := true, stream }, journal.handlers.length) := by
    unfold ensureOwn
    rw [none, handlers_addStream]
  have headed : Headed journal.handlers { own := true, stream } []
      ((journal.addStream stream).attach { own := true, stream }) := by
    unfold attach
    refine ⟨by rw [handlers_addStream], rfl, ?_, ?_⟩
    · rw [List.append_nil]
      exact bare.handlers
    · rw [level_addStream, bare.level]
  exact enable_of_ensureOwn ensures headed level

/-! ## Actions -/

/-- What is reported on a call, from what the call gives. -/
theorem act_enable {level : Level} {stream : Option String} {next : Journal} {place : Nat}
    (enables : journal.enable level stream = (next, level.resolve.map fun _ => place)) :
    journal.act (.enable level stream) =
      match level.resolve with
      | .error name => { result := .error (.unknownLevel name), journal := next }
      | .ok _ => { result := .ok (.enabled place (levelName next.level)), journal := next } := by
  rw [act, enables]
  cases level.resolve <;> rfl

theorem journal_act_enable {level : Level} {stream : Option String} {next : Journal} {place : Nat}
    (enables : journal.enable level stream = (next, level.resolve.map fun _ => place)) :
    (journal.act (.enable level stream)).journal = next := by
  rw [act_enable enables]
  cases level.resolve <;> rfl

/-- Whatever is done, the own handler keeps its place, its stream and those before it. Its level is
the one that was set last. -/
theorem Headed.act (headed : Headed before mine later journal) (action : Action) :
    ∃ more, Headed before { mine with level := action.level?.getD mine.level } (later ++ more)
      (journal.act action).journal := by
  cases action with
  | enable level stream =>
    obtain ⟨next, headed, enables⟩ := headed.enable level stream
    refine ⟨[], ?_⟩
    rw [List.append_nil, journal_act_enable enables]
    exact headed
  | plain stream level =>
    refine ⟨[{ own := false, level, stream := some stream }], ?_, headed.own, ?_, ?_⟩
    · rw [Journal.act, attach, handlers_addStream, headed.handlers, List.append_assoc]
      rfl
    · intro handler member
      rw [← List.append_assoc, List.mem_append, List.mem_singleton] at member
      rcases member with member | rfl
      · exact headed.others handler member
      · rfl
    · rw [Journal.act, attach, level_addStream]
      exact headed.level
  | log name level text =>
    refine ⟨[], ?_⟩
    rw [List.append_nil]
    exact headed.congr (handlers_write journal _) (level_write journal _)
  | scan source file options listeners =>
    refine ⟨[], ?_⟩
    rw [List.append_nil]
    exact headed.congr (handlers_writeAll journal _) (level_writeAll journal _)

/-- Without an own handler there is none afterwards either, unless the action is to attach it. The
others keep their places. -/
theorem Bare.act (bare : Bare journal) (action : Action) :
    (action.level? = none ∧ Bare (journal.act action).journal ∧
      journal.handlers <+: (journal.act action).journal.handlers) ∨
    ∃ stream, Headed journal.handlers { own := true, level := action.level?.getD 0, stream } []
      (journal.act action).journal := by
  cases action with
  | enable level stream =>
    obtain ⟨next, headed, enables⟩ := bare.enable level stream
    refine .inr ⟨stream, ?_⟩
    rw [journal_act_enable enables]
    exact headed
  | plain stream level =>
    refine .inl ⟨rfl, ⟨?_, ?_⟩, ?_⟩
    · intro handler member
      rw [Journal.act, attach, handlers_addStream, List.mem_append, List.mem_singleton] at member
      rcases member with member | rfl
      · exact bare.handlers handler member
      · rfl
    · rw [Journal.act, attach, level_addStream]
      exact bare.level
    · rw [Journal.act, attach, handlers_addStream]
      exact List.prefix_append _ _
  | log name level text =>
    exact .inl ⟨rfl, bare.congr (handlers_write journal _) (level_write journal _),
      (handlers_write journal _).symm ▸ List.prefix_rfl⟩
  | scan source file options listeners =>
    exact .inl ⟨rfl, bare.congr (handlers_writeAll journal _) (level_writeAll journal _),
      (handlers_writeAll journal _).symm ▸ List.prefix_rfl⟩

/-! ## What holds of both -/

/-- The own handler has its place, or there is none yet. -/
def Orderly (journal : Journal) : Prop :=
  Bare journal ∨ ∃ before mine later, Headed before mine later journal

namespace Orderly

variable (orderly : Orderly journal)
include orderly

theorem act (action : Action) : Orderly (journal.act action).journal := by
  rcases orderly with bare | ⟨before, mine, later, headed⟩
  · rcases bare.act action with ⟨-, bare, -⟩ | ⟨stream, headed⟩
    · exact .inl bare
    · exact .inr ⟨_, _, _, headed⟩
  · obtain ⟨more, headed⟩ := headed.act action
    exact .inr ⟨_, _, _, headed⟩

theorem countP_own : journal.handlers.countP (·.own) ≤ 1 := by
  rcases orderly with bare | ⟨before, mine, later, headed⟩
  · rw [List.countP_eq_zero.2 (by simpa using bare.handlers)]
    exact Nat.zero_le 1
  · have front : before.countP (·.own) = 0 := by
      rw [List.countP_eq_zero]
      intro handler member
      simp [headed.others handler (List.mem_append_left _ member)]
    have back : later.countP (·.own) = 0 := by
      rw [List.countP_eq_zero]
      intro handler member
      simp [headed.others handler (List.mem_append_right _ member)]
    have all : journal.handlers.countP (·.own) = 0 + (0 + 1) := by
      rw [headed.handlers, List.countP_append, front, List.countP_cons_of_pos headed.own, back]
    omega

theorem level_own {handler : Handler} (member : handler ∈ journal.handlers)
    (own : handler.own = true) : handler.level = journal.level := by
  rcases orderly with bare | ⟨before, mine, later, headed⟩
  · exact absurd own (by simp [bare.handlers handler member])
  · rw [headed.handlers, List.mem_append, List.mem_cons] at member
    rcases member with member | rfl | member
    · exact absurd own (by simp [headed.others handler (List.mem_append_left _ member)])
    · exact headed.level
    · exact absurd own (by simp [headed.others handler (List.mem_append_right _ member)])

theorem level_act (action : Action) :
    (journal.act action).journal.level = action.level?.getD journal.level := by
  rcases orderly with bare | ⟨before, mine, later, headed⟩
  · rcases bare.act action with ⟨none, next, -⟩ | ⟨stream, next⟩
    · rw [next.level, none, Option.getD_none, bare.level]
    · rw [← next.level, bare.level]
  · obtain ⟨more, next⟩ := headed.act action
    rw [← next.level, ← headed.level]

/-- Handlers keep their places, and all but the own one are left as they are. -/
theorem getElem?_act (action : Action) {i : Nat} {handler : Handler}
    (there : journal.handlers[i]? = some handler) :
    (journal.act action).journal.handlers[i]? =
      some (if handler.own then { handler with level := action.level?.getD handler.level }
        else handler) := by
  rcases orderly with bare | ⟨before, mine, later, headed⟩
  · have kept : journal.handlers <+: (journal.act action).journal.handlers := by
      rcases bare.act action with ⟨-, -, kept⟩ | ⟨stream, next⟩
      · exact kept
      · rw [next.handlers]
        exact List.prefix_append _ _
    rw [bare.handlers handler (List.mem_of_getElem? there), if_neg (by simp)]
    obtain ⟨more, split⟩ := kept
    rw [← split, List.getElem?_append_left (List.getElem?_eq_some_iff.1 there).1, there]
  · obtain ⟨more, next⟩ := headed.act action
    rw [headed.handlers, List.getElem?_append] at there
    rw [next.handlers, List.getElem?_append]
    split at there
    · next inside =>
      have other := headed.others handler (List.mem_append_left _ (List.mem_of_getElem? there))
      rw [if_pos inside, other, if_neg (by simp), there]
    · next outside =>
      rw [if_neg outside]
      cases behind : i - before.length with
      | zero =>
        rw [behind, List.getElem?_cons_zero] at there
        cases there
        rw [headed.own, if_pos rfl, List.getElem?_cons_zero]
      | succ n =>
        rw [behind, List.getElem?_cons_succ] at there
        have other := headed.others handler (List.mem_append_right _ (List.mem_of_getElem? there))
        have inside := (List.getElem?_eq_some_iff.1 there).1
        rw [List.getElem?_cons_succ, List.getElem?_append_left inside, there, other,
          if_neg (by simp)]

/-- A call that succeeds answers with the place of the own handler. -/
theorem exists_enabled {level : Level} {value : Int} (ok : level.resolve = .ok value)
    (stream : Option String) :
    ∃ before mine later, Headed before mine later (journal.act (.enable level stream)).journal ∧
      mine.level = value ∧
      (journal.act (.enable level stream)).result =
        .ok (.enabled before.length (levelName value)) := by
  have sets : (Action.enable level stream).level? = some value := by
    rw [Action.level?, ok]
    rfl
  rcases orderly with bare | ⟨before, mine, later, headed⟩
  · obtain ⟨next, headed, enables⟩ := bare.enable level stream
    have level := headed.level
    rw [sets, Option.getD_some] at headed level
    refine ⟨_, _, _, (journal_act_enable enables).symm ▸ headed, rfl, ?_⟩
    rw [act_enable enables, ok, ← level]
  · obtain ⟨next, headed, enables⟩ := headed.enable level stream
    have level := headed.level
    rw [sets, Option.getD_some] at headed level
    refine ⟨_, _, _, (journal_act_enable enables).symm ▸ headed, rfl, ?_⟩
    rw [act_enable enables, ok, ← level]

theorem result_of_error {level : Level} {name : String} (refused : level.resolve = .error name)
    (stream : Option String) :
    (journal.act (.enable level stream)).result = .error (.unknownLevel name) := by
  rcases orderly with bare | ⟨before, mine, later, headed⟩
  · obtain ⟨next, -, enables⟩ := bare.enable level stream
    rw [act_enable enables, refused]
  · obtain ⟨next, -, enables⟩ := headed.enable level stream
    rw [act_enable enables, refused]

end Orderly

/-! ## Sequences of actions -/

/-- The journal after actions. -/
def after (actions : List Action) : Journal :=
  actions.foldl (fun journal action => (journal.act action).journal) {}

theorem after_concat (actions : List Action) (action : Action) :
    after (actions ++ [action]) = ((after actions).act action).journal := by
  unfold after
  rw [List.foldl_concat]

theorem getElem?_go (journal : Journal) (actions : List Action) (n : Nat) :
    (run.go journal actions)[n]? =
      actions[n]?.map ((actions.take n).foldl (fun journal action => (journal.act action).journal)
        journal).act := by
  induction actions generalizing journal n with
  | nil => simp [run.go]
  | cons action rest ih =>
    cases n with
    | zero => simp [run.go]
    | succ n => simpa [run.go] using ih (journal.act action).journal n

/-- A report is on one action, done in the journal after those before it. -/
theorem getElem?_run (actions : List Action) (n : Nat) :
    (run actions)[n]? = actions[n]?.map (after (actions.take n)).act :=
  getElem?_go {} actions n

theorem orderly_after (actions : List Action) : Orderly (after actions) := by
  induction actions using List.reverseRecOn with
  | nil => exact .inl ⟨by simp [after], rfl⟩
  | append_singleton actions action ih =>
    rw [after_concat]
    exact ih.act action

/-- Over any number of actions the own handler keeps its place, and its level until one is set. -/
theorem Headed.append {actions : List Action} (headed : Headed before mine later (after actions))
    (rest : List Action) :
    ∃ level more, Headed before { mine with level } (later ++ more) (after (actions ++ rest)) ∧
      ((∀ action ∈ rest, action.level? = none) → level = mine.level) := by
  induction rest using List.reverseRecOn with
  | nil =>
    refine ⟨mine.level, [], ?_, fun _ => rfl⟩
    rw [List.append_nil, List.append_nil]
    exact headed
  | append_singleton rest action ih =>
    obtain ⟨level, more, headed, kept⟩ := ih
    obtain ⟨next, headed⟩ := headed.act action
    rw [List.append_assoc] at headed
    rw [← List.append_assoc, after_concat]
    refine ⟨_, _, headed, ?_⟩
    intro none
    rw [none action (by simp), Option.getD_none]
    exact kept fun action member => none action (List.mem_append_left _ member)

/-! ## Records -/

/-- A call that succeeds drops all answers, and one that is refused leaves the level as it is. -/
theorem Honest.enable (honest : Honest journal) (level : Level) (stream : Option String) :
    Honest (journal.enable level stream).1 := by
  have ensured : Honest ((journal.addStream stream).ensureOwn stream).1 := by
    unfold ensureOwn
    split
    · exact honest.addStream stream
    · exact (honest.addStream stream).congr (honest.addStream stream).rooted rfl rfl
  unfold Journal.enable
  simp only
  split
  · exact ensured
  · exact ⟨ensured.rooted, fun _ _ _ _ given => by cases given⟩

theorem Honest.act (honest : Honest journal) (action : Action) :
    Honest (journal.act action).journal := by
  cases action with
  | enable level stream =>
    have enabled := honest.enable level stream
    rw [Journal.act]
    generalize journal.enable level stream = given at enabled ⊢
    obtain ⟨next, name | place⟩ := given
    · exact enabled
    · exact enabled
  | plain stream level =>
    exact (honest.addStream (some stream)).congr (honest.addStream (some stream)).rooted rfl rfl
  | log name level text => exact honest.write _
  | scan source file options listeners => exact honest.writeAll _

theorem honest_after (actions : List Action) : Honest (after actions) := by
  induction actions using List.reverseRecOn with
  | nil => exact ⟨by decide, fun _ _ _ _ given => by cases given⟩
  | append_singleton actions action ih =>
    rw [after_concat]
    exact ih.act action

/-- With a level of at least one, the own handler writes the records from that level on, each once,
and nobody writes any other, provided that their logger always comes to the root. -/
theorem Headed.written (headed : Headed before mine later journal) (honest : Honest journal)
    (positive : 1 ≤ mine.level) (entry : Entry) (single : Single entry.logger) :
    (journal.write entry).2 =
      if mine.level ≤ entry.level then
        writings before entry ++
          { stream := mine.stream, text := mine.render entry } :: writings later entry
      else [] := by
  have threshold : journal.threshold = mine.level := by
    unfold Journal.threshold
    rw [← headed.level, if_neg (by omega)]
  rw [honest.written single, threshold]
  by_cases enough : mine.level ≤ entry.level
  · rw [if_pos enough, if_pos (by simp only [Bool.and_eq_true, decide_eq_true_eq]; omega),
      headed.handlers]
    simp [writings, enough]
  · rw [if_neg enough, if_neg (by simp [enough])]

/-! ## The handlers of a journal -/

/-- What an action may do to the handlers of a journal. -/
structure Respects (journal : Journal) (action : Action) : Prop where
  /-- A handler that is not the own one stays as it is. -/
  foreign : ∀ (i : Nat) (handler : Handler), journal.handlers[i]? = some handler →
    handler.own = false → (journal.act action).journal.handlers[i]? = some handler
  /-- A level by an unknown name is refused, and no level changes. -/
  refused : ∀ name stream, action = .enable (.name name) stream → levels.lookup name = none →
    (journal.act action).result = .error (.unknownLevel name) ∧
      (journal.act action).journal.level = journal.level ∧
      ∀ (i : Nat) handler, journal.handlers[i]? = some handler →
        (journal.act action).journal.handlers[i]? = some handler
  /-- A call that succeeds answers with the place of the own handler, which has the level then. -/
  enabled : ∀ level stream value, action = .enable level stream → level.resolve = .ok value →
    ∃ place handler, (journal.act action).result = .ok (.enabled place (levelName value)) ∧
      (journal.act action).journal.handlers[place]? = some handler ∧ handler.own = true ∧
      handler.level = value ∧ (journal.act action).journal.level = value

theorem Orderly.respects (orderly : Orderly journal) (action : Action) :
    Respects journal action where
  foreign i handler there other := by
    rw [orderly.getElem?_act action there, other, if_neg (by simp)]
  refused name stream same unknown := by
    subst same
    have refused : (Level.name name).resolve = .error name := by
      rw [Level.resolve, unknown]
    have sets : (Action.enable (.name name) stream).level? = none := by
      rw [Action.level?, refused]
      rfl
    refine ⟨orderly.result_of_error refused stream, ?_, ?_⟩
    · rw [orderly.level_act, sets, Option.getD_none]
    · intro i handler there
      rw [orderly.getElem?_act _ there, sets, Option.getD_none, ite_self]
  enabled level stream value same ok := by
    subst same
    obtain ⟨before, mine, later, headed, set, result⟩ := orderly.exists_enabled ok stream
    refine ⟨before.length, mine, result, ?_, headed.own, set, ?_⟩
    · rw [headed.handlers, List.getElem?_append_right (Nat.le_refl _), Nat.sub_self,
        List.getElem?_cons_zero]
    · rw [← headed.level, set]

/-- Only a call that succeeds answers with a handler. -/
theorem Orderly.exists_of_enabled (orderly : Orderly journal) {action : Action} {place : Nat}
    {name : String} (result : (journal.act action).result = .ok (.enabled place name)) :
    ∃ before mine later, Headed before mine later (journal.act action).journal ∧
      before.length = place := by
  cases action with
  | enable level stream =>
    cases resolved : level.resolve with
    | error unknown =>
      rw [orderly.result_of_error resolved stream] at result
      cases result
    | ok value =>
      obtain ⟨before, mine, later, headed, -, same⟩ := orderly.exists_enabled resolved stream
      cases same.symm.trans result
      exact ⟨before, mine, later, headed, rfl⟩
  | plain stream level => cases result
  | log logger level text => cases result
  | scan source file options listeners =>
    rw [Journal.act] at result
    simp only at result
    split at result <;> cases result

/-- All calls that succeed answer with the same handler. -/
theorem enabled_same {first rest : List Action} {action next : Action} {place other : Nat}
    {level name : String}
    (result : ((after first).act action).result = .ok (.enabled place level))
    (again : ((after (first ++ action :: rest)).act next).result = .ok (.enabled other name)) :
    place = other := by
  obtain ⟨before, mine, later, headed, rfl⟩ := (orderly_after first).exists_of_enabled result
  rw [← after_concat] at headed
  obtain ⟨set, more, headed, -⟩ := headed.append rest
  rw [List.append_assoc, List.singleton_append] at headed
  obtain ⟨front, own, back, last, rfl⟩ :=
    (orderly_after (first ++ action :: rest)).exists_of_enabled again
  obtain ⟨further, headed⟩ := headed.act next
  have place := headed.findIdx?
  rw [last.findIdx?] at place
  exact (Option.some.inj place).symm

/-- What holds of handlers after any sequence of actions. -/
structure Handled (actions : List Action) : Prop where
  /-- The reports are on actions that are done one after another. -/
  reports : ∀ n : Nat, (run actions)[n]? = actions[n]?.map (after (actions.take n)).act
  /-- There is never more than one own handler. -/
  single : (after actions).handlers.countP (·.own) ≤ 1
  /-- Its level is that of the root. -/
  level : ∀ handler ∈ (after actions).handlers, handler.own = true →
    handler.level = (after actions).level
  respects : ∀ action, Respects (after actions) action
  /-- All calls that succeed answer with the same handler. -/
  same : ∀ action rest next place other level name,
    ((after actions).act action).result = .ok (.enabled place level) →
    ((after (actions ++ action :: rest)).act next).result = .ok (.enabled other name) →
    place = other
  /-- A record is written by all handlers whose level it has, each once, or it is not written. -/
  written : ∀ name severity text,
    let entry : Entry := { level := severity, logger := loggerName name, text }
    ((after actions).act (.log name severity text)).written = [] ∨
      ((after actions).act (.log name severity text)).written =
        writings (after actions).handlers entry

theorem handled (actions : List Action) : Handled actions where
  reports := getElem?_run actions
  single := (orderly_after actions).countP_own
  level _ member own := (orderly_after actions).level_own member own
  respects := (orderly_after actions).respects
  same _ _ _ _ _ _ _ result again := enabled_same result again
  written _ _ _ := written_eq_nil_or _

/-! ## What is carried to the own handler -/

/-- After a call that sets a level of at least one, and until a level is set again, the own handler
writes each record by the logger of a name once if it has the level, and nobody writes any other. -/
def Carried (name : String) (actions : List Action) : Prop :=
  ∀ level stream value rest, level.resolve = .ok value → 1 ≤ value →
    (∀ action ∈ rest, action.level? = none) →
    ∃ before mine later,
      Headed before mine later (after (actions ++ .enable level stream :: rest)) ∧
      ∀ severity text,
        let entry : Entry := { level := severity, logger := loggerName name, text }
        let journal := after (actions ++ .enable level stream :: rest)
        (journal.act (.log name severity text)).written =
          if value ≤ severity then
            writings before entry ++
              { stream := mine.stream, text := mine.render entry } :: writings later entry
          else []

theorem carried_of_single {name : String} (single : Single (loggerName name))
    (actions : List Action) : Carried name actions := by
  intro level stream value rest ok positive quiet
  obtain ⟨before, mine, later, headed, set, -⟩ := (orderly_after actions).exists_enabled ok stream
  rw [← after_concat] at headed
  obtain ⟨kept, more, headed, same⟩ := headed.append rest
  rw [List.append_assoc, List.singleton_append, same quiet] at headed
  refine ⟨_, _, _, headed, ?_⟩
  intro severity text entry journal
  have written := headed.written (honest_after _) (by rw [set]; exact positive) entry single
  rw [← set]
  exact written

/-- Ask for a level, and then for a logger whose name ends in two dots behind the root. -/
def diverted : List Action := [.enable (.number 10) none, .log "." 10 ""]

/-- Once there is a logger whose name ends in two dots behind the root, other loggers behind two
dots hand their records to it, and it hands them to nobody. -/
theorem reaches_diverted {logger : String} (doubled : Doubled logger) :
    ((after diverted).addLogger logger).reaches logger = false := by
  have loggers (other : String) : other ∈ ((after diverted).addLogger logger).loggers ↔
      other ∈ root :: toolLoggers ++ [root ++ ".."] ∨ other = logger :=
    mem_loggers_addLogger (after diverted) logger
  have plain : ∀ other ∈ root :: toolLoggers ++ [root ++ ".."], Doubled other →
      other = root ++ ".." := by decide
  refine reaches_of_doubled ?_ ?_ doubled ?_
  · rw [loggers]
    exact .inl (by simp)
  · rw [loggers]
    rintro (known | rfl)
    · exact absurd known (by decide)
    · exact absurd doubled (by decide)
  · intro other known shorter more
    rcases (loggers other).1 known with known | rfl
    · exact plain other known more
    · exact absurd shorter (Nat.lt_irrefl _)

theorem not_carried_of_doubled {name : String} (doubled : Doubled (loggerName name)) :
    ¬Carried name [] := by
  intro carried
  obtain ⟨before, mine, later, -, written⟩ :=
    carried (.number 10) none 10 [.log "." 10 ""] rfl (by decide) (by simp [Action.level?])
  have astray : ((after diverted).act (.log name 30 "")).written = [] :=
    written_of_astray { level := 30, logger := loggerName name, text := "" }
      (reaches_diverted doubled)
  have some := astray.symm.trans (written 30 "")
  simp at some

/-- Handlers after any sequence of actions are as they should be, and the records of a logger are
carried to the own handler, whatever was done before, just if the name of the logger does not go on
behind the root with two dots. -/
theorem run_handlers (actions : List Action) (name : String) :
    Handled actions ∧
      ((∀ earlier, Carried name earlier) ↔ ¬Doubled (loggerName name)) := by
  refine ⟨handled actions, ?_, ?_⟩
  · intro carried doubled
    exact not_carried_of_doubled doubled (carried [])
  · intro single earlier
    exact carried_of_single (single_loggerName single) earlier

/-- The record of a logger behind two dots is not written, though it has the level. -/
theorem run_unheard :
    (run [.enable (.number 10) (some "s"), .log ".x" 30 "hi", .log "x" 30 "hi"]).map (·.written) =
      [[], [], [{ stream := some "s", text := "WARNING kagscript.x: hi\n" }]] := by
  decide +kernel

end Scenario.Journal
