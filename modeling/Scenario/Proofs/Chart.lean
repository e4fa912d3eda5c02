import Scenario.Proofs.Course
import Scenario.Session.Run

/-! # Charts of a session

In a session cursors are moved by commands, by the rules of the scan, and by listeners in the midst
of both. A chart is a list of courses, one for each cursor of the session, such that every token
that was delivered was made on one of them or was given to be delivered by a command (`Charted`).
This module says how a chart changes with each change of a session. A rule of the scan, in
particular, moves its cursor by operations only (`Scan.reached_start`, `Scan.reached_step`).
-/

namespace Scenario

/-! ## Rules act by operations -/

namespace Operation

/-- A cursor is what operations make of another one. -/
def Reached (c d : Cursor) : Prop := ∃ operations, d = replay operations c

theorem Reached.refl (c : Cursor) : Reached c c := ⟨[], rfl⟩

theorem Reached.trans {c d e : Cursor} (first : Reached c d) (later : Reached d e) :
    Reached c e := by
  obtain ⟨operations, rfl⟩ := first
  obtain ⟨more, rfl⟩ := later
  exact ⟨operations ++ more, List.foldl_append.symm⟩

theorem reached_apply (operation : Operation) (c : Cursor) : Reached c (operation.apply c) :=
  ⟨[operation], rfl⟩

theorem Reached.apply {c d : Cursor} (reached : Reached c d) (operation : Operation) :
    Reached c (operation.apply d) :=
  reached.trans (reached_apply operation d)

end Operation

/-- Recording a run is recording its characters one by one. -/
theorem Cursor.record_succ (c : Cursor) (n : Nat) : c.record (n + 1) = c.advance.record n := by
  cases ahead : c.ahead with
  | nil => simp [record, advance, ahead]
  | cons char rest =>
    have origin : c.advance.origin = c.origin := by rw [advance_eq_record, origin_record]
    have moved : c.advance =
        { c with
          behind := char :: c.behind
          ahead := rest
          position := c.position.next char
          pending := c.pending ++ [char]
          mark := c.origin } := by rw [advance, ahead]
    rw [moved] at origin ⊢
    cases run : rest.take n with
    | nil =>
      have same : rest.drop n = rest := by
        have whole := List.take_append_drop n rest
        rwa [run] at whole
      simp [record, ahead, run, same, Position.after_cons]
    | cons next more => simp [record, ahead, run, origin, Position.after_cons]

open Operation

theorem Cursor.reached_record (c : Cursor) (n : Nat) : Reached c (c.record n) := by
  induction n generalizing c with
  | zero => exact .refl c
  | succ n ih =>
    rw [record_succ]
    exact (reached_apply .advance c).trans (ih _)

theorem Cursor.reached_skipChar (char : Char) (c : Cursor) : Reached c (c.skipChar char) := by
  rw [skipChar]
  split
  · exact reached_apply .skipOne c
  · exact .refl c

namespace Scan

/-- Where a move has led. -/
def Move.cursor : Move → Cursor
  | .emit _ _ _ _ c => c
  | .done c => c
  | .fail _ c => c

variable (c : Cursor)

theorem reached_directive : Reached c (directive c).cursor := by
  have reached := (reached_apply .skipOne c).apply (.recordUntil Delimiter.isNewline)
  simp only [directive]
  split <;> exact reached

theorem reached_segment : Reached c (segment c).cursor := by
  have reached := reached_apply (.recordUntil Delimiter.endsSegment) c
  simp only [segment]
  split <;> exact reached

theorem reached_label : Reached c (label c).cursor := by
  have reached := reached_apply .skipOne c
  simp only [label]
  split
  · exact reached
  · exact reached.trans (reached_segment _)

theorem reached_tag (inline : Bool) : Reached c (tag inline c).cursor := by
  have reached := (reached_apply .skipOne c).apply (.recordUntil (· == ']'))
  simp only [tag]
  split
  · exact reached
  · split <;> exact reached

theorem reached_text : Reached c (text c).cursor := c.reached_record _

theorem reached_route : Reached c (route c).cursor := by
  rw [route]
  split
  · exact .refl c
  · exact reached_directive c
  · exact reached_label c
  · exact reached_text c
  · exact reached_tag c false
  · exact reached_text c

theorem reached_line : Reached c (line c).cursor := by
  rw [line]
  split
  · exact (reached_apply .skipBlanks c).trans (reached_route _)
  · exact reached_route c

theorem reached_start (rule : Rule) : Reached c (rule.start c).cursor := by
  cases rule with
  | line => exact reached_line c
  | directive => exact reached_directive c
  | label => exact reached_label c
  | tag inline => exact reached_tag c inline
  | text => exact reached_text c

theorem reached_step (resume : Resume) : Reached c (resume.step c).cursor := by
  cases resume with
  | finish => exact .refl c
  | endLine => exact reached_apply .skipNewline c
  | closeTag => exact c.reached_skipChar ']'
  | nextSegment =>
    simp only [Resume.step]
    split
    · split
      · exact reached_apply .skipOne c
      · split
        · exact (reached_apply .skipOne c).apply .skipNewline
        · exact (reached_apply .skipOne c).trans (reached_segment _)
    · exact reached_apply .skipNewline c
  | afterText inline =>
    simp only [Resume.step]
    split
    · exact .refl c
    · exact reached_tag c inline
    · exact reached_line c

end Scan

/-! ## Charts -/

/-- Later courses go on from earlier ones, and there may be new ones. -/
def Extends (courses later : List Course) : Prop :=
  ∀ (i : Nat) course, courses[i]? = some course →
    ∃ operations, later[i]? = some (course.followedBy operations)

theorem Course.followedBy_nil (course : Course) : course.followedBy [] = course := by
  rw [followedBy, List.append_nil]

theorem Course.followedBy_followedBy (course : Course) (first later : List Operation) :
    (course.followedBy first).followedBy later = course.followedBy (first ++ later) := by
  rw [followedBy, followedBy, followedBy, List.append_assoc]

theorem Extends.refl (courses : List Course) : Extends courses courses :=
  fun _ course found => ⟨[], by rw [found, course.followedBy_nil]⟩

theorem Extends.trans {first middle last : List Course} (earlier : Extends first middle)
    (later : Extends middle last) : Extends first last := by
  intro i course found
  obtain ⟨operations, there⟩ := earlier i course found
  obtain ⟨more, last⟩ := later i _ there
  exact ⟨operations ++ more, by rw [last, Course.followedBy_followedBy]⟩

theorem extends_modify (courses : List Course) (number : Nat) (operations : List Operation) :
    Extends courses (courses.modify number (·.followedBy operations)) := by
  intro i course found
  rw [List.getElem?_modify, found]
  by_cases here : number = i
  · exact ⟨operations, by simp [here]⟩
  · exact ⟨[], by simp [here, course.followedBy_nil]⟩

theorem extends_append (courses more : List Course) : Extends courses (courses ++ more) := by
  intro i course found
  have inside : i < courses.length := (List.getElem?_eq_some_iff.1 found).1
  exact ⟨[], by rw [List.getElem?_append_left inside, found, course.followedBy_nil]⟩

namespace Session

/-- A command, or one that it leads to, gives a token to be delivered. -/
inductive Command.Notifies : Command → Token → Prop where
  | notify (token : Token) : Notifies (.notify token) token
  | register {name : String} {filter : Filter} {whole : Bool} {reactions : List (Reaction Command)}
      {like : Option String} {reaction : Reaction Command} {token : Token}
      (member : reaction ∈ reactions) (inner : Notifies reaction.step.command token) :
      Notifies (.register name filter whole reactions like) token
  | within {options : Options} {steps : List (Step Command)} {step : Step Command} {token : Token}
      (member : step ∈ steps) (inner : Notifies step.command token) :
      Notifies (.within options steps) token

/-- What is delivered tells of a token. -/
def Delivery.Shows : Delivery → Token → Prop
  | .plain _ kind value, token => token.kind = kind ∧ token.value = value
  | .whole _ shown, token => shown = token
  | .call _ _ shown, token => shown = token

/-- A token was made on one of the courses, or it was given. -/
def Known (given : Token → Prop) (courses : List Course) (token : Token) : Prop :=
  given token ∨ ∃ course ∈ courses, .made token ∈ course.acts

/-- A command leads to no other tokens than those given. -/
def Command.Tells (given : Token → Prop) (command : Command) : Prop :=
  ∀ token, command.Notifies token → given token

/-- A consumer will give no other tokens than those given. -/
def Consumer.Tells (given : Token → Prop) : Consumer → Prop
  | .recorder listener => ∀ reaction ∈ listener.reactions, reaction.step.command.Tells given
  | _ => True

/-- The cursors of a session are where their courses lead, and what was delivered is known. -/
structure Charted (given : Token → Prop) (courses : List Course) (s : Session) : Prop where
  cursors : s.scanners.toList.map Scanner.cursor = courses.map Course.cursor
  log : ∀ delivery ∈ s.log, ∃ token, delivery.Shows token ∧ Known given courses token
  consumers : ∀ consumer ∈ s.consumers, consumer.Tells given

variable {given : Token → Prop} {courses later : List Course} {s t : Session}

theorem Known.extends {token : Token} (known : Known given courses token)
    (more : Extends courses later) : Known given later token := by
  rcases known with told | ⟨course, member, made⟩
  · exact .inl told
  · obtain ⟨i, found⟩ := List.mem_iff_getElem?.1 member
    obtain ⟨operations, there⟩ := more i course found
    refine .inr ⟨_, List.mem_of_getElem? there, ?_⟩
    rw [Course.acts_followedBy]
    exact List.mem_append_left _ made

theorem charted_empty : Charted given [] {} where
  cursors := rfl
  log := by simp
  consumers := by simp

namespace Charted

variable (charted : Charted given courses s)
include charted

/-- What was delivered stays known. -/
theorem log_extends (more : Extends courses later) :
    ∀ delivery ∈ s.log, ∃ token, delivery.Shows token ∧ Known given later token := by
  intro delivery member
  obtain ⟨token, shows, known⟩ := charted.log delivery member
  exact ⟨token, shows, known.extends more⟩

theorem exists_course {number : Nat} {scanner : Scanner}
    (found : s.scanners[number]? = some scanner) :
    ∃ course, courses[number]? = some course ∧ course.cursor = scanner.cursor := by
  have same := congrArg (·[number]?) charted.cursors
  simp only [List.getElem?_map, Array.getElem?_toList, found, Option.map_some] at same
  exact Option.map_eq_some_iff.1 same.symm

theorem modifyCursor {number : Nat} {scanner : Scanner} {change : Cursor → Cursor}
    {operations : List Operation} (found : s.scanners[number]? = some scanner)
    (does : change scanner.cursor = replay operations scanner.cursor) :
    Charted given (courses.modify number (·.followedBy operations))
      (s.modifyCursor number change) where
  cursors := by
    obtain ⟨course, there, same⟩ := charted.exists_course found
    apply List.ext_getElem?
    intro i
    have other := congrArg (·[i]?) charted.cursors
    simp only [List.getElem?_map, Array.getElem?_toList] at other
    simp only [Session.modifyCursor, List.getElem?_map, Array.getElem?_toList,
      Array.getElem?_modify, List.getElem?_modify]
    by_cases here : number = i
    · subst here
      simp [found, there, does, Course.cursor_followedBy, same]
    · simpa [here] using other
  log := charted.log_extends (extends_modify courses number operations)
  consumers := charted.consumers

theorem create (name source : String) (file : Option String) (options : Options) :
    Charted given (courses ++ [⟨source, file, options, []⟩])
      (s.create name { cursor := .ofSource source file options }) where
  cursors := by simp [Session.create, charted.cursors, Course.cursor, replay]
  log := charted.log_extends (extends_append courses _)
  consumers := charted.consumers

theorem modifyRegistry (number : Nat) (change : Registry → Registry) :
    Charted given courses (s.modifyRegistry number change) where
  cursors := by
    rw [← charted.cursors]
    apply List.ext_getElem?
    intro i
    simp only [Session.modifyRegistry, List.getElem?_map, Array.getElem?_toList,
      Array.getElem?_modify]
    by_cases here : number = i
    · cases s.scanners[i]? <;> simp [here]
    · simp [here]
  log := charted.log
  consumers := charted.consumers

theorem subscribe (number : Nat) (name : String) (consumer : Nat) (filter : Filter)
    (whole : Bool) : Charted given courses (s.subscribe number name consumer filter whole) := by
  obtain ⟨cursors, log, consumers⟩ := charted.modifyRegistry number
    (·.register ⟨s.nextTicket, name, consumer, filter, whole⟩)
  exact ⟨cursors, log, consumers⟩

theorem addConsumer {consumer : Consumer} (tells : consumer.Tells given) :
    Charted given courses (s.addConsumer consumer) where
  cursors := charted.cursors
  log := charted.log
  consumers := by
    intro other member
    rcases Array.mem_push.1 member with member | rfl
    · exact charted.consumers other member
    · exact tells

theorem setConsumer (number : Nat) {consumer : Consumer} (tells : consumer.Tells given) :
    Charted given courses (s.setConsumer number consumer) where
  cursors := charted.cursors
  log := charted.log
  consumers := by
    intro other member
    rcases Array.mem_or_eq_of_mem_setIfInBounds member with member | rfl
    · exact charted.consumers other member
    · exact tells

theorem record {delivery : Delivery} {token : Token} (shows : delivery.Shows token)
    (known : Known given courses token) : Charted given courses (s.record delivery) where
  cursors := charted.cursors
  log := by
    intro other member
    rcases Array.mem_push.1 member with member | rfl
    · exact charted.log other member
    · exact ⟨token, shows, known⟩
  consumers := charted.consumers

theorem withOptions (options : Options) : Charted given courses { s with options } :=
  ⟨charted.cursors, charted.log, charted.consumers⟩

end Charted

end Session

end Scenario
