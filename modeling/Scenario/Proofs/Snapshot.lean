import Scenario.Proofs.Scoping

/-! # Cursors keep their options

A cursor takes the options that are active when it is put at the start of a source. Whatever a
session does afterwards, its cursors are moved by operations only (`onward_exec`), and none of these
changes the options. This holds in any session, also in one that no commands lead to.
-/

namespace Scenario

/-! ## What no operation changes -/

theorem Operation.Reached.kept {c d : Cursor} (reached : Operation.Reached c d) :
    d.options = c.options ∧ d.file = c.file := by
  obtain ⟨operations, rfl⟩ := reached
  induction operations generalizing c with
  | nil => exact ⟨rfl, rfl⟩
  | cons operation operations ih =>
    have once : (operation.apply c).options = c.options ∧ (operation.apply c).file = c.file := by
      cases operation with
      | advance => simp [Operation.apply, Cursor.advance_eq_record]
      | recordUntil stop => simp [Operation.apply, Cursor.recordUntil]
      | skipNewline => simp [Operation.apply, Cursor.skipNewline_eq_skip, Cursor.skip]
      | skipOne | skipBlanks | finalize kind inline => exact ⟨rfl, rfl⟩
    obtain ⟨options, file⟩ := ih (c := operation.apply c)
    exact ⟨options.trans once.1, file.trans once.2⟩

namespace Session

/-! ## Scans go on -/

/-- Every scan is still there, and its cursor was moved by operations only. -/
def Onward (s t : Session) : Prop :=
  ∀ (number : Nat) (scanner : Scanner), s.scanners[number]? = some scanner →
    ∃ later, t.scanners[number]? = some later ∧ Operation.Reached scanner.cursor later.cursor

section Onward

variable {s t u : Session}

theorem onward_of_scanners (same : t.scanners = s.scanners) : Onward s t := by
  intro number scanner found
  exact ⟨scanner, by rw [same, found], .refl _⟩

theorem Onward.refl (s : Session) : Onward s s := onward_of_scanners rfl

theorem Onward.trans (first : Onward s t) (second : Onward t u) : Onward s u := by
  intro number scanner found
  obtain ⟨middle, there, moved⟩ := first number scanner found
  obtain ⟨later, last, further⟩ := second number middle there
  exact ⟨later, last, moved.trans further⟩

theorem onward_modifyCursor {number : Nat} {change : Cursor → Cursor}
    (moved : ∀ scanner, s.scanners[number]? = some scanner →
      Operation.Reached scanner.cursor (change scanner.cursor)) :
    Onward s (s.modifyCursor number change) := by
  intro other scanner found
  by_cases here : number = other
  · subst here
    exact ⟨_, getElem?_modifyCursor found change, moved scanner found⟩
  · refine ⟨scanner, ?_, .refl _⟩
    rw [modifyCursor, Array.getElem?_modify, if_neg here, found]

theorem onward_modifyRegistry (s : Session) (number : Nat) (change : Registry → Registry) :
    Onward s (s.modifyRegistry number change) := by
  intro other scanner found
  by_cases here : number = other
  · subst here
    exact ⟨_, getElem?_modifyRegistry found change, .refl _⟩
  · refine ⟨scanner, ?_, .refl _⟩
    rw [modifyRegistry, Array.getElem?_modify, if_neg here, found]

theorem onward_create (s : Session) (name : String) (scanner : Scanner) :
    Onward s (s.create name scanner) := by
  intro number old found
  have inside : number < s.scanners.size := (Array.getElem?_eq_some_iff.1 found).1
  refine ⟨old, ?_, .refl _⟩
  rw [create, Array.getElem?_push_lt inside, ← found, Array.getElem?_eq_getElem inside]

theorem onward_subscribe (s : Session) (number : Nat) (name : String) (consumer : Nat)
    (filter : Filter) (whole : Bool) :
    Onward s (s.subscribe number name consumer filter whole) :=
  (onward_modifyRegistry s number (·.register _)).trans (onward_of_scanners rfl)

theorem onward_withOptions (s : Session) (options : Options) : Onward s { s with options } :=
  onward_of_scanners rfl

theorem onward_accept (s : Session) (receipt : Receipt) : Onward s (s.accept receipt) :=
  onward_of_scanners rfl

theorem Deed.onward {name : String} {command : Command} (deed : Deed s name command t) :
    Onward s t := by
  cases deed with
  | nothing => exact .refl s
  | create source file options => exact onward_create s name _
  | @move _ operation _ _ is named found =>
    exact onward_modifyCursor fun scanner _ => Operation.reached_apply operation scanner.cursor
  | @attach _ entry number brings named =>
    have added : Onward s (s.addConsumer entry.consumer) := onward_of_scanners rfl
    exact added.trans (onward_subscribe _ number _ _ _ _)
  | join named there => exact onward_subscribe s _ _ _ _ _
  | part named found known taken => exact onward_modifyRegistry s _ _
  | setOptions options => exact onward_withOptions s options
  | resetOptions => exact onward_withOptions s {}

end Onward

/-- A session is its own account, and goes on as its scans do. -/
def forwarding : Upkeep Session where
  Holds := Eq
  Later := Onward
  Knows _ _ := True
  Allows _ := True
  Begun _ _ := True
  refl := .refl
  trans := .trans
  knows _ known := known
  notify _ := trivial
  within _ _ _ := trivial
  reactions _ _ _ _ := trivial
  options := by
    rintro s _ options rfl
    exact ⟨_, onward_withOptions s options, rfl⟩
  moved := by
    rintro s _ number scanner cursor rfl found reached
    refine ⟨_, onward_modifyCursor fun other there => ?_, rfl⟩
    cases found.symm.trans there
    exact reached
  made := by
    rintro s _ number scanner kind inline rfl found
    have made : Onward s (s.modifyCursor number (·.finalize kind)) :=
      onward_modifyCursor fun other _ =>
        Operation.reached_apply (.finalize kind inline) other.cursor
    exact ⟨_, made, rfl, trivial⟩
  accepted := by
    rintro s _ token subscription rfl -
    exact ⟨_, onward_accept s _, rfl⟩
  obeyed := by
    rintro s _ name command again rfl - - alone
    exact ⟨_, (deed_obey alone again).onward, rfl⟩

/-- Whatever is done in a session, and to whatever depth, its scans go on. -/
theorem onward_exec (fuel : Nat) (job : Job) (s : Session) : Onward s (left (exec fuel job) s) := by
  have concurs : forwarding.Concurs (exec fuel) (exec fuel) :=
    Upkeep.concurs_exec (fun _ _ => trivial) fuel
  have admits : forwarding.Admits s job :=
    Accounts.admits_of_forall (fun _ => trivial) (fun _ _ => trivial) s job
  obtain ⟨t, onward, ended⟩ := (concurs job s s rfl admits).kept
  rw [← ended]
  exact onward

theorem onward_of_yields {s t : Session} {job : Job} {result : Except Failure Answer}
    (yields : Yields (exec · job) s result t) : Onward s t := by
  obtain ⟨enough, ran⟩ := yields
  have onward := onward_exec enough job s
  rw [left, ran enough (Nat.le_refl enough)] at onward
  exact onward

/-- Work leads from one session to another: jobs are done one after another, whether they fail or
not, and in between other options become active, as they do at the end of a block. -/
inductive Leads : Session → Session → Prop where
  | refl {s : Session} : Leads s s
  | job {s t : Session} (fuel : Nat) (job : Job) (rest : Leads (left (exec fuel job) s) t) :
      Leads s t
  | options {s t : Session} (options : Options) (rest : Leads { s with options } t) : Leads s t

theorem Leads.onward {s t : Session} (leads : Leads s t) : Onward s t := by
  induction leads with
  | refl => exact .refl _
  | job fuel job rest ih => exact (onward_exec fuel job _).trans ih
  | options options rest ih => exact (onward_withOptions _ options).trans ih

theorem Leads.trans {s t u : Session} (first : Leads s t) (second : Leads t u) : Leads s u := by
  induction first with
  | refl => exact second
  | job fuel job rest ih => exact .job fuel job (ih second)
  | options options rest ih => exact .options options (ih second)

/-- Of the steps of a session, the later ones lead on from the earlier ones. -/
theorem leads_after (fuel : Nat) (steps more : List (Step Command)) :
    Leads (after fuel steps) (after fuel (steps ++ more)) := by
  induction more using List.reverseRecOn with
  | nil =>
    rw [List.append_nil]
    exact .refl
  | append_singleton more step ih =>
    rw [← List.append_assoc, after_concat]
    exact ih.trans (.job fuel _ .refl)

end Session

end Scenario
