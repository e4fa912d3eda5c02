import Scenario.Proofs.Blocks
import Scenario.Text.Buffer

/-! # A stack of statements

A script can also be built with all statements on a stack, the latest on top (`Stack`). A segment
that goes on with a label takes the label off the stack and puts a longer one in its place; there is
nothing to be done if something else lies on top. This never happens, whatever the tokens are, and
the script is that of the builder with groups (`Stack.exists_foldlM`). What carries it is that a
segment is remembered only while no run is open and a label lies on top (`Stack.Matches`).
-/

namespace Scenario.Grouping

/-- A builder that keeps its statements on a stack, beside the run of prose that is open and the
segment that came last, if nothing came after it. -/
structure Stack where
  statements : List Statement := []
  text : Text.Buffer := .empty
  tags : List Tag := []
  first : Option Span := none
  last : Option Span := none
  segment : Option Token := none
  script : Option Script := none

namespace Stack

/-- Put the open run on the stack. -/
def close (s : Stack) : Stack :=
  match s.first with
  | none => s
  | some first =>
      { s with
        statements := .prose (first.through (s.last.getD first)) s.text.text s.tags :: s.statements
        text := .empty
        tags := []
        first := none
        last := none }

/-- Add a token. There is no result if a label has to be on top of the stack and is not. -/
def receive (s : Stack) (token : Token) : Option Stack :=
  match token.kind with
  | .text => some
      { s with
        segment := none
        first := some (s.first.getD token.span)
        text := s.text.append token.value
        last := some token.span }
  | .tag =>
      if token.inline && s.first.isSome then some
        { s with segment := none, tags := s.tags ++ [tagOf token], last := some token.span }
      else some
        { s.close with segment := none, statements := .tag (tagOf token) :: s.close.statements }
  | .label =>
      if s.segment.any fun previous => token.start = previous.stop + 1 then
        match s.close.statements with
        | .label span names :: below => some
            { s.close with
              segment := some token
              statements := .label (span.through token.span) (names ++ [token.value]) :: below }
        | _ => none
      else some
        { s.close with
          segment := some token
          statements := .label token.span [token.value] :: s.close.statements }
  | .endOfInput => some
      { s.close with
        segment := none
        script := some ⟨wholeSpan token, s.close.statements.reverse⟩ }

theorem close_of_first {s : Stack} (none : s.first = none) : s.close = s := by
  rw [close, none]

@[simp] theorem first_close (s : Stack) : s.close.first = none := by
  unfold close
  split
  · assumption
  · rfl

@[simp] theorem script_close (s : Stack) : s.close.script = s.script := by
  unfold close
  split <;> rfl

/-- How a stack remembers the open group of a builder. A segment is remembered only while no run is
open. -/
def Remembers (s : Stack) : Option Group → Prop
  | none => s.first = none ∧ s.segment = none
  | some (.prose first last text tags) =>
      s.first = some first ∧ s.last = some last ∧ s.text.text = text ∧ s.tags = tags.toList ∧
        s.segment = none
  | some (.label _ _ stop) =>
      s.first = none ∧ ∃ previous, s.segment = some previous ∧ previous.stop = stop

/-- Only prose leaves a run open. -/
theorem Remembers.first_eq_none {s : Stack} {group : Option Group} (remembers : s.Remembers group)
    (other : ∀ first last text tags, group ≠ some (.prose first last text tags)) :
    s.first = none := by
  cases group with
  | none => exact remembers.1
  | some kept =>
    cases kept with
    | prose first last text tags => exact absurd rfl (other first last text tags)
    | label span names stop => exact remembers.1

/-- A stack holds what a builder holds. -/
structure Matches (s : Stack) (b : Builder) : Prop where
  script : s.script = b.script
  statements : s.close.statements.reverse = b.close.statements.toList
  group : s.Remembers b.group
  /-- While no run is open, nothing is left of the last one. -/
  clean : s.first = none → s.text.text = "" ∧ s.tags = []

/-- Without an open run nothing has to be closed. -/
theorem matches_of_first_eq_none {s : Stack} {b : Builder} (none : s.first = none)
    (clean : s.text.text = "" ∧ s.tags = []) (script : s.script = b.script)
    (statements : s.statements.reverse = b.close.statements.toList)
    (group : s.Remembers b.group) : s.Matches b :=
  ⟨script, by rw [close_of_first none, statements], group, fun _ => clean⟩

section Step

variable {s : Stack} {b : Builder} (agree : s.Matches b)
include agree

theorem Matches.clean_close : s.close.text.text = "" ∧ s.close.tags = [] := by
  unfold close
  split
  · next none => exact agree.clean none
  · exact ⟨rfl, rfl⟩

/-- While a run is open, the rest of the stack is what the builder has finished. -/
theorem Matches.below_prose {first last : Span} {text : String} {tags : Array Tag}
    (there : b.group = some (.prose first last text tags)) :
    s.statements.reverse = b.statements.toList := by
  have statements := agree.statements
  have group := agree.group
  rw [there] at group
  simp only [close, group.1, Builder.close, there, List.reverse_cons, Array.toList_push]
    at statements
  exact (List.append_inj' statements rfl).1

/-- While a label is open, it lies on top of the stack. -/
theorem Matches.below_label {span : Span} {names : Array String} {stop : Int}
    (there : b.group = some (.label span names stop)) :
    ∃ below, s.close.statements = .label span names.toList :: below ∧
      below.reverse = b.statements.toList := by
  have statements := agree.statements
  simp only [Builder.close, there, Array.toList_push, Group.statement] at statements
  refine ⟨b.statements.toList.reverse, ?_, List.reverse_reverse _⟩
  rw [← List.reverse_inj, statements]
  simp

theorem Matches.receive_text {token : Token} (kind : token.kind = .text) :
    ∃ t, s.receive token = some t ∧ t.Matches (b.receive token) := by
  refine ⟨_, by rw [receive, kind], ?_⟩
  have group := agree.group
  simp only [Builder.receive, kind, Builder.text]
  split
  · next first last text tags there =>
    have below := agree.below_prose there
    rw [there] at group
    obtain ⟨isFirst, isLast, isText, isTags, noSegment⟩ := group
    refine ⟨agree.script, ?_, ?_, by simp⟩
    · simp [close, Builder.close, isFirst, isText, isTags, below, Group.statement]
    · exact ⟨by simp [isFirst], rfl, by simp [isText], isTags, rfl⟩
  · next other =>
    have none := group.first_eq_none other
    obtain ⟨noText, noTags⟩ := agree.clean none
    have statements := agree.statements
    rw [close_of_first none] at statements
    refine ⟨by simp [agree.script], ?_, ?_, by simp⟩
    · rw [close, Builder.close]
      simp [none, noText, noTags, statements, Group.statement]
    · exact ⟨by simp [none], rfl, by simp [noText], by simp [noTags], rfl⟩

theorem Matches.receive_tag {token : Token} (kind : token.kind = .tag) :
    ∃ t, s.receive token = some t ∧ t.Matches (b.receive token) := by
  have group := agree.group
  by_cases joins : token.inline = true ∧ s.first.isSome = true
  · obtain ⟨inline, isOpen⟩ := joins
    refine ⟨_, by simp only [receive, kind, inline, isOpen, Bool.and_self, if_true]; rfl, ?_⟩
    simp only [Builder.receive, kind, Builder.tag]
    split
    · next first last text tags there =>
      have below := agree.below_prose there
      rw [there] at group
      obtain ⟨isFirst, isLast, isText, isTags, noSegment⟩ := group
      rw [if_pos inline]
      refine ⟨agree.script, ?_, ?_, by simp [isFirst]⟩
      · simp [close, Builder.close, isFirst, isText, isTags, below, Group.statement, tagOf]
      · exact ⟨isFirst, rfl, isText, by simp [isTags, tagOf], rfl⟩
    · next other => simp [group.first_eq_none other] at isOpen
  · have apart : (token.inline && s.first.isSome) = false := by simpa using joins
    refine ⟨_, by simp only [receive, kind, apart]; rfl, ?_⟩
    have received : b.receive token =
        { b.close with statements := b.close.statements.push (.tag (tagOf token)) } := by
      simp only [Builder.receive, kind, Builder.tag, tagOf]
      split
      · next there =>
        rw [there] at group
        rw [if_neg fun inline => joins ⟨inline, by simp [group.1]⟩]
      · rfl
    rw [received]
    apply matches_of_first_eq_none
    · simp
    · exact agree.clean_close
    · simp [agree.script]
    · rw [close_of_group (by simp)]
      simp [agree.statements]
    · rw [group_close]
      exact ⟨by simp, rfl⟩

theorem Matches.receive_label {token : Token} (kind : token.kind = .label) :
    ∃ t, s.receive token = some t ∧ t.Matches (b.receive token) := by
  have group := agree.group
  by_cases continues : s.segment.any (fun previous => token.start = previous.stop + 1) = true
  -- Only a label leaves a segment behind, and then it lies on top.
  · cases there : b.group with
    | none =>
      rw [there] at group
      simp [group.2] at continues
    | some kept =>
      cases kept with
      | prose first last text tags =>
        rw [there] at group
        simp [group.2.2.2.2] at continues
      | label span names stop =>
        obtain ⟨below, top, finished⟩ := agree.below_label there
        rw [there] at group
        obtain ⟨none, previous, isLast, rfl⟩ := group
        have start : token.start = previous.stop + 1 := by simpa [isLast] using continues
        refine ⟨_, by simp only [receive, kind, continues, if_true, top]; rfl, ?_⟩
        simp only [Builder.receive, kind, Builder.label, there, start, if_true]
        apply matches_of_first_eq_none
        · simp
        · exact agree.clean_close
        · simp [agree.script]
        · simp [Builder.close, Group.statement, finished]
        · exact ⟨by simp, token, rfl, rfl⟩
  · refine ⟨_, by simp only [receive, kind, continues]; rfl, ?_⟩
    have received : b.receive token =
        { b.close with group := some (.label token.span #[token.value] token.stop) } := by
      simp only [Builder.receive, kind, Builder.label]
      split
      · next there =>
        rw [there] at group
        obtain ⟨-, previous, isLast, rfl⟩ := group
        rw [if_neg (by simpa [isLast] using continues)]
      · rfl
    rw [received]
    apply matches_of_first_eq_none
    · simp
    · exact agree.clean_close
    · simp [agree.script]
    · simp [Builder.close, Group.statement, agree.statements]
    · exact ⟨by simp, token, rfl, rfl⟩

theorem Matches.receive_endOfInput {token : Token} (kind : token.kind = .endOfInput) :
    ∃ t, s.receive token = some t ∧ t.Matches (b.receive token) := by
  refine ⟨_, by rw [receive, kind], ?_⟩
  simp only [Builder.receive, kind, Builder.finish]
  apply matches_of_first_eq_none
  · simp
  · exact agree.clean_close
  · simp [agree.statements, wholeSpan]
  · rw [close_of_group (by simp)]
    exact agree.statements
  · rw [group_close]
    exact ⟨by simp, rfl⟩

theorem Matches.receive (token : Token) :
    ∃ t, s.receive token = some t ∧ t.Matches (b.receive token) := by
  cases kind : token.kind with
  | text => exact agree.receive_text kind
  | tag => exact agree.receive_tag kind
  | label => exact agree.receive_label kind
  | endOfInput => exact agree.receive_endOfInput kind

end Step

/-- A stack never gets stuck, and holds what the builder holds all along. -/
theorem exists_foldlM {s : Stack} {b : Builder} (agree : s.Matches b) (tokens : List Token) :
    ∃ t, tokens.foldlM receive s = some t ∧ t.Matches (tokens.foldl Builder.receive b) := by
  induction tokens generalizing s b with
  | nil => exact ⟨s, rfl, agree⟩
  | cons token tokens ih =>
    obtain ⟨next, received, agree⟩ := agree.receive token
    obtain ⟨last, run, agree⟩ := ih agree
    refine ⟨last, ?_, agree⟩
    rw [List.foldlM_cons, received]
    exact run

end Stack

end Scenario.Grouping
