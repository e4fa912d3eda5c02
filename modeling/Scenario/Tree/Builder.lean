import Scenario.Scan.Pass
import Scenario.Tree.Basic

/-! # Building a script from tokens

Tokens are grouped as they come. Prose opens a run that further prose and inline tags extend, and
the segments of one label are put together; anything else closes the open group. Two segments
belong to one label if exactly one character, the bar, lies between them.
-/

namespace Scenario

/-- The statement that tokens are still being added to. -/
inductive Group where
  /-- A run of prose, with the spans of its first and its last token. -/
  | prose (first last : Span) (text : String) (tags : Array Tag)
  /-- A label, with the offset at which its last segment stops. -/
  | label (span : Span) (names : Array String) (stop : Int)

/-- A group as the statement that it has become. -/
def Group.statement : Group → Statement
  | .prose first last text tags => .prose (first.through last) text tags.toList
  | .label span names _ => .label span names.toList

/-- A script in the making (`AstBuilder`). -/
structure Builder where
  /-- The finished statements. -/
  statements : Array Statement := #[]
  /-- The open group. -/
  group : Option Group := none
  /-- The script as it was when the end of the input was last seen. -/
  script : Option Script := none

namespace Builder

/-- Finish the open group (`AstBuilder._close_run`). -/
def close (b : Builder) : Builder :=
  match b.group with
  | none => b
  | some group => { b with statements := b.statements.push group.statement, group := none }

/-- Add prose to the open run, or open one (`AstBuilder.on_text`). -/
def text (b : Builder) (token : Token) : Builder :=
  match b.group with
  | some (.prose first _ text tags) =>
      { b with group := some (.prose first token.span (text ++ token.value) tags) }
  | _ => { b.close with group := some (.prose token.span token.span token.value #[]) }

/-- Add an inline tag to the open run; any other tag is a statement of its own
(`AstBuilder.on_tag`). -/
def tag (b : Builder) (token : Token) : Builder :=
  let tag : Tag := ⟨token.span, token.value⟩
  let alone : Builder := { b.close with statements := b.close.statements.push (.tag tag) }
  match b.group with
  | some (.prose first _ text tags) =>
      if token.inline then
        { b with group := some (.prose first token.span text (tags.push tag)) }
      else alone
  | _ => alone

/-- Add a segment to the open label if it continues it, or open a label (`AstBuilder.on_label`). -/
def label (b : Builder) (token : Token) : Builder :=
  let opened : Builder :=
    { b.close with group := some (.label token.span #[token.value] token.stop) }
  match b.group with
  | some (.label span names stop) =>
      if token.start = stop + 1 then
        { b with
          group := some (.label (span.through token.span) (names.push token.value) token.stop) }
      else opened
  | _ => opened

/-- Take the script as it is now (`AstBuilder.on_end_of_input`). It spans everything from the start
of the source. -/
def finish (b : Builder) (token : Token) : Builder :=
  { b.close with
    script := some
      { span :=
          { stop := token.stop, stopLine := some token.line, stopColumn := some token.column,
            file := token.file }
        statements := b.close.statements.toList } }

/-- Add a token (`AstBuilder.on_token`). -/
def receive (b : Builder) (token : Token) : Builder :=
  match token.kind with
  | .text => b.text token
  | .tag => b.tag token
  | .label => b.label token
  | .endOfInput => b.finish token

@[simp] theorem script_close (b : Builder) : b.close.script = b.script := by
  unfold close
  split <;> rfl

/-- Once there is a script, there is one. -/
theorem isSome_script_receive {b : Builder} {token : Token}
    (h : b.script.isSome ∨ token.kind = .endOfInput) : (b.receive token).script.isSome := by
  unfold receive
  split
  · simp only [text]; split <;> simp_all
  · simp only [tag]; repeat' split
    all_goals simp_all
  · simp only [label]; repeat' split
    all_goals simp_all
  · rfl

/-- Tokens with the end of the input among them give a script. -/
theorem isSome_script_foldl {tokens : List Token} {b : Builder}
    (h : b.script.isSome ∨ ∃ token ∈ tokens, token.kind = .endOfInput) :
    (tokens.foldl receive b).script.isSome := by
  induction tokens generalizing b with
  | nil => simpa using h
  | cons token tokens ih =>
      apply ih
      rcases h with h | ⟨other, member, kind⟩
      · exact .inl (isSome_script_receive (.inl h))
      · rcases List.mem_cons.1 member with rfl | member
        · exact .inl (isSome_script_receive (.inr kind))
        · exact .inr ⟨other, member, kind⟩

end Builder

/-- The script that tokens make, if the end of the input is among them. -/
def Script.ofTokens? (tokens : List Token) : Option Script :=
  (tokens.foldl Builder.receive {}).script

/-- The tokens of a source make a script. -/
theorem Script.isSome_ofTokens? {source : String} {file : Option String} {options : Options}
    {tokens : List Token} (h : tokenize source file options = .ok tokens) :
    (Script.ofTokens? tokens).isSome := by
  apply Builder.isSome_script_foldl
  have ended := Scan.endOfInput_mem_passFrom .finish (.ofSource source file options)
  unfold tokenize Scan.pass Scan.Pass.result at h
  split at h
  · next ok =>
    cases h
    exact .inr ((ended ok).resolve_left (by simp [Cursor.finished, Cursor.ofSource]))
  · cases h

/-- The script of a source, or the fault that ends the scan early (`parse`). -/
def parse (source : String) (file : Option String) (options : Options) : Except Fault Script :=
  match h : tokenize source file options with
  | .error fault => .error fault
  | .ok tokens => .ok ((Script.ofTokens? tokens).get (Script.isSome_ofTokens? h))

theorem parse_of_error {source : String} {file : Option String} {options : Options} {fault : Fault}
    (failed : tokenize source file options = .error fault) :
    parse source file options = .error fault := by
  unfold parse
  split
  · next other =>
    cases failed.symm.trans other
    rfl
  · next other => cases failed.symm.trans other

theorem parse_of_ok {source : String} {file : Option String} {options : Options}
    {tokens : List Token} (ok : tokenize source file options = .ok tokens) :
    ∃ script, (tokens.foldl Builder.receive {}).script = some script ∧
      parse source file options = .ok script := by
  refine ⟨_, (Option.some_get (Script.isSome_ofTokens? ok)).symm, ?_⟩
  unfold parse
  split
  · next other => cases ok.symm.trans other
  · next other =>
    cases ok.symm.trans other
    rfl

/-- A source has the script of its tokens, if it has tokens. -/
theorem parse_eq_ok_iff {source : String} {file : Option String} {options : Options}
    {script : Script} :
    parse source file options = .ok script ↔
      ∃ tokens, tokenize source file options = .ok tokens ∧
        Script.ofTokens? tokens = some script := by
  cases scanned : tokenize source file options with
  | error fault => simp [parse_of_error scanned]
  | ok tokens =>
    obtain ⟨made, same, parsed⟩ := parse_of_ok scanned
    rw [parsed]
    constructor
    · intro ok
      exact ⟨tokens, rfl, by rw [← Except.ok.inj ok]; exact same⟩
    · rintro ⟨_, ⟨⟩, other⟩
      exact congrArg Except.ok (Option.some.inj (same.symm.trans other))

end Scenario
