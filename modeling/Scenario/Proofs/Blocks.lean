import Mathlib.Data.List.Chain
import Scenario.Tree.Builder

/-! # Tokens in blocks

A builder puts tokens together as they come. Here a row of tokens is cut into blocks by looking at
the tokens alone (`blocks`), and the statements of a script are shown to be those of the blocks
(`statements_foldl`). So nothing is lost, doubled or moved, whatever the tokens are.
-/

namespace Scenario.Grouping

/-- A token as a tag. -/
def tagOf (token : Token) : Tag := ⟨token.span, token.value⟩

/-- The prose among tokens. -/
def proseOf (tokens : List Token) : String :=
  String.join ((tokens.filter (·.kind = .text)).map (·.value))

/-- The tags among tokens. -/
def tagsOf (tokens : List Token) : List Tag :=
  (tokens.filter (·.kind = .tag)).map tagOf

@[simp] theorem proseOf_append (front back : List Token) :
    proseOf (front ++ back) = proseOf front ++ proseOf back := by
  simp [proseOf]

@[simp] theorem tagsOf_append (front back : List Token) :
    tagsOf (front ++ back) = tagsOf front ++ tagsOf back := by
  simp [tagsOf]

theorem proseOf_text {token : Token} (kind : token.kind = .text) :
    proseOf [token] = token.value ∧ tagsOf [token] = [] := by
  simp [proseOf, tagsOf, kind]

theorem proseOf_tag {token : Token} (kind : token.kind = .tag) :
    proseOf [token] = "" ∧ tagsOf [token] = [tagOf token] := by
  simp [proseOf, tagsOf, kind]

/-- The tokens of one statement. -/
inductive Block where
  | label (first : Token) (more : List Token)
  | tag (alone : Token)
  | prose (first : Token) (more : List Token)

namespace Block

def first : Block → Token
  | .label first _ => first
  | .tag alone => alone
  | .prose first _ => first

def more : Block → List Token
  | .label _ more => more
  | .tag _ => []
  | .prose _ more => more

def tokens (block : Block) : List Token := block.first :: block.more

def last (block : Block) : Token := block.more.getLastD block.first

/-- What a block is made of: segments one character apart, a single tag, or prose with inline tags
and further prose behind it. -/
def Formed : Block → Prop
  | .label first more =>
      (∀ token ∈ first :: more, token.kind = .label) ∧
        (first :: more).IsChain fun one next => next.start = one.stop + 1
  | .tag alone => alone.kind = .tag
  | .prose first more =>
      first.kind = .text ∧
        ∀ token ∈ more, token.kind = .text ∨ token.kind = .tag ∧ token.inline = true

/-- The statement that a block makes. -/
def statement : Block → Statement
  | .label first more =>
      .label (more.getLast?.elim first.span fun last => first.span.through last.span)
        ((first :: more).map (·.value))
  | .tag alone => .tag (tagOf alone)
  | .prose first more =>
      .prose (first.span.through (more.getLastD first).span) (proseOf (first :: more))
        (tagsOf (first :: more))

/-- The block with one more token, if the token belongs to it. -/
def extend? : Block → Token → Option Block
  | .label first more, token =>
      if token.kind = .label ∧ token.start = (more.getLastD first).stop + 1 then
        some (.label first (more ++ [token]))
      else none
  | .tag _, _ => none
  | .prose first more, token =>
      if token.kind = .text ∨ token.kind = .tag ∧ token.inline = true then
        some (.prose first (more ++ [token]))
      else none

theorem extend?_label {first token : Token} {more : List Token} {longer : Block} :
    (label first more).extend? token = some longer ↔
      (token.kind = .label ∧ token.start = (more.getLastD first).stop + 1) ∧
        longer = .label first (more ++ [token]) := by
  rw [extend?]
  split
  · next joins =>
    rw [Option.some.injEq, eq_comm]
    exact ⟨fun same => ⟨joins, same⟩, And.right⟩
  · next apart => exact ⟨nofun, fun both => absurd both.1 apart⟩

theorem extend?_prose {first token : Token} {more : List Token} {longer : Block} :
    (prose first more).extend? token = some longer ↔
      (token.kind = .text ∨ token.kind = .tag ∧ token.inline = true) ∧
        longer = .prose first (more ++ [token]) := by
  rw [extend?]
  split
  · next joins =>
    rw [Option.some.injEq, eq_comm]
    exact ⟨fun same => ⟨joins, same⟩, And.right⟩
  · next apart => exact ⟨nofun, fun both => absurd both.1 apart⟩

/-- The block that a token begins. -/
def ofToken? (token : Token) : Option Block :=
  match token.kind with
  | .text => some (.prose token [])
  | .tag => some (.tag token)
  | .label => some (.label token [])
  | .endOfInput => none

end Block

/-- Tokens cut into blocks, the first of them being added to a block that is still open. The end of
the input belongs to no block. -/
def blocks : Option Block → List Token → List Block
  | opened, [] => opened.toList
  | opened, token :: rest =>
      match opened.bind (·.extend? token) with
      | some longer => blocks (some longer) rest
      | none => opened.toList ++ blocks (Block.ofToken? token) rest

/-! ## The builder follows the blocks -/

/-- The group that a builder keeps of an open block. A tag of its own is not kept open. -/
def Block.group? : Block → Option Group
  | .label first more =>
      some (.label (more.getLast?.elim first.span fun last => first.span.through last.span)
        ((first :: more).map (·.value)).toArray (more.getLastD first).stop)
  | .tag _ => none
  | .prose first more =>
      some (.prose first.span (more.getLastD first).span (proseOf (first :: more))
        (tagsOf (first :: more)).toArray)

/-- A builder has finished some blocks and has perhaps one open. -/
structure Shows (b : Builder) (done : List Block) (opened : Option Block) : Prop where
  group : b.group = opened.bind Block.group?
  statements : b.close.statements.toList = (done ++ opened.toList).map Block.statement

@[simp] theorem group_close (b : Builder) : b.close.group = none := by
  unfold Builder.close
  split
  · assumption
  · rfl

theorem close_of_group {b : Builder} (none : b.group = none) : b.close = b := by
  unfold Builder.close
  rw [none]

theorem statement_of_group {block : Block} {group : Group} (same : block.group? = some group) :
    group.statement = block.statement := by
  cases block with
  | tag alone => cases same
  | _ =>
    cases same
    simp [Group.statement, Block.statement]

/-- A block is opened, or made longer, on top of what is finished. -/
theorem shows_group {b : Builder} {done : List Block} {block : Block} {group : Group}
    (same : block.group? = some group) (finished : b.statements.toList = done.map Block.statement) :
    Shows { b with group := some group } done (some block) where
  group := by simp [same]
  statements := by
    simp [Builder.close, finished, statement_of_group same]

section Step

variable {b : Builder} {done : List Block} {opened : Option Block}
  (shows : Shows b done opened)
include shows

/-- While a group is open, the other statements are those of the finished blocks. -/
theorem Shows.finished {block : Block} {group : Group} (this : opened = some block)
    (same : block.group? = some group) : b.statements.toList = done.map Block.statement := by
  have statements := shows.statements
  subst this
  have there : b.group = some group := by simp [shows.group, same]
  simp only [Builder.close, there, Array.toList_push, Option.toList_some, List.map_append,
    List.map_cons, List.map_nil] at statements
  exact (List.append_inj' statements rfl).1

theorem Shows.receive_extend {token : Token} {longer : Block}
    (joins : opened.bind (·.extend? token) = some longer) :
    Shows (b.receive token) done (some longer) := by
  obtain ⟨block, rfl, joins⟩ := Option.bind_eq_some_iff.1 joins
  cases block with
  | tag alone => cases joins
  | label first more =>
    have finished := shows.finished rfl rfl
    obtain ⟨⟨kind, start⟩, rfl⟩ := Block.extend?_label.1 joins
    have received : b.receive token =
        { b with group := (Block.label first (more ++ [token])).group? } := by
      simp only [Builder.receive, kind, Builder.label, shows.group, Option.bind_some, Block.group?,
        start, if_true]
      cases more.getLast? <;> simp [Span.through]
    rw [received]
    exact shows_group rfl finished
  | prose first more =>
    have finished := shows.finished rfl rfl
    obtain ⟨kind, rfl⟩ := Block.extend?_prose.1 joins
    have whole : first :: (more ++ [token]) = (first :: more) ++ [token] := rfl
    have received : b.receive token =
        { b with group := (Block.prose first (more ++ [token])).group? } := by
      simp only [Block.group?, whole, proseOf_append, tagsOf_append, List.getLastD_concat]
      rcases kind with kind | ⟨kind, inline⟩
      · obtain ⟨prose, tags⟩ := proseOf_text kind
        simp only [Builder.receive, kind, Builder.text, shows.group, Option.bind_some,
          Block.group?, prose, tags, List.append_nil]
      · obtain ⟨prose, tags⟩ := proseOf_tag kind
        simp [Builder.receive, kind, inline, Builder.tag, shows.group, Block.group?, prose, tags,
          tagOf]
    rw [received]
    exact shows_group rfl finished

theorem Shows.opened_prose {start stop : Span} {text : String} {tags : Array Tag}
    (there : b.group = some (.prose start stop text tags)) :
    ∃ first more, opened = some (.prose first more) := by
  obtain ⟨block, rfl, same⟩ := Option.bind_eq_some_iff.1 (shows.group.symm.trans there)
  cases block with
  | prose first more => exact ⟨first, more, rfl⟩
  | _ => simp [Block.group?] at same

theorem Shows.opened_label {span : Span} {names : Array String} {stop : Int}
    (there : b.group = some (.label span names stop)) :
    ∃ first more, opened = some (.label first more) ∧ (more.getLastD first).stop = stop := by
  obtain ⟨block, rfl, same⟩ := Option.bind_eq_some_iff.1 (shows.group.symm.trans there)
  cases block with
  | label first more =>
    refine ⟨first, more, rfl, ?_⟩
    simp only [Block.group?, Option.some.injEq, Group.label.injEq] at same
    exact same.2.2
  | _ => simp [Block.group?] at same

/-- A token that does not belong to the open block closes it. -/
theorem Shows.receive_open {token : Token} (apart : opened.bind (·.extend? token) = none) :
    Shows (b.receive token) (done ++ opened.toList) (Block.ofToken? token) := by
  cases kind : token.kind with
  | text =>
    have received : b.receive token = { b.close with group := (Block.prose token []).group? } := by
      obtain ⟨prose, tags⟩ := proseOf_text kind
      simp only [Builder.receive, kind, Builder.text, Block.group?, prose, tags]
      split
      · next there =>
        obtain ⟨first, more, rfl⟩ := shows.opened_prose there
        simp [Block.extend?, kind] at apart
      · rfl
    rw [received, Block.ofToken?, kind]
    exact shows_group rfl shows.statements
  | label =>
    have received : b.receive token = { b.close with group := (Block.label token []).group? } := by
      simp only [Builder.receive, kind, Builder.label, Block.group?]
      split
      · next there =>
        obtain ⟨first, more, rfl, stop⟩ := shows.opened_label there
        split
        · next start =>
          have joins := Block.extend?_label.2 ⟨⟨kind, stop ▸ start⟩, rfl⟩
          rw [Option.bind_some, joins] at apart
          contradiction
        · rfl
      · rfl
    rw [received, Block.ofToken?, kind]
    exact shows_group rfl shows.statements
  | tag =>
    have received : b.receive token =
        { b.close with statements := b.close.statements.push (.tag (tagOf token)) } := by
      simp only [Builder.receive, kind, Builder.tag, tagOf]
      split
      · next there =>
        obtain ⟨first, more, rfl⟩ := shows.opened_prose there
        split
        · next inline => simp [Block.extend?, kind, inline] at apart
        · rfl
      · rfl
    rw [received, Block.ofToken?, kind]
    refine ⟨by simp [Block.group?], ?_⟩
    rw [close_of_group (by simp), Array.toList_push, shows.statements]
    simp [Block.statement]
  | endOfInput =>
    have received : (b.receive token).group = none ∧
        (b.receive token).statements = b.close.statements := by
      simp [Builder.receive, kind, Builder.finish]
    rw [Block.ofToken?, kind]
    refine ⟨received.1, ?_⟩
    rw [close_of_group received.1, received.2, shows.statements]
    simp

end Step

/-- However many tokens are received, the statements are those of the blocks. -/
theorem statements_foldl {b : Builder} {done : List Block} {opened : Option Block}
    (shows : Shows b done opened) (tokens : List Token) :
    (tokens.foldl Builder.receive b).close.statements.toList =
      (done ++ blocks opened tokens).map Block.statement := by
  induction tokens generalizing b done opened with
  | nil => exact shows.statements
  | cons token tokens ih =>
    rw [List.foldl_cons, blocks]
    cases joins : opened.bind (·.extend? token) with
    | some longer => exact ih (shows.receive_extend joins)
    | none =>
      rw [ih (shows.receive_open joins), List.append_assoc]

/-! ## Scripts -/

theorem script_receive {b : Builder} {token : Token} (other : token.kind ≠ .endOfInput) :
    (b.receive token).script = b.script := by
  cases kind : token.kind with
  | endOfInput => contradiction
  | text =>
    simp only [Builder.receive, kind, Builder.text]
    split <;> simp
  | tag =>
    simp only [Builder.receive, kind, Builder.tag]
    split
    · split <;> simp
    · simp
  | label =>
    simp only [Builder.receive, kind, Builder.label]
    split
    · split <;> simp
    · simp

theorem script_foldl {b : Builder} {tokens : List Token}
    (other : ∀ token ∈ tokens, token.kind ≠ .endOfInput) :
    (tokens.foldl Builder.receive b).script = b.script := by
  induction tokens generalizing b with
  | nil => rfl
  | cons token tokens ih =>
    rw [List.forall_mem_cons] at other
    rw [List.foldl_cons, ih other.2, script_receive other.1]

/-- The span of a whole script: from the start of the source to the end of the input. -/
def wholeSpan (last : Token) : Span :=
  { stop := last.stop, stopLine := some last.line, stopColumn := some last.column,
    file := last.file }

/-- The script stays as it was at the last end of the input. -/
theorem ofTokens?_eq_some {front rest : List Token} {last : Token} (ended : last.kind = .endOfInput)
    (other : ∀ token ∈ rest, token.kind ≠ .endOfInput) :
    Script.ofTokens? (front ++ last :: rest) =
      some ⟨wholeSpan last, (blocks none front).map Block.statement⟩ := by
  have fresh : Shows {} [] none := ⟨rfl, rfl⟩
  rw [Script.ofTokens?, List.foldl_append, List.foldl_cons, script_foldl other, Builder.receive,
    ended]
  simp only [Builder.finish, statements_foldl fresh, List.nil_append]
  rfl

theorem ofTokens?_eq_none_iff {tokens : List Token} :
    Script.ofTokens? tokens = none ↔ ∀ token ∈ tokens, token.kind ≠ .endOfInput := by
  constructor
  · intro none token member kind
    have made := Builder.isSome_script_foldl (b := {}) (.inr ⟨token, member, kind⟩)
    rw [Script.ofTokens?] at none
    simp [none] at made
  · intro other
    rw [Script.ofTokens?, script_foldl other]

/-! ## What blocks are -/

theorem Block.tokens_extend? {block longer : Block} {token : Token}
    (joins : block.extend? token = some longer) :
    longer.tokens = block.tokens ++ [token] ∧ token.kind ≠ .endOfInput := by
  cases block with
  | tag alone => cases joins
  | label first more =>
    obtain ⟨⟨kind, -⟩, rfl⟩ := Block.extend?_label.1 joins
    exact ⟨rfl, by simp [kind]⟩
  | prose first more =>
    obtain ⟨kind, rfl⟩ := Block.extend?_prose.1 joins
    refine ⟨rfl, ?_⟩
    rcases kind with kind | ⟨kind, -⟩ <;> simp [kind]

theorem Block.tokens_ofToken? (token : Token) :
    (Block.ofToken? token).toList.flatMap Block.tokens =
      [token].filter (·.kind ≠ .endOfInput) := by
  cases kind : token.kind <;> simp [Block.ofToken?, kind, Block.tokens, Block.first, Block.more]

/-- Blocks hold all tokens but the ends of the input, each once and in order. -/
theorem tokens_blocks (opened : Option Block) (tokens : List Token) :
    (blocks opened tokens).flatMap Block.tokens =
      opened.toList.flatMap Block.tokens ++ tokens.filter (·.kind ≠ .endOfInput) := by
  induction tokens generalizing opened with
  | nil => simp [blocks]
  | cons token tokens ih =>
    have whole : token :: tokens = [token] ++ tokens := rfl
    rw [blocks, whole, List.filter_append]
    cases joins : opened.bind (·.extend? token) with
    | some longer =>
      obtain ⟨block, rfl, joins⟩ := Option.bind_eq_some_iff.1 joins
      obtain ⟨same, kind⟩ := Block.tokens_extend? joins
      simp [ih, same, kind]
    | none =>
      rw [List.flatMap_append, ih, Block.tokens_ofToken?]

theorem Block.getLast?_tokens (block : Block) : block.tokens.getLast? = some block.last := by
  rw [tokens, List.getLast?_cons, last, List.getLastD_eq_getLast?]

theorem Block.Formed.extend? {block longer : Block} {token : Token} (formed : block.Formed)
    (joins : block.extend? token = some longer) : longer.Formed := by
  cases block with
  | tag alone => cases joins
  | label first more =>
    obtain ⟨⟨kind, start⟩, rfl⟩ := Block.extend?_label.1 joins
    obtain ⟨labels, chain⟩ := formed
    constructor
    · intro other member
      rw [← List.cons_append, List.mem_append, List.mem_singleton] at member
      rcases member with member | rfl
      · exact labels other member
      · exact kind
    · have last := (Block.label first more).getLast?_tokens
      refine chain.append (.singleton token) ?_
      intro one isLast next isNext
      cases last.symm.trans isLast
      cases isNext
      exact start
  | prose first more =>
    obtain ⟨kind, rfl⟩ := Block.extend?_prose.1 joins
    refine ⟨formed.1, ?_⟩
    intro other member
    rcases List.mem_append.1 member with member | member
    · exact formed.2 other member
    · rwa [List.mem_singleton.1 member]

theorem Block.formed_ofToken? {token : Token} {block : Block}
    (begun : Block.ofToken? token = some block) : block.Formed := by
  cases kind : token.kind with
  | endOfInput => simp [ofToken?, kind] at begun
  | tag =>
    simp only [ofToken?, kind, Option.some.injEq] at begun
    subst begun
    exact kind
  | text =>
    simp only [ofToken?, kind, Option.some.injEq] at begun
    subst begun
    exact ⟨kind, by simp⟩
  | label =>
    simp only [ofToken?, kind, Option.some.injEq] at begun
    subst begun
    exact ⟨by simpa using kind, .singleton token⟩

theorem formed_blocks {opened : Option Block} (formed : ∀ block ∈ opened, block.Formed)
    (tokens : List Token) : ∀ block ∈ blocks opened tokens, block.Formed := by
  induction tokens generalizing opened with
  | nil => simpa [blocks] using formed
  | cons token tokens ih =>
    rw [blocks]
    cases joins : opened.bind (·.extend? token) with
    | some longer =>
      obtain ⟨block, rfl, joins⟩ := Option.bind_eq_some_iff.1 joins
      apply ih
      rintro _ ⟨⟩
      exact (formed block rfl).extend? joins
    | none =>
      intro block member
      rcases List.mem_append.1 member with member | member
      · exact formed block (Option.mem_toList.1 member)
      · exact ih (fun _ begun => Block.formed_ofToken? begun) block member

theorem formed_of_mem_blocks {tokens : List Token} {block : Block}
    (member : block ∈ blocks none tokens) : block.Formed :=
  formed_blocks (by simp) tokens block member

/-- A block does not go on with the next one. -/
def Block.Apart (one next : Block) : Prop := one.extend? next.first = none

theorem Block.first_extend? {block longer : Block} {token : Token}
    (joins : block.extend? token = some longer) : longer.first = block.first := by
  have same := (Block.tokens_extend? joins).1
  exact (List.cons.inj same).1

theorem Block.exists_ofToken? {token : Token} (other : token.kind ≠ .endOfInput) :
    ∃ block, Block.ofToken? token = some block ∧ block.first = token := by
  cases kind : token.kind with
  | endOfInput => contradiction
  | _ => exact ⟨_, by rw [ofToken?, kind], rfl⟩

/-- Where no end of the input comes between, a block ends only because the next token does not
belong to it. The induction also keeps the first token of the open block. -/
theorem isChain_blocks {opened : Option Block} {tokens : List Token}
    (other : ∀ token ∈ tokens, token.kind ≠ .endOfInput) :
    (blocks opened tokens).IsChain Block.Apart ∧
      ∀ block ∈ opened, ∀ head ∈ (blocks opened tokens).head?, head.first = block.first := by
  induction tokens generalizing opened with
  | nil =>
    cases opened with
    | none => exact ⟨.nil, by simp⟩
    | some block => exact ⟨.singleton block, by simp [blocks]⟩
  | cons token tokens ih =>
    rw [List.forall_mem_cons] at other
    rw [blocks]
    cases joins : opened.bind (·.extend? token) with
    | some longer =>
      obtain ⟨block, rfl, joins⟩ := Option.bind_eq_some_iff.1 joins
      obtain ⟨chain, head⟩ := @ih (some longer) other.2
      refine ⟨chain, ?_⟩
      rintro _ ⟨⟩ first isFirst
      rw [head longer rfl first isFirst, Block.first_extend? joins]
    | none =>
      obtain ⟨begun, same, first⟩ := Block.exists_ofToken? other.1
      obtain ⟨chain, head⟩ := @ih (some begun) other.2
      simp only [same]
      cases opened with
      | none => exact ⟨chain, by simp⟩
      | some block =>
        refine ⟨chain.cons ?_, by simp⟩
        intro next isNext
        rw [Block.Apart, head begun rfl next isNext, first]
        exact joins

end Scenario.Grouping
