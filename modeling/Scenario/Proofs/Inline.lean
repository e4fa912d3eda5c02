import Mathlib.Data.List.Nodup
import Scenario.Proofs.Placement

/-! # Tags in a row behind prose

Prose may be followed by several tags on its line. Only the first of them comes right behind the
prose, and only this one is inline: the next tag of the row has a tag before it, closes the run and
is a statement of its own, although it stands in the middle of the line all the same. The main
statement is `parse_row`.
-/

namespace Scenario.Grouping

open Grammar Shape Adjacency

/-! ## What comes right before an inline tag -/

/-- The second token is inline just if a bracket opens it and the first is prose on its line. -/
def InlineBehind (source : List Char) (one next : Token) : Prop :=
  next.inline = true ↔
    (next.kind = .tag ∧ opener source next = some '[') ∧
      one.kind = .text ∧ endsInNewline one.value.toList = false

theorem inline_context {context : Context} {p : Position} {one : Token}
    (precedes : Precedes context p (some one)) :
    context.inline = true ↔ one.kind = .text ∧ endsInNewline one.value.toList = false := by
  cases context with
  | prose inline =>
    obtain ⟨-, other, same, text, -, rfl⟩ := precedes
    cases same
    simp [Context.inline, text]
  | line | label =>
    have other : one.kind ≠ .text := precedes.2 one rfl
    simp [Context.inline, other]

theorem inlineBehind_of_lexeme {options : Options} {context after : Context} {piece : Piece}
    {p : Position} {before rest : List Char} {one : Token}
    (lexeme : Lexeme options context piece after rest) (offset : p.offset = before.length)
    (precedes : Precedes context p (some one)) (file : Option String) :
    InlineBehind (before ++ (piece.chars ++ rest)) one (piece.token p file) := by
  have opened := opener_token offset piece file rest
  have inline := inline_context precedes
  rw [InlineBehind, opened]
  cases lexeme with
  | tag | openTag => simpa [Piece.token, Position.token, Piece.gap] using inline
  | _ => simp [Piece.token, Position.token, Piece.gap]

/-- The induction carries what the context says of the token before. -/
theorem isChain_inlineBehind {options : Options} {file : Option String} {context : Context}
    {p : Position} {s : List Char} {reading : Reading} {one : Token}
    (reads : Reads options file context p s reading) (before : List Char)
    (offset : p.offset = before.length) (precedes : Precedes context p (some one)) :
    (one :: reading.tokens).IsChain (InlineBehind (before ++ s)) := by
  induction reads generalizing before one with
  | @complete context p lead free leads =>
    exact .cons_cons (by simp [InlineBehind, Position.token]) (.singleton _)
  | broken unfinished => exact .singleton one
  | @piece context after p piece rest reading lexeme reads ih =>
    have chain := ih (before ++ piece.chars) (by simp [offset]) (precedes_of_lexeme lexeme p file)
    rw [List.append_assoc] at chain
    exact .cons_cons (inlineBehind_of_lexeme lexeme offset precedes file) chain

theorem isChain_inlineBehind_tokens {source : String} {file : Option String} {options : Options}
    {tokens : List Token} (ok : tokenize source file options = .ok tokens) :
    tokens.IsChain (InlineBehind source.toList) := by
  obtain ⟨reading, reads, -, rfl⟩ := Scan.tokenize_eq_ok_iff.1 ok
  generalize source.toList = s at reads
  cases reads with
  | complete free leads => exact .singleton _
  | broken unfinished => exact .nil
  | @piece _ after _ piece rest reading lexeme reads =>
    exact isChain_inlineBehind reads piece.chars (by simp [Position.start])
      (precedes_of_lexeme lexeme .start file)

/-- Of the tags in a row behind prose, the first is inline and no other. -/
theorem inline_row {source : List Char} {text first : Token} {others : List Token}
    (chain : (text :: first :: others).IsChain (InlineBehind source)) (prose : text.kind = .text)
    (onLine : endsInNewline text.value.toList = false)
    (brackets : ∀ tag ∈ first :: others, tag.kind = .tag ∧ opener source tag = some '[') :
    first.inline = true ∧ ∀ tag ∈ others, tag.inline = false := by
  rw [List.isChain_cons_cons] at chain
  constructor
  · exact chain.1.2 ⟨brackets first List.mem_cons_self, prose, onLine⟩
  · intro tag member
    obtain ⟨one, isOne, behind⟩ := exists_rel_of_isChain chain.2 member
    rw [Bool.eq_false_iff]
    intro inline
    have kind := (brackets one isOne).1
    rw [(behind.1 inline).2.1] at kind
    cases kind

/-! ## Blocks of a row -/

section Blocks

variable {opened : Option Block} {first text tag : Token} {more rest : List Token}

/-- Prose is the last token of an open run. -/
theorem exists_blocks_text (kind : text.kind = .text) (opened : Option Block)
    (front : List Token) :
    ∃ left first more, (first :: more).getLast? = some text ∧ ∀ rest,
      blocks opened (front ++ text :: rest) = left ++ blocks (some (.prose first more)) rest := by
  induction front generalizing opened with
  | nil =>
    cases joins : opened.bind (·.extend? text) with
    | some longer =>
      obtain ⟨block, rfl, longer⟩ := Option.bind_eq_some_iff.1 joins
      cases block with
      | tag alone => cases longer
      | label first more =>
        have label := (Block.extend?_label.1 longer).1.1
        rw [kind] at label
        cases label
      | prose first more =>
        obtain ⟨-, rfl⟩ := Block.extend?_prose.1 longer
        refine ⟨[], first, more ++ [text], ?_, fun rest => ?_⟩
        · rw [← List.cons_append, List.getLast?_concat]
        · rw [List.nil_append, blocks, joins, List.nil_append]
    | none =>
      refine ⟨opened.toList, text, [], rfl, fun rest => ?_⟩
      rw [List.nil_append, blocks, joins, Block.ofToken?, kind]
  | cons token front ih =>
    cases joins : opened.bind (·.extend? token) with
    | some longer =>
      obtain ⟨left, first, more, last, same⟩ := ih (some longer)
      refine ⟨left, first, more, last, fun rest => ?_⟩
      rw [List.cons_append, blocks, joins]
      exact same rest
    | none =>
      obtain ⟨left, first, more, last, same⟩ := ih (Block.ofToken? token)
      refine ⟨opened.toList ++ left, first, more, last, fun rest => ?_⟩
      rw [List.cons_append, blocks, joins, List.append_assoc]
      exact congrArg (opened.toList ++ ·) (same rest)

/-- An inline tag goes on with the open run. -/
theorem blocks_inline (kind : tag.kind = .tag) (inline : tag.inline = true) :
    blocks (some (.prose first more)) (tag :: rest) =
      blocks (some (.prose first (more ++ [tag]))) rest := by
  have joins := (@Block.extend?_prose first tag more _).2 ⟨.inr ⟨kind, inline⟩, rfl⟩
  rw [blocks, Option.bind_some, joins]

/-- An open run may become longer, and is the next block then. -/
theorem exists_blocks_prose (first : Token) (more rest : List Token) :
    ∃ later right, blocks (some (.prose first more)) rest =
      .prose first (more ++ later) :: right := by
  induction rest generalizing more with
  | nil => exact ⟨[], [], by simp [blocks]⟩
  | cons token rest ih =>
    cases joins : (Block.prose first more).extend? token with
    | some longer =>
      obtain ⟨-, rfl⟩ := Block.extend?_prose.1 joins
      obtain ⟨later, right, same⟩ := ih (more ++ [token])
      refine ⟨token :: later, right, ?_⟩
      rw [List.append_assoc] at same
      rw [blocks, Option.bind_some, joins]
      exact same
    | none =>
      refine ⟨[], blocks (Block.ofToken? token) rest, ?_⟩
      rw [blocks, Option.bind_some, joins, List.append_nil]
      rfl

/-- A tag that is not inline is a block of its own. -/
theorem blocks_alone (kind : tag.kind = .tag) (plain : tag.inline = false) :
    blocks opened (tag :: rest) = opened.toList ++ .tag tag :: blocks none rest := by
  have apart : opened.bind (·.extend? tag) = none := by
    cases opened with
    | none => rfl
    | some block => cases block <;> simp [Block.extend?, kind, plain]
  have closed : blocks (some (.tag tag)) rest = .tag tag :: blocks none rest := by
    cases rest <;> rfl
  rw [blocks, apart, Block.ofToken?, kind, closed]

theorem blocks_row {row : List Token}
    (alone : ∀ tag ∈ row, tag.kind = .tag ∧ tag.inline = false) :
    blocks none (row ++ rest) = row.map Block.tag ++ blocks none rest := by
  induction row with
  | nil => rfl
  | cons tag row ih =>
    obtain ⟨⟨kind, plain⟩, others⟩ := List.forall_mem_cons.1 alone
    rw [List.cons_append, blocks_alone kind plain, ih others]
    rfl

end Blocks

/-- The first tag behind prose is taken into its run. If there are more in the row, the run ends
with the first, and they follow as statements of their own. -/
theorem exists_run {front others back : List Token} {text next : Token}
    (prose : text.kind = .text) (kind : next.kind = .tag) (inline : next.inline = true)
    (alone : ∀ tag ∈ others, tag.kind = .tag ∧ tag.inline = false) :
    ∃ left first more right,
      blocks none (front ++ text :: next :: (others ++ back)) = left ++ .prose first more :: right ∧
      [text, next] <:+: first :: more ∧
      (others ≠ [] → (first :: more).getLast? = some next ∧ others.map Block.tag <+: right) := by
  obtain ⟨left, first, more, last, same⟩ := exists_blocks_text prose none front
  obtain ⟨before, split⟩ := List.getLast?_eq_some_iff.1 last
  have run : blocks none (front ++ text :: next :: (others ++ back)) =
      left ++ blocks (some (.prose first (more ++ [next]))) (others ++ back) := by
    rw [same, blocks_inline kind inline]
  have joined : first :: (more ++ [next]) = before ++ [text, next] := by
    rw [← List.cons_append, split, List.append_assoc]
    rfl
  cases others with
  | nil =>
    obtain ⟨later, right, longer⟩ := exists_blocks_prose first (more ++ [next]) back
    refine ⟨left, first, more ++ [next] ++ later, right, ?_, ⟨before, later, ?_⟩, by simp⟩
    · rw [run, List.nil_append, longer]
    · rw [← joined]
      rfl
  | cons tag others =>
    obtain ⟨⟨isTag, plain⟩, rest⟩ := List.forall_mem_cons.1 alone
    refine ⟨left, first, more ++ [next], (tag :: others).map Block.tag ++ blocks none back, ?_,
      ⟨before, [], ?_⟩, fun _ => ⟨?_, List.prefix_append _ _⟩⟩
    · rw [run, List.cons_append, blocks_alone isTag plain, blocks_row rest]
      rfl
    · rw [joined, List.append_nil]
    · rw [← List.cons_append, List.getLast?_concat]

/-! ## Rows of a source -/

/-- What stands in a row before its end, and is not that end, stands before it. -/
theorem infix_front {row front : List Token} {last : Token} (within : row <:+: front ++ [last])
    (other : last ∉ row) : row <:+: front := by
  obtain ⟨before, after, same⟩ := within
  rcases List.eq_nil_or_concat' after with rfl | ⟨after, final, rfl⟩
  · rw [List.append_nil] at same
    rcases List.eq_nil_or_concat' row with rfl | ⟨row, final, rfl⟩
    · exact List.nil_infix
    · rw [← List.append_assoc] at same
      have final := (List.append_inj' same rfl).2
      simp only [List.cons.injEq, and_true] at final
      simp [final] at other
  · rw [← List.append_assoc] at same
    exact ⟨before, after, (List.append_inj' same rfl).1⟩

section Laid

variable {options : Options} {source : String} {front : List Token} {last : Token}
  (laid : Laid options source front last)
include laid

theorem nodup_starts : (front.map (·.start)).Nodup := by
  rw [List.Nodup, List.pairwise_map]
  exact (pairwise_front laid).imp fun before => Int.ne_of_lt before.start

/-- A run holds no tag but inline ones. -/
theorem not_mem_tags_of_plain {first tag : Token} {more : List Token}
    (member : .prose first more ∈ blocks none front) (isTag : tag ∈ front)
    (plain : tag.inline = false) (kind : tag.kind = .tag) :
    tagOf tag ∉ tagsOf (first :: more) := by
  intro inside
  obtain ⟨token, isToken, same⟩ := List.mem_map.1 inside
  have isMore : token ∈ first :: more := List.mem_of_mem_filter isToken
  have inFront : token ∈ front := mem_of_mem_tokens laid member isMore
  have start : token.start = tag.start := congrArg (·.span.offset) same
  obtain rfl : token = tag := List.inj_on_of_nodup_map (nodup_starts laid) inFront isTag start
  rcases (formed_of_mem_blocks member).kind_prose isMore with text | ⟨-, inline⟩
  · cases kind.symm.trans text
  · cases plain.symm.trans inline

end Laid

/-- Let prose be followed by tags on its line. The last of these is inline just if it is the only
one, and just then it is taken into the run of the prose. Otherwise the run ends with the first of
them, and every other is a statement of its own. -/
theorem parse_row {source : String} {file : Option String} {options : Options}
    {tokens between : List Token} {text tag : Token}
    (ok : tokenize source file options = .ok tokens)
    (row : text :: (between ++ [tag]) <:+: tokens) (prose : text.kind = .text)
    (onLine : endsInNewline text.value.toList = false)
    (brackets : ∀ other ∈ between ++ [tag],
      other.kind = .tag ∧ opener source.toList other = some '[') :
    (tag.inline = true ↔ between = []) ∧
    ∃ script, ∃ cut : List Block, parse source file options = .ok script ∧
      script.statements = cut.map Block.statement ∧
      cut.flatMap Block.tokens = tokens.filter (·.kind ≠ .endOfInput) ∧
      ∃ left first more right, cut = left ++ .prose first more :: right ∧
        text ∈ first :: more ∧ (tagOf tag ∈ tagsOf (first :: more) ↔ between = []) ∧
        ∀ next others, between = next :: others →
          (first :: more).getLast? = some next ∧ (others ++ [tag]).map Block.tag <+: right := by
  obtain ⟨front, last, rfl, laid⟩ := exists_laid ok
  have ended : last ∉ text :: (between ++ [tag]) := by
    intro member
    have kind := laid.ended.1
    rcases List.mem_cons.1 member with rfl | member
    · cases prose.symm.trans kind
    · cases (brackets last member).1.symm.trans kind
  have chain := List.IsChain.infix (isChain_inlineBehind_tokens ok) row
  have within : text :: (between ++ [tag]) <:+: front := infix_front row ended
  have isTag : tag ∈ front := within.subset (by simp)
  have kind : tag.kind = .tag := (brackets tag (by simp)).1
  have whole : (blocks none front).flatMap Block.tokens =
      (front ++ [last]).filter (·.kind ≠ .endOfInput) := by
    rw [tokens_laid laid, List.filter_append, List.filter_eq_self.2 (by simpa using laid.kind)]
    simp [laid.ended.1]
  have parsed := parse_laid laid ok
  obtain ⟨before, after, rfl⟩ := within
  cases between with
  | nil =>
    obtain ⟨inline, -⟩ := inline_row chain prose onLine brackets
    obtain ⟨left, first, more, right, split, inside, -⟩ :=
      @exists_run before [] after text tag prose kind inline (by simp)
    have taken : tagOf tag ∈ tagsOf (first :: more) := by
      refine List.mem_map_of_mem (List.mem_filter.2 ⟨inside.subset (by simp), ?_⟩)
      simpa using kind
    refine ⟨by simpa using inline, _, _, parsed, rfl, whole, left, first, more, right, ?_,
      inside.subset (by simp), by simpa using taken, nofun⟩
    simpa using split
  | cons next others =>
    obtain ⟨inline, plain⟩ := inline_row chain prose onLine brackets
    have alone : ∀ other ∈ others ++ [tag], other.kind = .tag ∧ other.inline = false :=
      fun other member => ⟨(brackets other (List.mem_cons_of_mem next member)).1,
        plain other member⟩
    have notInline : tag.inline = false := plain tag (by simp)
    obtain ⟨left, first, more, right, split, inside, apart⟩ :=
      @exists_run before (others ++ [tag]) after text next prose
        (brackets next (by simp)).1 inline alone
    have same : before ++ text :: (next :: others ++ [tag]) ++ after =
        before ++ text :: next :: (others ++ [tag] ++ after) := by
      simp
    rw [← same] at split
    have member : .prose first more ∈ blocks none
        (before ++ text :: (next :: others ++ [tag]) ++ after) := by
      rw [split]
      exact List.mem_append_right _ List.mem_cons_self
    refine ⟨by simp [notInline], _, _, parsed, rfl, whole, left, first, more, right, split,
      inside.subset (by simp), ?_, ?_⟩
    · exact iff_of_false (not_mem_tags_of_plain laid member isTag notInline kind) nofun
    · rintro _ _ ⟨⟩
      exact apart (by simp)

/-- One tag behind the first prose, and two in a row behind the second. -/
theorem parse_row_mixed :
    ∃ tokens, tokenize "x[t]y[u][v]" none {} = .ok tokens ∧
      (∃ text tag, [text, tag] <:+: tokens ∧ tag.value = "t" ∧ tag.inline = true) ∧
      ∃ text next tag, [text, next, tag] <:+: tokens ∧ tag.value = "v" ∧ tag.inline = false ∧
        ∃ script, parse "x[t]y[u][v]" none {} = .ok script ∧
          ∃ left first more right, script.statements =
              left ++ (Block.prose first more).statement :: .tag (tagOf tag) :: right ∧
            text ∈ first :: more ∧ (first :: more).getLast? = some next := by
  have scanned : tokenize "x[t]y[u][v]" none {} = .ok
      [{ kind := .text, value := "x", stop := 1 },
        { kind := .tag, value := "t", inline := true, column := 3, start := 2, stop := 3 },
        { kind := .text, value := "y", column := 5, start := 4, stop := 5 },
        { kind := .tag, value := "u", inline := true, column := 7, start := 6, stop := 7 },
        { kind := .tag, value := "v", column := 10, start := 9, stop := 10 },
        { kind := .endOfInput, value := "", column := 12, start := 11, stop := 11 }] := by
    cbv
  obtain ⟨inline, -⟩ := @parse_row _ _ _ _ [] _ _ scanned ⟨[], _, rfl⟩ rfl rfl (by simp; decide)
  obtain ⟨-, script, cut, ok, statements, -, left, first, more, right, rfl, inside, -, apart⟩ :=
    @parse_row _ _ _ _ [_] _ _ scanned ⟨[_, _], [_], rfl⟩ rfl rfl (by simp; decide)
  obtain ⟨ends, right, rfl⟩ := apart _ _ rfl
  refine ⟨_, scanned, ⟨_, _, ⟨[], _, rfl⟩, rfl, inline.2 rfl⟩, _, _, _,
    ⟨[_, _], [_], rfl⟩, rfl, rfl, script, ok, left.map Block.statement, first,
    more, right.map Block.statement, ?_, inside, ends⟩
  rw [statements]
  simp [Block.statement]

/-- The second of two tags behind prose is on the line of the prose, with nothing but the first
between them. Still it is not inline, and no prose holds it. -/
theorem parse_second_tag_alone :
    ∃ text next tag last script,
      tokenize "a[b][c]" none {} = .ok [text, next, tag, last] ∧
      (text.kind = .text ∧ text.value = "a") ∧
      (next.kind = .tag ∧ next.value = "b" ∧ opener "a[b][c]".toList next = some '[') ∧
      (tag.kind = .tag ∧ tag.value = "c" ∧ opener "a[b][c]".toList tag = some '[') ∧
      tag.inline = false ∧ parse "a[b][c]" none {} = .ok script ∧
      ∀ span prose tags, .prose span prose tags ∈ script.statements → tagOf tag ∉ tags := by
  have scanned : tokenize "a[b][c]" none {} = .ok
      [{ kind := .text, value := "a", stop := 1 },
        { kind := .tag, value := "b", inline := true, column := 3, start := 2, stop := 3 },
        { kind := .tag, value := "c", column := 6, start := 5, stop := 6 },
        { kind := .endOfInput, value := "", column := 8, start := 7, stop := 7 }] := by
    cbv
  have ok := parse_eq_ok_iff.2 ⟨_, scanned, rfl⟩
  refine ⟨_, _, _, _, _, scanned, ⟨rfl, rfl⟩, ⟨rfl, rfl, rfl⟩, ⟨rfl, rfl, rfl⟩, rfl, ok, ?_⟩
  intro span prose tags member
  rcases List.mem_cons.1 member with same | isTag
  · cases same
    decide
  · cases List.mem_singleton.1 isTag

end Scenario.Grouping
