import Scenario.Proofs.Labels

/-! # Where statements stand

The offsets of a statement are those of its first and last tokens. Tokens come one after another
(`Before`), so statements do, and what a statement was made of is what its offsets cut out of the
source. For prose with tags inside, that is what remains when the tags are taken out together with
their brackets (`remainder`). The main statement is `parse_located`.
-/

namespace Scenario.Grouping

open Shape Adjacency Tiling

/-! ## Order of tokens -/

/-- A token begins and ends before another one begins, with so many characters or more between
them. -/
structure Before (gap : Nat) (one next : Token) : Prop where
  stop : one.stop + gap ≤ next.start
  start : one.start < next.start
  inside : next.start ≤ next.stop

instance (gap : Nat) : Trans (Before gap) (Before gap) (Before gap) where
  trans one next := by
    obtain ⟨stop, start, inside⟩ := one
    obtain ⟨further, onward, within⟩ := next
    exact ⟨by omega, by omega, within⟩

theorem Block.bounds_of_pairwise {block : Block} {token : Token}
    (ordered : block.tokens.Pairwise (Before 0)) (inside : token ∈ block.tokens) :
    block.first.start ≤ token.start ∧ token.stop ≤ block.last.stop := by
  constructor
  · rcases List.mem_cons.1 inside with rfl | isMore
    · exact Int.le_refl _
    · exact Int.le_of_lt (List.rel_of_pairwise_cons ordered isMore).start
  · obtain ⟨front, split⟩ := List.getLast?_eq_some_iff.1 block.getLast?_tokens
    rw [split] at inside ordered
    rcases List.mem_append.1 inside with isFront | isLast
    · obtain ⟨stop, -, within⟩ :=
        (List.pairwise_append.1 ordered).2.2 token isFront block.last (by simp)
      omega
    · obtain rfl : token = block.last := List.mem_singleton.1 isLast
      exact Int.le_refl _

section Laid

variable {options : Options} {source : String} {front : List Token} {last : Token}
  (laid : Laid options source front last)
include laid

theorem pairwise_front : front.Pairwise (Before 0) := by
  refine (laid.chain.left_of_append.imp_of_mem_imp ?_).pairwise
  intro one next _ isNext adjacent
  have ordered := adjacent.link.ordered one rfl
  exact ⟨by omega, adjacent.onward (laid.kind next isNext), (laid.occurs next isNext).bounds.2.1⟩

theorem pairwise_laid :
    (∀ block ∈ blocks none front, block.tokens.Pairwise (Before 0)) ∧
      (blocks none front).Pairwise fun one next =>
        ∀ x ∈ one.tokens, ∀ y ∈ next.tokens, Before 0 x y := by
  have ordered := pairwise_front laid
  rwa [← tokens_laid laid, List.pairwise_flatMap] at ordered

end Laid

/-! ## Spans of statements -/

/-- A token that stops at zero starts there, so it makes no difference which one is taken. -/
theorem stop_through {source : List Char} {token : Token} (occurs : Occurs source token)
    (span : Span) : (span.through token.span).stop = token.stop := by
  have bounds := occurs.bounds
  show Span.orElse token.stop token.start = token.stop
  unfold Span.orElse
  by_cases zero : token.stop = 0
  · rw [if_pos zero]
    omega
  · rw [if_neg zero]

/-- A statement has the span of its only token, or the one from its first to its last token. -/
theorem Block.span_statement (block : Block) :
    (block.last = block.first ∧ block.statement.toNode.span = block.first.span) ∨
      block.statement.toNode.span = block.first.span.through block.last.span := by
  cases block with
  | tag alone => exact .inl ⟨rfl, rfl⟩
  | prose first more => exact .inr rfl
  | label first more =>
    cases more using List.reverseRecOn with
    | nil => exact .inl ⟨rfl, rfl⟩
    | append_singleton more token =>
      have same : (Block.label first (more ++ [token])).last = token := List.getLastD_concat
      rw [same]
      simp only [statement, Statement.toNode, Node.span, List.getLast?_concat, Option.elim_some]
      exact .inr rfl

/-! ## Prose without its tags -/

/-- Whether an offset lies inside a tag or its brackets. -/
def covers (tag : Tag) (offset : Nat) : Bool :=
  tag.span.offset - 1 ≤ offset ∧ offset < tag.span.stop + 1

/-- The text between two offsets without the tags there and their brackets. -/
def remainder (source : String) (start stop : Int) (tags : List Tag) : String :=
  String.ofList ((((slice source start stop).toList.zipIdx start.toNat).filter fun entry =>
    tags.all fun tag => !covers tag entry.2).map Prod.fst)

section Remainder

variable {source : String} {start middle stop : Int} {tags : List Tag}

theorem length_slice :
    (slice source start stop).toList.length =
      min stop.toNat source.toList.length - start.toNat := by
  rw [slice, String.toList_ofList, List.length_drop, List.length_take]

theorem offset_of_mem_slice {entry : Char × Nat}
    (member : entry ∈ (slice source start stop).toList.zipIdx start.toNat) :
    start ≤ entry.2 ∧ entry.2 < stop := by
  have lower := List.le_snd_of_mem_zipIdx member
  have upper := List.snd_lt_add_of_mem_zipIdx member
  rw [length_slice] at upper
  omega

theorem remainder_append (front : start ≤ middle) (back : middle ≤ stop)
    (inside : middle ≤ source.toList.length) :
    remainder source start middle tags ++ remainder source middle stop tags =
      remainder source start stop tags := by
  have length : start.toNat + (slice source start middle).toList.length = middle.toNat := by
    rw [length_slice]
    omega
  rw [remainder, remainder, remainder, ← slice_append front back, String.toList_append,
    List.zipIdx_append, length, List.filter_append, List.map_append, String.ofList_append]

/-- Where there is no tag, nothing is taken out. -/
theorem remainder_of_apart
    (apart : ∀ tag ∈ tags, tag.span.stop + 1 ≤ start ∨ stop ≤ tag.span.offset - 1) :
    remainder source start stop tags = slice source start stop := by
  have all : ((slice source start stop).toList.zipIdx start.toNat).filter (fun entry =>
      tags.all fun tag => !covers tag entry.2) =
        (slice source start stop).toList.zipIdx start.toNat := by
    rw [List.filter_eq_self]
    intro entry member
    have place := offset_of_mem_slice member
    rw [List.all_eq_true]
    intro tag isTag
    have away := apart tag isTag
    simp only [covers, Bool.not_eq_true', decide_eq_false_iff_not]
    omega
  rw [remainder, all, List.zipIdx_map_fst, String.ofList_toList]

/-- A stretch inside a tag and its brackets is taken out. -/
theorem remainder_of_covers {tag : Tag} (isTag : tag ∈ tags) (lower : tag.span.offset - 1 ≤ start)
    (upper : stop ≤ tag.span.stop + 1) : remainder source start stop tags = "" := by
  have none : ((slice source start stop).toList.zipIdx start.toNat).filter (fun entry =>
      tags.all fun tag => !covers tag entry.2) = [] := by
    rw [List.filter_eq_nil_iff]
    intro entry member kept
    have place := offset_of_mem_slice member
    have covered := List.all_eq_true.1 kept tag isTag
    simp only [covers, Bool.not_eq_true', decide_eq_false_iff_not] at covered
    omega
  rw [remainder, none]
  rfl

end Remainder

/-- Where a token begins in prose, with its bracket if it is a tag. -/
def edge (token : Token) : Int := if token.kind = .tag then token.start - 1 else token.start

/-- In prose without gaps, prose and tags take turns and a bracket stands between them. -/
def Turns (one next : Token) : Prop :=
  next.start = one.stop + 1 ∧
    (one.kind = .text ∧ next.kind = .tag ∨ one.kind = .tag ∧ next.kind = .text)

/-- How a token of a run of prose stands to the tags that are taken out of it. -/
def Sorted (tags : List Tag) (token : Token) : Prop :=
  (token.kind = .text ∧
    ∀ tag ∈ tags, tag.span.stop + 1 ≤ token.start ∨ token.stop ≤ tag.span.offset - 1) ∨
  (token.kind = .tag ∧ tagOf token ∈ tags)

theorem remainder_token {source : String} {tags : List Tag} {token : Token} {stop : Int}
    (occurs : Occurs source.toList token) (sorted : Sorted tags token)
    (ends : stop = token.stop ∨ token.kind = .tag ∧ stop = token.stop + 1) :
    remainder source (edge token) stop tags = proseOf [token] := by
  rcases sorted with ⟨text, apart⟩ | ⟨tag, isTag⟩
  · have same : stop = token.stop := by
      rcases ends with same | ⟨other, -⟩
      · exact same
      · cases text.symm.trans other
    have start : edge token = token.start := by simp [edge, text]
    rw [start, same, remainder_of_apart apart, (proseOf_text text).1, occurs.value_eq_slice]
  · have start : edge token = token.start - 1 := by simp [edge, tag]
    have lower : (tagOf token).span.offset - 1 ≤ token.start - 1 := Int.le_refl _
    have upper : stop ≤ (tagOf token).span.stop + 1 := by
      show stop ≤ token.stop + 1
      omega
    rw [start, remainder_of_covers isTag lower upper, (proseOf_tag tag).1]

theorem edge_le_stop {source : List Char} {token : Token} (occurs : Occurs source token) :
    edge token ≤ token.stop := by
  have bounds := occurs.bounds
  unfold edge
  split <;> omega

/-- The induction goes from token to token: what remains of a run is what remains of its first token
and then of the others. -/
theorem remainder_run {source : String} {tags : List Tag} {first : Token} {more : List Token}
    (occurs : ∀ token ∈ first :: more, Occurs source.toList token)
    (chain : (first :: more).IsChain Turns)
    (sorted : ∀ token ∈ first :: more, Sorted tags token) :
    edge first ≤ (more.getLastD first).stop ∧
      remainder source (edge first) (more.getLastD first).stop tags = proseOf (first :: more) := by
  induction more generalizing first with
  | nil =>
    have here := occurs first List.mem_cons_self
    have sort := sorted first List.mem_cons_self
    exact ⟨edge_le_stop here, remainder_token here sort (.inl rfl)⟩
  | cons next more ih =>
    rw [List.isChain_cons_cons] at chain
    rw [List.forall_mem_cons] at occurs sorted
    have there := occurs.2 next List.mem_cons_self
    have begins := edge_le_stop occurs.1
    have ends : edge next = first.stop ∨ first.kind = .tag ∧ edge next = first.stop + 1 := by
      obtain ⟨⟨start, ⟨-, tag⟩ | ⟨tag, text⟩⟩, -⟩ := chain
      · have bracket : edge next = next.start - 1 := by simp [edge, tag]
        exact .inl (by omega)
      · have plain : edge next = next.start := by simp [edge, text]
        exact .inr ⟨tag, by omega⟩
    obtain ⟨ordered, rest⟩ := ih occurs.2 chain.2 sorted.2
    have inside : edge next ≤ source.toList.length :=
      Int.le_trans (edge_le_stop there) there.bounds.2.2
    have whole : first :: next :: more = [first] ++ (next :: more) := rfl
    rw [List.getLastD_cons]
    refine ⟨by omega, ?_⟩
    rw [← remainder_append (by omega) ordered inside, rest, remainder_token occurs.1 sorted.1 ends,
      whole, proseOf_append]

section Laid

variable {options : Options} {source : String} {front : List Token} {last : Token}
  (laid : Laid options source front last)
include laid

theorem turns_laid (keep : options.skipBlanks = false) {first : Token} {more : List Token}
    (member : .prose first more ∈ blocks none front) : (first :: more).IsChain Turns := by
  have formed : (Block.prose first more).Formed := formed_of_mem_blocks member
  refine ((isChain_laid laid).1 _ member).imp_of_mem_imp ?_
  intro one next isOne isNext adjacent
  rcases formed.kind_prose isNext with text | ⟨tag, inline⟩
  · rcases formed.kind_prose isOne with again | ⟨tag, inline⟩
    · exact absurd ⟨again, text⟩ (adjacent.link.apart one rfl)
    · exact ⟨adjacent.prose keep inline text, .inr ⟨tag, text⟩⟩
  · obtain ⟨-, -, _, ⟨⟩, text, stop, -⟩ := adjacent.link.inline.1 inline
    exact ⟨by omega, .inl ⟨text, tag⟩⟩

theorem pairwise_prose (keep : options.skipBlanks = false) {first : Token} {more : List Token}
    (member : .prose first more ∈ blocks none front) : (first :: more).Pairwise (Before 1) := by
  have ordered := ((pairwise_laid laid).1 _ member).isChain
  refine ((isChain_and (turns_laid laid keep member) ordered).imp ?_).pairwise
  rintro one next ⟨⟨stop, -⟩, before⟩
  exact ⟨by omega, before.start, before.inside⟩

theorem sorted_laid (keep : options.skipBlanks = false) {first token : Token} {more : List Token}
    (member : .prose first more ∈ blocks none front) (inside : token ∈ first :: more) :
    Sorted (tagsOf (first :: more)) token := by
  have formed : (Block.prose first more).Formed := formed_of_mem_blocks member
  rcases formed.kind_prose inside with text | ⟨tag, -⟩
  · refine .inl ⟨text, ?_⟩
    intro _ isTag
    obtain ⟨other, isOther, rfl⟩ := List.mem_map.1 isTag
    obtain ⟨there, kind⟩ := List.mem_filter.1 isOther
    have different : other ≠ token := by
      rintro rfl
      simp [text] at kind
    have apart : (first :: more).Pairwise fun one next => Before 1 one next ∨ Before 1 next one :=
      (pairwise_prose laid keep member).imp Or.inl
    have : Std.Symm fun one next => Before 1 one next ∨ Before 1 next one := ⟨fun _ _ => Or.symm⟩
    rcases apart.forall there inside different with before | behind
    · exact .inl before.stop
    · have stop := behind.stop
      exact .inr (show token.stop ≤ other.start - 1 by omega)
  · refine .inr ⟨tag, List.mem_map_of_mem ?_⟩
    rw [List.mem_filter]
    exact ⟨inside, by simpa using tag⟩

end Laid

/-! ## Scripts -/

/-- The text of a tag stands where its offsets say. -/
def Spelled (source : String) (tag : Tag) : Prop :=
  slice source tag.span.offset tag.span.stop = tag.text

/-- What a statement holds is what its offsets cut out of a source. The tags of a run of prose lie
inside it, and where no blanks are passed the prose is all the rest of it. -/
def Holds (options : Options) (source : String) : Statement → Prop
  | .label span names => slice source span.offset span.stop = "|".intercalate names
  | .tag alone => Spelled source alone
  | .prose span text tags =>
      (∀ tag ∈ tags, Spelled source tag ∧ span.offset ≤ tag.span.offset ∧
        tag.span.offset ≤ tag.span.stop ∧ tag.span.stop ≤ span.stop) ∧
      (options.skipBlanks = false → remainder source span.offset span.stop tags = text)

/-- A script covers a source, and its statements come one after another inside. -/
structure Located (options : Options) (source : String) (script : Script) : Prop where
  whole : script.span.offset = 0 ∧ script.span.stop = source.length
  inside : ∀ statement ∈ script.statements, 0 ≤ statement.toNode.span.offset ∧
    statement.toNode.span.offset ≤ statement.toNode.span.stop ∧
    statement.toNode.span.stop ≤ source.length
  ordered : script.statements.Pairwise fun one next =>
    one.toNode.span.offset < next.toNode.span.offset ∧
      one.toNode.span.stop ≤ next.toNode.span.offset
  holds : ∀ statement ∈ script.statements, Holds options source statement

section Laid

variable {options : Options} {source : String} {front : List Token} {last : Token}
  (laid : Laid options source front last)
include laid

theorem span_laid {block : Block} (member : block ∈ blocks none front) :
    block.statement.toNode.span.offset = block.first.start ∧
      block.statement.toNode.span.stop = block.last.stop := by
  have occurs := occurs_of_mem_tokens laid member block.last_mem_tokens
  rcases block.span_statement with ⟨alone, span⟩ | span
  · rw [span, alone]
    exact ⟨rfl, rfl⟩
  · rw [span]
    exact ⟨rfl, stop_through occurs block.first.span⟩

theorem holds_prose {first : Token} {more : List Token}
    (member : .prose first more ∈ blocks none front) :
    Holds options source (Block.prose first more).statement := by
  have formed : (Block.prose first more).Formed := formed_of_mem_blocks member
  have stop := (span_laid laid member).2
  constructor
  · intro tag isTag
    obtain ⟨token, isToken, rfl⟩ := List.mem_map.1 isTag
    have there : token ∈ (Block.prose first more).tokens := List.mem_of_mem_filter isToken
    have occurs := occurs_of_mem_tokens laid member there
    obtain ⟨lower, upper⟩ := Block.bounds_of_pairwise ((pairwise_laid laid).1 _ member) there
    refine ⟨occurs.value_eq_slice.symm, lower, occurs.bounds.2.1, ?_⟩
    exact upper.trans_eq stop.symm
  · intro keep
    have occurs : ∀ token ∈ first :: more, Occurs source.toList token :=
      fun _ => occurs_of_mem_tokens laid member
    have start : edge first = first.start := by simp [edge, formed.1]
    have rest := (remainder_run occurs (turns_laid laid keep member)
      fun _ => sorted_laid laid keep member).2
    show remainder source first.start (Block.prose first more).statement.toNode.span.stop _ = _
    rwa [stop, ← start]

theorem holds_laid {block : Block} (member : block ∈ blocks none front) :
    Holds options source block.statement := by
  obtain ⟨start, stop⟩ := span_laid laid member
  cases block with
  | tag alone =>
    exact (occurs_of_mem_tokens laid member List.mem_cons_self).value_eq_slice.symm
  | prose first more => exact holds_prose laid member
  | label first more =>
    show slice source (Block.label first more).statement.toNode.span.offset
      (Block.label first more).statement.toNode.span.stop = _
    rw [start, stop]
    exact (slice_label laid member).2

theorem located_of_laid :
    Located options source ⟨wholeSpan last, (blocks none front).map Block.statement⟩ where
  whole := ⟨rfl, laid.ended.2.2⟩
  inside := by
    intro statement member
    obtain ⟨block, there, rfl⟩ := List.mem_map.1 member
    obtain ⟨start, stop⟩ := span_laid laid there
    obtain ⟨lower, first, -⟩ := (occurs_of_mem_tokens laid there List.mem_cons_self).bounds
    obtain ⟨-, -, upper⟩ := (occurs_of_mem_tokens laid there block.last_mem_tokens).bounds
    have ordered := Block.bounds_of_pairwise ((pairwise_laid laid).1 _ there) List.mem_cons_self
    rw [start, stop, ← String.length_toList]
    omega
  ordered := by
    rw [List.pairwise_map]
    refine (pairwise_laid laid).2.imp_of_mem ?_
    intro one next isOne isNext before
    obtain ⟨start, stop⟩ := span_laid laid isOne
    obtain ⟨onward, -⟩ := span_laid laid isNext
    have first := before one.first List.mem_cons_self next.first List.mem_cons_self
    have last := before one.last one.last_mem_tokens next.first List.mem_cons_self
    have further := last.stop
    rw [start, stop, onward]
    exact ⟨first.start, by omega⟩
  holds := by
    intro statement member
    obtain ⟨block, there, rfl⟩ := List.mem_map.1 member
    exact holds_laid laid there

end Laid

/-- A source that is read to its end has a script, and every node of it stands where its offsets
say. -/
theorem parse_located {source : String} {file : Option String} {options : Options} {script : Script}
    (ok : parse source file options = .ok script) : Located options source script := by
  obtain ⟨front, last, -, laid, rfl⟩ := exists_laid_of_parse ok
  exact located_of_laid laid

/-- A label of two segments, a tag of its own, prose with a tag inside, a directive, and prose with
a tag that is left open. -/
theorem parse_located_mixed :
    ∃ script, parse "*p|q\n[t]a[[[u]b\n@d\nc[o" none {} = .ok script ∧
      Located {} "*p|q\n[t]a[[[u]b\n@d\nc[o" script ∧
      script.statements.map (fun statement =>
        (statement.toNode.span.offset, statement.toNode.span.stop)) =
          [(1, 4), (6, 7), (8, 16), (17, 18), (19, 22)] := by
  have scanned : tokenize "*p|q\n[t]a[[[u]b\n@d\nc[o" none {} = .ok
      [{ kind := .label, value := "p", column := 2, start := 1, stop := 2 },
        { kind := .label, value := "q", column := 4, start := 3, stop := 4 },
        { kind := .tag, value := "t", line := 2, column := 2, start := 6, stop := 7 },
        { kind := .text, value := "a[[", line := 2, column := 4, start := 8, stop := 11 },
        { kind := .tag, value := "u", inline := true, line := 2, column := 8, start := 12,
          stop := 13 },
        { kind := .text, value := "b\n", line := 2, column := 10, start := 14, stop := 16 },
        { kind := .tag, value := "d", line := 3, column := 2, start := 17, stop := 18 },
        { kind := .text, value := "c", line := 4, column := 1, start := 19, stop := 20 },
        { kind := .tag, value := "o", inline := true, line := 4, column := 3, start := 21,
          stop := 22 },
        { kind := .endOfInput, value := "", line := 4, column := 4, start := 22, stop := 22 }] := by
    cbv
  have ok := parse_eq_ok_iff.2 ⟨_, scanned, rfl⟩
  exact ⟨_, ok, parse_located ok, rfl⟩

end Scenario.Grouping
